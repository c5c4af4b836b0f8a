import ClassLiveness.Proofs.Tracker.Course

/-!
# The transcript of a command

A command makes calls on its host one after the other, and the host is nobody else's
meanwhile.  So the calls of a command, told in their order, determine every state that the
host was in (`Host.replay`), and each call can be looked at together with the state in
which it met the host (`Host.meetings`).

Which calls a command may make at all is listed in `Tracker.MayMake`.  What is kept by every
such call is kept by the command (`Tracker.perform_carries`).  In particular the transcript
of a command is faithful: it says of every call whether and why the host failed it, and the
host is left as the calls say (`Tracker.perform_faithful`).
-/

set_option autoImplicit false

namespace ClassLiveness

variable {σ C S : Type}

/-- Why an answer is a failure, if it is one. -/
def failureIn {α : Type} : Except HostError α → Option HostError
  | .ok _ => none
  | .error failure => some failure

/-- A call together with the state in which it met the host. -/
structure Meeting (σ C S : Type) where
  state : σ
  record : CallRecord C S

namespace Host

variable (host : Host σ C S)

/-! ## Calls and dialogues -/

/-- The dialogue after one more call. -/
def extend (call : Call C S) (dialogue : Dialogue σ C S) : Dialogue σ C S :=
  ⟨(host.answer call dialogue.host).2,
    dialogue.calls ++ [⟨call, failureIn (host.answer call dialogue.host).1⟩]⟩

/-- A call keeps a property of dialogues. -/
def Carries (call : Call C S) (Kept : Dialogue σ C S → Prop) : Prop :=
  ∀ dialogue, Kept dialogue → Kept (host.extend call dialogue)

/-- The state that a list of calls leads the host to. -/
def replay (state : σ) (calls : List (CallRecord C S)) : σ :=
  calls.foldl (fun state record => (host.answer record.call state).2) state

/-- The calls of a list with the states in which they meet the host. -/
def meetings : σ → List (CallRecord C S) → List (Meeting σ C S)
  | _, [] => []
  | state, record :: rest => ⟨state, record⟩ :: meetings (host.answer record.call state).2 rest

theorem replay_append (state : σ) (first second : List (CallRecord C S)) :
    host.replay state (first ++ second) = host.replay (host.replay state first) second :=
  List.foldl_append

theorem meetings_append (state : σ) (first second : List (CallRecord C S)) :
    host.meetings state (first ++ second) =
      host.meetings state first ++ host.meetings (host.replay state first) second := by
  induction first generalizing state with
  | nil => rfl
  | cons record rest ih => exact congrArg _ (ih _)

theorem map_record_meetings (state : σ) (calls : List (CallRecord C S)) :
    (host.meetings state calls).map Meeting.record = calls := by
  induction calls generalizing state with
  | nil => rfl
  | cons record rest ih => exact congrArg _ (ih _)

/-- The last call met the host in the state that the others led to. -/
theorem mem_meetings_snoc {state : σ} {calls : List (CallRecord C S)} {record : CallRecord C S}
    {meeting : Meeting σ C S} (member : meeting ∈ host.meetings state (calls ++ [record])) :
    meeting ∈ host.meetings state calls ∨ meeting = ⟨host.replay state calls, record⟩ := by
  rw [meetings_append] at member
  rcases List.mem_append.mp member with earlier | last
  · exact .inl earlier
  · exact .inr (List.mem_singleton.mp last)

/-! ## Faithful dialogues -/

/-- The record of a call says what the host answered. -/
def Recorded (meeting : Meeting σ C S) : Prop :=
  meeting.record.failure? = failureIn (host.answer meeting.record.call meeting.state).1

/-- A dialogue that started in a state says what the host answered to every call, and the
host is in the state that the calls have led to. -/
structure Faithful (state : σ) (dialogue : Dialogue σ C S) : Prop where
  host_eq : dialogue.host = host.replay state dialogue.calls
  recorded : ∀ meeting ∈ host.meetings state dialogue.calls, host.Recorded meeting

variable {host}

/-- A host that is where the calls have led it stays there with one more call. -/
theorem replay_extend {state : σ} {dialogue : Dialogue σ C S}
    (atHost : dialogue.host = host.replay state dialogue.calls) (call : Call C S) :
    (host.extend call dialogue).host = host.replay state (host.extend call dialogue).calls := by
  change (host.answer call dialogue.host).2 = host.replay state (dialogue.calls ++ [_])
  rw [replay_append, ← atHost]
  rfl

theorem Faithful.extend {state : σ} {dialogue : Dialogue σ C S}
    (faithful : host.Faithful state dialogue) (call : Call C S) :
    host.Faithful state (host.extend call dialogue) := by
  refine ⟨replay_extend faithful.host_eq call, ?_⟩
  intro meeting member
  rcases host.mem_meetings_snoc member with earlier | rfl
  · exact faithful.recorded meeting earlier
  · rw [← faithful.host_eq]
    rfl

namespace Carries

variable {call : Call C S} {Kept : Dialogue σ C S → Prop} {dialogue : Dialogue σ C S} {state : σ}

theorem answered (carries : host.Carries call Kept) (kept : Kept dialogue) {reply : call.Reply}
    (answered : host.answer call dialogue.host = (.ok reply, state)) :
    Kept ⟨state, dialogue.calls ++ [⟨call, none⟩]⟩ := by
  have keptAfter := carries dialogue kept
  rwa [extend, answered] at keptAfter

theorem failed (carries : host.Carries call Kept) (kept : Kept dialogue) {failure : HostError}
    (failed : host.answer call dialogue.host = (.error failure, state)) :
    Kept ⟨state, dialogue.calls ++ [⟨call, some failure⟩]⟩ := by
  have keptAfter := carries dialogue kept
  rwa [extend, failed] at keptAfter

end Carries

/-- Asking about the holders of a tag is one call, however it ends. -/
theorem isLive_ok_extend {session : S} {tag : Tag} {dialogue after : Dialogue σ C S} {live : Bool}
    (told : host.isLive session tag dialogue = .ok live after) :
    after = host.extend (.liveCount session tag) dialogue := by
  rw [isLive_apply] at told
  split at told <;> cases told <;> simp_all only [extend, failureIn]

theorem isLive_error_extend {session : S} {tag : Tag} {dialogue after : Dialogue σ C S}
    {reason : TrackingError} (told : host.isLive session tag dialogue = .error reason after) :
    after = host.extend (.liveCount session tag) dialogue := by
  rw [isLive_apply] at told
  split at told <;> cases told <;> simp_all only [extend, failureIn]

end Host

namespace Tracker

/-! ## The calls that a command may make -/

/-- The calls with which a class comes to be tracked in a session. -/
inductive Tracks (session : S) (handle : C) : Call C S → Prop where
  | looking : Tracks session handle (.tagOf session handle)
  | naming : Tracks session handle (.signatureOf handle)
  | tagging (tag : Tag) : Tracks session handle (.setTag session handle tag)

/-- The calls that a command may make. -/
inductive MayMake (host : Host σ C S) (tracker : Tracker S) (state : σ) :
    Command C → Call C S → Prop where
  | opening : tracker.poisoned = false → tracker.session = none →
      MayMake host tracker state .startUp .openSession
  | listing : tracker.poisoned = false → MayMake host tracker state .startUp .loadedClasses
  /-- A class of an enumeration is tracked in the session that was opened. -/
  | enumerating {session : S} {handle : C} {after : σ} {call : Call C S} :
      tracker.poisoned = false →
      host.answer .openSession state = (.ok session, after) → Tracks session handle call →
        MayMake host tracker state .startUp call
  | adding {session : S} {handle : C} {call : Call C S} :
      tracker.poisoned = false → tracker.session = some session → Tracks session handle call →
        MayMake host tracker state (.add handle) call
  | counting {command : Command C} {session : S} (tag : Tag) :
      command = .processUnloads ∨ command = .processPendingUnloads →
      tracker.poisoned = false → tracker.session = some session →
        MayMake host tracker state command (.liveCount session tag)
  | closing {session : S} : tracker.session = some session →
      MayMake host tracker state .reset (.close session)

/-- Among the commands that make calls only a reset is open to a poisoned tracker. -/
theorem MayMake.isGuarded {host : Host σ C S} {tracker : Tracker S} {state : σ}
    {command : Command C} {call : Call C S} (mayMake : MayMake host tracker state command call)
    (notReset : command ≠ .reset) : command.isGuarded = true := by
  cases mayMake with
  | closing => exact absurd rfl notReset
  | counting _ isPass => obtain rfl | rfl := isPass <;> rfl
  | _ => rfl

/-! ## What every call keeps -/

section

variable {host : Host σ C S} {session : S} {handle : C} {before after : Scene σ C S}
  {Kept : Dialogue σ C S → Prop}

theorem Screened.carries {screened : Scene σ C S}
    (passed : Screened host session handle before screened)
    (carries : ∀ call, Tracks session handle call → host.Carries call Kept)
    (kept : Kept before.dialogue) : Kept screened.dialogue := by
  cases passed with
  | unchecked => exact kept
  | untagged _ told => exact (carries _ .looking).answered kept told

theorem Attempt.carries {result : Except Stop Tag}
    (attempt : Attempt host session handle before result after)
    (carries : ∀ call, Tracks session handle call → host.Carries call Kept)
    (kept : Kept before.dialogue) : Kept after.dialogue := by
  have looking := carries _ .looking
  have naming := carries _ .naming
  have tagging := fun tag => carries _ (.tagging tag)
  cases attempt with
  | unscreened _ failed => exact looking.failed kept failed
  | duplicate _ told => exact looking.answered kept told
  | exhausted passed => exact passed.carries carries kept
  | unnamed passed _ failed => exact naming.failed (passed.carries carries kept) failed
  | untagged passed _ named failed =>
      have keptNamed := naming.answered (passed.carries carries kept) named
      exact (tagging _).failed keptNamed failed
  | clash passed _ named tagged =>
      have keptNamed := naming.answered (passed.carries carries kept) named
      exact (tagging _).answered keptNamed tagged
  | tracked passed _ named tagged =>
      have keptNamed := naming.answered (passed.carries carries kept) named
      exact (tagging _).answered keptNamed tagged

theorem trackAll_carries (handles : List C) {scene : Scene σ C S}
    (opened : scene.tracker.session = some session)
    (carries : ∀ handle call, Tracks session handle call → host.Carries call Kept)
    (kept : Kept scene.dialogue) :
    (trackAll host handles).Ends scene
      (fun _ after => Kept after.dialogue) (fun _ after => Kept after.dialogue) := by
  refine trackAll_keeps (fun now => Kept now.dialogue) ?_ handles opened kept
  intro _ _ _ _ _ keptNow attempt
  exact attempt.carries (carries _) keptNow

theorem Population.carries {result : Except Stop Unit}
    (populated : Population host before result after)
    (opening : host.Carries .openSession Kept) (listing : host.Carries .loadedClasses Kept)
    (tracking : ∀ session state, host.answer .openSession before.host = (.ok session, state) →
      ∀ handle call, Tracks session handle call → host.Carries call Kept)
    (kept : Kept before.dialogue) : Kept after.dialogue := by
  cases populated with
  | unopened failed => exact opening.failed kept failed
  | unlisted opened failed => exact listing.failed (opening.answered kept opened) failed
  | halted opened listed stopped =>
      have keptListed := listing.answered (opening.answered kept opened) listed
      exact (trackAll_carries _ rfl (tracking _ _ opened) keptListed).error stopped
  | complete opened listed tracked =>
      have keptListed := listing.answered (opening.answered kept opened) listed
      have keptAfter := (trackAll_carries _ rfl (tracking _ _ opened) keptListed).ok tracked
      exact keptAfter

theorem inquest_carries (tracker : Tracker S) {dialogue : Dialogue σ C S}
    (counting : ∀ tag, host.Carries (.liveCount session tag) Kept) (kept : Kept dialogue) :
    Kept (tracker.inquest host session dialogue).state := by
  have ends := Registry.inquire_ends (host.isLive session) tracker.tracked dialogue Kept
    (fun _ now => Kept now) ?_ ?_ kept
  · cases failed : (tracker.inquest host session dialogue).failure? with
    | none => exact ends.1 failed
    | some reason => exact ends.2 reason failed
  · intro tag now live later keptNow told
    rw [Host.isLive_ok_extend told]
    exact counting tag now keptNow
  · intro tag now reason later keptNow told
    rw [Host.isLive_error_extend told]
    exact counting tag now keptNow

theorem Inspection.carries {result : Except Stop UnloadReport}
    (inspection : Inspection host session before result after)
    (counting : ∀ tag, host.Carries (.liveCount session tag) Kept)
    (kept : Kept before.dialogue) : Kept after.dialogue := by
  cases inspection with
  | overfull => exact kept
  | failed => exact inquest_carries before.tracker counting kept
  | completed => exact inquest_carries before.tracker counting kept

/-- **What every call that a command may make keeps, every course of the command keeps.** -/
theorem Course.carries {tracker : Tracker S} {state : σ} {command : Command C}
    {result : Except Stop Reply}
    (course : Course host (.start tracker state) command result after)
    (carries : ∀ call, MayMake host tracker state command call → host.Carries call Kept)
    (kept : Kept ⟨state, []⟩) : Kept after.dialogue := by
  cases course with
  | refused => exact kept
  | viewed => exact kept
  | noted => exact kept
  | started usable closed populated =>
      exact populated.carries (carries _ (.opening usable closed)) (carries _ (.listing usable))
        (fun _ _ opened _ _ tracks => carries _ (.enumerating usable opened tracks)) kept
  | @unstarted stop _ usable closed populated =>
      have keptAfter := populated.carries (carries _ (.opening usable closed))
        (carries _ (.listing usable))
        (fun _ _ opened _ _ tracks => carries _ (.enumerating usable opened tracks)) kept
      rw [← Scene.dialogue_settled _ stop] at keptAfter
      exact keptAfter
  | added usable opened attempt =>
      exact attempt.carries (fun _ tracks => carries _ (.adding usable opened tracks)) kept
  | unadded usable opened attempt =>
      rw [Scene.dialogue_settled]
      exact attempt.carries (fun _ tracks => carries _ (.adding usable opened tracks)) kept
  | passed isPass usable opened inspection =>
      exact inspection.carries (fun tag => carries _ (.counting tag isPass usable opened)) kept
  | unpassed isPass usable opened inspection =>
      exact inspection.carries (fun tag => carries _ (.counting tag isPass usable opened)) kept
  | resetUnopened => exact kept
  | resetClosed opened closed => exact (carries _ (.closing opened)).answered kept closed
  | resetUnclosed opened failed => exact (carries _ (.closing opened)).failed kept failed

end

/-! ## Every command -/

variable {tracker : Tracker S}

/-- **What every call that a command may make keeps, the command keeps.** -/
theorem perform_carries (host : Host σ C S) (command : Command C) (state : σ)
    (keeps : tracker.registry.Keeps ⟨tracker.tracked, []⟩) (Kept : Dialogue σ C S → Prop)
    (carries : ∀ call, MayMake host tracker state command call → host.Carries call Kept)
    (kept : Kept ⟨state, []⟩) :
    Kept ⟨(tracker.perform host command state).host,
      (tracker.perform host command state).calls⟩ := by
  obtain ⟨after, outcome, course⟩ := perform_course host command tracker state keeps
  rw [outcome]
  exact course.carries carries kept

/-- **The transcript of a command is faithful.** -/
theorem perform_faithful (host : Host σ C S) (command : Command C) (state : σ)
    (keeps : tracker.registry.Keeps ⟨tracker.tracked, []⟩) :
    host.Faithful state ⟨(tracker.perform host command state).host,
      (tracker.perform host command state).calls⟩ := by
  refine perform_carries host command state keeps (host.Faithful state) ?_ ⟨rfl, nofun⟩
  intro call _ dialogue faithful
  exact faithful.extend call

/-- A command makes no calls but those that it may make. -/
theorem mayMake_of_mem_calls (host : Host σ C S) (command : Command C) (state : σ)
    (keeps : tracker.registry.Keeps ⟨tracker.tracked, []⟩) :
    ∀ record ∈ (tracker.perform host command state).calls,
      MayMake host tracker state command record.call := by
  refine perform_carries host command state keeps (fun dialogue =>
    ∀ record ∈ dialogue.calls, MayMake host tracker state command record.call) ?_ nofun
  intro call permitted dialogue kept record member
  rcases List.mem_append.mp member with earlier | last
  · exact kept record earlier
  · rw [List.mem_singleton.mp last]
    exact permitted

end Tracker

end ClassLiveness

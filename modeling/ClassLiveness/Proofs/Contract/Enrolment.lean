import ClassLiveness.Proofs.Contract.Sessions
import ClassLiveness.Proofs.Tracker.Books

/-!
# The roll of the tagged classes

Somebody who listens to the calls of a tracker always knows the state of the host, and
the roll of the classes that were tagged has the tags that the calls tell of.  Every
tracked record is on this roll, so the signature of a record is the one that the host
gave when the class came to be tracked (`Enrolled`).

This asks nothing of the host.  It is kept by calls that hang no tag
(`Enrolled.called`), by a call for a tag that the host fails (`Enrolled.untagged`), and
by the two calls with which a class comes to be tracked (`Enrolled.tagged`); so it
is kept by every course of a command (`Tracker.Course.enrolled`).
-/

set_option autoImplicit false

namespace ClassLiveness

variable {σ C S : Type}

/-! ## Hearing a call -/

section

variable (host : Host σ C S) (state : σ) (roll : List (C × ClassRecord))
  (calls : List (CallRecord C S)) (record : CallRecord C S)

theorem listen_append :
    listen host state roll (calls ++ [record]) = (listen host state roll calls).hear host record :=
  List.foldl_append

/-- Nobody gets a tag by a call that hangs none. -/
theorem hear_of_untagging {call : Call C S} (untagging : (call.op == .setTag) = false)
    (failure? : Option HostError) (listener : Listener σ C) :
    (listener.hear host ⟨call, failure?⟩).host = (host.answer call listener.host).2 ∧
      (listener.hear host ⟨call, failure?⟩).roll = listener.roll := by
  cases call with
  | signatureOf handle =>
      rcases answered : host.answer (.signatureOf handle) listener.host with
        ⟨failure | signature, after⟩
      · simp only [Listener.hear, answered, and_self]
      · simp only [Listener.hear, answered, and_self]
  | setTag => cases untagging
  | openSession | loadedClasses | tagOf | liveCount | close => exact ⟨rfl, rfl⟩

/-- A call that hangs no tag leaves the roll as it is. -/
theorem roll_append {call : Call C S} (untagging : (call.op == .setTag) = false)
    (failure? : Option HostError) :
    (listen host state roll (calls ++ [⟨call, failure?⟩])).roll =
      (listen host state roll calls).roll := by
  rw [listen_append]
  exact (hear_of_untagging host untagging failure? _).2

/-- Nobody is struck off the roll by a call. -/
theorem roll_prefix_hear (listener : Listener σ C) :
    listener.roll <+: (listener.hear host record).roll := by
  obtain ⟨call, failure?⟩ := record
  by_cases untagging : (call.op == .setTag) = false
  · simp only [(hear_of_untagging host untagging failure? listener).2, List.prefix_rfl]
  · cases call with
    | setTag session handle tag =>
        rcases answered : host.answer (.setTag session handle tag) listener.host with
          ⟨failure | _, after⟩
        · simp only [Listener.hear, answered, List.prefix_rfl]
        · simp only [Listener.hear, answered, List.prefix_append]
    | openSession | loadedClasses | tagOf | signatureOf | liveCount | close =>
        exact absurd rfl untagging

/-- Somebody who listens to more calls knows of more classes. -/
theorem roll_prefix_listen {first second : List (CallRecord C S)} (more : first <+: second) :
    (listen host state roll first).roll <+: (listen host state roll second).roll := by
  obtain ⟨later, rfl⟩ := more
  rw [listen, listen, List.foldl_append]
  generalize first.foldl (Listener.hear host) ⟨state, "", roll⟩ = listener
  induction later generalizing listener with
  | nil => exact List.prefix_refl _
  | cons record rest ih => exact (roll_prefix_hear host record listener).trans (ih _)

end

/-! ## Scenes -/

/-- The tags that the classes of a roll got. -/
def rollMarks (roll : List (C × ClassRecord)) : List (C × Tag) :=
  roll.map fun entry => (entry.1, entry.2.tag)

/-- The tracked records are on the roll, and the roll has the tags that the calls
tell of. -/
structure Enrolled (host : Host σ C S) (state : σ) (roll : List (C × ClassRecord))
    (log : List (CallRecord C S)) (scene : Scene σ C S) : Prop where
  host_eq : (listen host state roll scene.calls).host = scene.host
  marks_eq : rollMarks (listen host state roll scene.calls).roll = marks (log ++ scene.calls)
  enrolled : ∀ record ∈ scene.tracker.tracked,
    ∃ handle, (handle, record) ∈ (listen host state roll scene.calls).roll

namespace Enrolled

variable {host : Host σ C S} {state : σ} {roll : List (C × ClassRecord)}
  {log : List (CallRecord C S)} {scene : Scene σ C S}

/-- Records may leave. -/
theorem shrink (enrolled : Enrolled host state roll log scene) {other : Scene σ C S}
    (sameDialogue : other.dialogue = scene.dialogue)
    (fewer : ∀ record ∈ other.tracker.tracked, record ∈ scene.tracker.tracked) :
    Enrolled host state roll log other := by
  have sameHost : other.host = scene.host := congrArg Dialogue.host sameDialogue
  have sameCalls : other.calls = scene.calls := congrArg Dialogue.calls sameDialogue
  refine ⟨?_, ?_, ?_⟩
  · rw [sameCalls, sameHost]
    exact enrolled.host_eq
  · rw [sameCalls]
    exact enrolled.marks_eq
  · rw [sameCalls]
    exact fun record member => enrolled.enrolled record (fewer record member)

theorem supplied (enrolled : Enrolled host state roll log scene) (tags : TagSupply) :
    Enrolled host state roll log (scene.supplied tags) :=
  enrolled.shrink rfl fun _ member => member

theorem opened (enrolled : Enrolled host state roll log scene) (session : S) :
    Enrolled host state roll log (scene.opened session) :=
  enrolled.shrink rfl fun _ member => member

/-- A call that hangs no tag. -/
theorem called (enrolled : Enrolled host state roll log scene) {call : Call C S}
    {answer : Except HostError call.Reply} {after : σ} (untagging : (call.op == .setTag) = false)
    (answered : host.answer call scene.host = (answer, after)) (failure? : Option HostError) :
    Enrolled host state roll log (scene.called call failure? after) := by
  obtain ⟨sameHost, sameRoll⟩ :=
    hear_of_untagging host untagging failure? (listen host state roll scene.calls)
  have none : marks [⟨call, failure?⟩] = [] := by
    cases call <;> first | rfl | cases untagging
  refine ⟨?_, ?_, ?_⟩
  · rw [Scene.calls_called, listen_append, sameHost, enrolled.host_eq, answered]
    rfl
  · rw [Scene.calls_called, listen_append, sameRoll, enrolled.marks_eq, ← List.append_assoc,
      marks_append _ [_], none, List.append_nil]
  · rw [Scene.calls_called, listen_append, sameRoll]
    exact enrolled.enrolled

/-- The host fails to hang a tag on a class, and the listener hears it. -/
theorem listen_untagged (enrolled : Enrolled host state roll log scene) {session : S} {handle : C}
    {tag : Tag} {failure : HostError} {after : σ}
    (failed : host.answer (.setTag session handle tag) scene.host = (.error failure, after)) :
    listen host state roll (scene.calls ++ [⟨.setTag session handle tag, some failure⟩]) =
      { listen host state roll scene.calls with host := after } := by
  rw [listen_append]
  simp only [Listener.hear, enrolled.host_eq, failed]

/-- The host fails to hang a tag on a class. -/
theorem untagged (enrolled : Enrolled host state roll log scene) {session : S} {handle : C}
    {tag : Tag} {failure : HostError} {after : σ}
    (failed : host.answer (.setTag session handle tag) scene.host = (.error failure, after)) :
    Enrolled host state roll log
      (scene.called (.setTag session handle tag) (some failure) after) := by
  have heard := enrolled.listen_untagged failed
  refine ⟨?_, ?_, ?_⟩
  · rw [Scene.calls_called, heard]
    rfl
  · rw [Scene.calls_called, heard, ← List.append_assoc, marks_append _ [_]]
    exact enrolled.marks_eq.trans (List.append_nil _).symm
  · rw [Scene.calls_called, heard]
    exact enrolled.enrolled

/-- A class comes to be tracked, and the listener hears with which tag and signature. -/
theorem listen_tagged (enrolled : Enrolled host state roll log scene) {session : S} {handle : C}
    {tag : Tag} {signature : String} {named after : σ}
    (naming : host.answer (.signatureOf handle) scene.host = (.ok signature, named))
    (tagging : host.answer (.setTag session handle tag) named = (.ok (), after)) :
    listen host state roll (scene.calls ++ [⟨.signatureOf handle, none⟩] ++
        [⟨.setTag session handle tag, none⟩]) =
      ⟨after, signature,
        (listen host state roll scene.calls).roll ++ [(handle, ⟨tag, signature⟩)]⟩ := by
  rw [listen_append, listen_append]
  simp only [Listener.hear, enrolled.host_eq, naming, tagging]

/-- The two calls with which a class comes to be tracked. -/
theorem tagged (enrolled : Enrolled host state roll log scene) {session : S} {handle : C}
    {tag : Tag} {signature : String} {named after : σ} {other : Scene σ C S}
    (naming : host.answer (.signatureOf handle) scene.host = (.ok signature, named))
    (tagging : host.answer (.setTag session handle tag) named = (.ok (), after))
    (sameDialogue : other.dialogue =
      ((scene.called (.signatureOf handle) none named).called (.setTag session handle tag) none
        after).dialogue)
    (tracked : other.tracker.tracked = ⟨tag, signature⟩ :: scene.tracker.tracked) :
    Enrolled host state roll log other := by
  have sameHost : other.host = after := congrArg Dialogue.host sameDialogue
  have sameCalls : other.calls = scene.calls ++ [⟨.signatureOf handle, none⟩] ++
      [⟨.setTag session handle tag, none⟩] := congrArg Dialogue.calls sameDialogue
  have heard := enrolled.listen_tagged naming tagging
  rw [← sameCalls] at heard
  refine ⟨?_, ?_, ?_⟩
  · rw [heard, sameHost]
  · rw [heard, sameCalls, ← List.append_assoc, ← List.append_assoc, marks_tagged, rollMarks,
      List.map_append]
    exact congrArg (· ++ [(handle, tag)]) enrolled.marks_eq
  · rw [heard, tracked]
    intro record member
    rcases List.mem_cons.mp member with rfl | wasTracked
    · exact ⟨handle, List.mem_append_right _ (List.mem_singleton_self _)⟩
    · obtain ⟨owner, listed⟩ := enrolled.enrolled record wasTracked
      exact ⟨owner, List.mem_append_left _ listed⟩

end Enrolled

/-! ## What keeps the roll -/

namespace Tracker

section

variable {host : Host σ C S} {session : S} {handle : C} {state : σ}
  {roll : List (C × ClassRecord)} {log : List (CallRecord C S)} {before after : Scene σ C S}

theorem Screened.enrolled {screened : Scene σ C S}
    (passed : Screened host session handle before screened)
    (enrolled : Enrolled host state roll log before) :
    Enrolled host state roll log screened := by
  cases passed with
  | unchecked => exact enrolled
  | untagged _ told => exact enrolled.called rfl told _

/-- **An attempt to track a class keeps the roll.** -/
theorem Attempt.enrolled {result : Except Stop Tag}
    (attempt : Attempt host session handle before result after) (sound : before.tracker.Sound)
    (opened : before.tracker.session = some session)
    (enrolled : Enrolled host state roll log before) : Enrolled host state roll log after := by
  cases attempt with
  | unscreened _ failed => exact enrolled.called rfl failed _
  | duplicate _ told => exact enrolled.called rfl told _
  | exhausted passed => exact passed.enrolled enrolled
  | @unnamed _ _ tags _ _ passed taken failed =>
      exact ((passed.enrolled enrolled).supplied tags).called rfl failed _
  | @untagged _ _ tags _ _ _ _ passed taken naming failed =>
      have named := ((passed.enrolled enrolled).supplied tags).called rfl naming none
      exact named.untagged failed
  | clash passed taken _ _ refused =>
      exact ((passed.sound sound).not_refused taken (passed.opened opened) refused).elim
  | tracked passed taken naming tagging pushed =>
      have enrolledScreened := passed.enrolled enrolled
      obtain ⟨records, -⟩ := (passed.sound sound).of_push taken (passed.opened opened) pushed
      exact enrolledScreened.tagged naming tagging rfl records

theorem Screened.roll_eq {screened : Scene σ C S}
    (passed : Screened host session handle before screened) :
    (listen host state roll screened.calls).roll = (listen host state roll before.calls).roll := by
  cases passed with
  | unchecked => rfl
  | untagged => exact roll_append _ _ _ _ rfl none

/-- **An attempt that succeeds puts the class on the roll**, with the record that it pushes. -/
theorem Attempt.roll_of_ok {tag : Tag}
    (attempt : Attempt host session handle before (.ok tag) after)
    (enrolled : Enrolled host state roll log before) (sound : before.tracker.Sound)
    (opened : before.tracker.session = some session) :
    ∃ signature, after.tracker.tracked = ⟨tag, signature⟩ :: before.tracker.tracked ∧
      (listen host state roll after.calls).roll =
        (listen host state roll before.calls).roll ++ [(handle, ⟨tag, signature⟩)] := by
  cases attempt with
  | @tracked _ _ _ signature _ _ _ passed taken naming tagging pushed =>
      rw [passed.tracker_eq] at taken pushed
      obtain ⟨records, -⟩ := sound.of_push taken opened pushed
      have heard := (passed.enrolled enrolled).listen_tagged naming tagging
      refine ⟨signature, records, (congrArg Listener.roll heard).trans ?_⟩
      rw [passed.roll_eq]

/-- An attempt that is stopped leaves the roll as it is. -/
theorem Attempt.roll_of_error {stop : Stop}
    (attempt : Attempt host session handle before (.error stop) after)
    (enrolled : Enrolled host state roll log before) (sound : before.tracker.Sound)
    (opened : before.tracker.session = some session) :
    (listen host state roll after.calls).roll = (listen host state roll before.calls).roll := by
  cases attempt with
  | unscreened => exact roll_append _ _ _ _ rfl _
  | duplicate => exact roll_append _ _ _ _ rfl _
  | exhausted passed => exact passed.roll_eq
  | unnamed passed => exact (roll_append _ _ _ _ rfl _).trans passed.roll_eq
  | @untagged screened _ tags _ _ _ _ passed taken naming failed =>
      have named := ((passed.enrolled enrolled).supplied tags).called rfl naming none
      have unnamed :
          (listen host state roll (screened.calls ++ [⟨.signatureOf handle, none⟩])).roll =
            (listen host state roll screened.calls).roll := roll_append _ _ _ _ rfl none
      refine (congrArg Listener.roll (named.listen_untagged failed)).trans ?_
      exact unnamed.trans passed.roll_eq
  | clash passed taken _ _ refused =>
      exact ((passed.sound sound).not_refused taken (passed.opened opened) refused).elim

theorem trackAll_enrolled (handles : List C) {scene : Scene σ C S}
    (sound : scene.tracker.Sound) (opened : scene.tracker.session = some session)
    (enrolled : Enrolled host state roll log scene) :
    (trackAll host handles).Ends scene
      (fun _ => Enrolled host state roll log) (fun _ => Enrolled host state roll log) := by
  refine (trackAll_keeps (fun now => now.tracker.Sound ∧ Enrolled host state roll log now) ?_
    handles opened ⟨sound, enrolled⟩).mono (fun _ _ kept => kept.2) (fun _ _ kept => kept.2)
  rintro now other result later openedNow ⟨soundNow, enrolledNow⟩ attempt
  exact ⟨(attempt.bookkeeping soundNow openedNow).2,
    attempt.enrolled soundNow openedNow enrolledNow⟩

/-- Giving up the records of a tracker keeps the roll. -/
theorem enrolled_registered (enrolled : Enrolled host state roll log before) :
    Enrolled host state roll log (before.registered before.tracker.registry.clear) := by
  refine enrolled.shrink rfl ?_
  intro record member
  rw [tracked_of_empty rfl] at member
  cases member

theorem enrolled_listed {enumerated : List (LoadedClass C)} {afterOpening afterListing : σ}
    (enrolled : Enrolled host state roll log before)
    (opening : host.answer .openSession before.host = (.ok session, afterOpening))
    (listing : host.answer .loadedClasses afterOpening = (.ok enumerated, afterListing)) :
    Enrolled host state roll log (before.listed session afterOpening afterListing) := by
  have opened := ((enrolled_registered enrolled).called rfl opening none).opened session
  exact opened.called rfl listing none

/-- A startup enumeration keeps the roll. -/
theorem Population.enrolled {result : Except Stop Unit}
    (populated : Population host before result after)
    (enrolled : Enrolled host state roll log before) : Enrolled host state roll log after := by
  cases populated with
  | unopened failed => exact (enrolled_registered enrolled).called rfl failed _
  | @unlisted session _ _ _ opening failed =>
      have opened := ((enrolled_registered enrolled).called rfl opening none).opened session
      exact opened.called rfl failed _
  | halted opening listing stopped =>
      have listed := enrolled_listed enrolled opening listing
      exact (trackAll_enrolled _ (.of_empty rfl) rfl listed).error stopped
  | complete opening listing tracked =>
      have listed := enrolled_listed enrolled opening listing
      have enrolledAfter := (trackAll_enrolled _ (.of_empty rfl) rfl listed).ok tracked
      exact enrolledAfter.shrink rfl fun _ member => member

/-- Asking about the tracked records keeps the roll. -/
theorem inquest_enrolled (session : S) (enrolled : Enrolled host state roll log before) :
    Enrolled host state roll log
      { before with dialogue := (before.tracker.inquest host session before.dialogue).state } := by
  have ends := Registry.inquire_ends (host.isLive session) before.tracker.tracked before.dialogue
    (fun now => Enrolled host state roll log { before with dialogue := now })
    (fun _ now => Enrolled host state roll log { before with dialogue := now }) ?_ ?_ enrolled
  · cases failed : (before.tracker.inquest host session before.dialogue).failure? with
    | none => exact ends.1 failed
    | some reason => exact ends.2 reason failed
  · rintro tag now live later enrolledNow told
    obtain ⟨count, counted, grown, -⟩ := Host.isLive_ok told
    have asked := enrolledNow.called rfl counted none
    exact asked.shrink (congrArg (Dialogue.mk later.host) grown) fun _ member => member
  · rintro tag now reason later enrolledNow told
    obtain ⟨answer, failure?, counted, grown⟩ := Host.isLive_error told
    have asked := enrolledNow.called rfl counted failure?
    exact asked.shrink (congrArg (Dialogue.mk later.host) grown) fun _ member => member

/-- A pass keeps the roll. -/
theorem Inspection.enrolled {result : Except Stop UnloadReport}
    (inspection : Inspection host session before result after)
    (enrolled : Enrolled host state roll log before) : Enrolled host state roll log after := by
  have asked := inquest_enrolled session enrolled
  have fewer := (Registry.kept_sublist (host.isLive session) before.tracker.tracked
    before.dialogue).subset
  cases inspection with
  | overfull => exact enrolled
  | @failed _ registry fits failed keeps =>
      refine asked.shrink rfl fun record member => fewer ?_
      have remains : record ∈ registry.records := member
      rw [keeps.records_eq] at remains
      exact remains
  | @completed registry fits answered keeps =>
      refine asked.shrink rfl fun record member => fewer ?_
      have remains : record ∈ registry.records := member
      rw [keeps.records_eq] at remains
      exact remains

end

end Tracker

/-! ## Commands -/

/-- The tracked records are on the roll, and the roll has the tags of the log. -/
structure Listed (tracker : Tracker S) (log : List (CallRecord C S))
    (roll : List (C × ClassRecord)) : Prop where
  marks_eq : rollMarks roll = marks log
  enrolled : ∀ record ∈ tracker.tracked, ∃ handle, (handle, record) ∈ roll

section

variable {host : Host σ C S} {tracker : Tracker S} {state : σ} {roll : List (C × ClassRecord)}
  {log : List (CallRecord C S)} {after : Scene σ C S}

theorem Listed.of_empty (nothing : tracker.registry = .empty) :
    Listed tracker ([] : List (CallRecord C S)) [] := by
  refine ⟨rfl, ?_⟩
  intro record member
  rw [Tracker.tracked_of_empty nothing] at member
  cases member

theorem Listed.start (listed : Listed tracker log roll) (host : Host σ C S) (state : σ) :
    Enrolled host state roll log (.start tracker state) := by
  refine ⟨rfl, ?_, listed.enrolled⟩
  rw [Scene.calls_start, List.append_nil]
  exact listed.marks_eq

theorem Enrolled.listed (enrolled : Enrolled host state roll log after) :
    Listed after.tracker (log ++ after.calls) (listen host state roll after.calls).roll :=
  ⟨enrolled.marks_eq, enrolled.enrolled⟩

theorem Enrolled.settled (enrolled : Enrolled host state roll log after) (stop : Stop) :
    Enrolled host state roll log (after.settled stop) := by
  refine enrolled.shrink (Scene.dialogue_settled after stop) ?_
  rw [Scene.tracker_settled]
  exact fun _ member => member

/-- Only a reset begins anew. -/
theorem remembered_of_ne {α : Type} {command : Command C} (notReset : command ≠ .reset)
    (past : List α) : command.remembered past = past := by
  cases command <;> first | rfl | exact absurd rfl notReset

namespace Tracker

/-- Every course of a command but that of a reset keeps the roll. -/
theorem Course.enrolled {command : Command C} {result : Except Stop Reply}
    (notReset : command ≠ .reset) (sound : tracker.Sound) (listed : Listed tracker log roll)
    (course : Course host (.start tracker state) command result after) :
    Enrolled host state roll log after := by
  have start := listed.start host state
  have entered : ∀ entry, Enrolled host state roll log
      (Scene.written (.start tracker state) entry) := fun entry =>
    start.shrink rfl fun _ member => member
  cases course with
  | refused => exact start
  | viewed => exact start
  | noted times => exact start.shrink rfl fun _ member => member
  | started _ _ populated =>
      exact (populated.enrolled (entered _)).shrink rfl fun _ member => member
  | unstarted _ _ populated =>
      exact ((populated.enrolled (entered _)).settled _).shrink rfl fun _ member => member
  | added _ opened attempt => exact attempt.enrolled sound opened start
  | unadded _ opened attempt => exact (attempt.enrolled sound opened start).settled _
  | passed _ _ _ inspection =>
      exact (inspection.enrolled (entered _)).shrink rfl fun _ member => member
  | unpassed _ _ _ inspection =>
      exact (inspection.enrolled (entered _)).shrink rfl fun _ member => member
  | resetUnopened => exact absurd rfl notReset
  | resetClosed => exact absurd rfl notReset
  | resetUnclosed => exact absurd rfl notReset

/-- **After every command the tracked records are on the roll.** -/
theorem Course.listed {command : Command C} {result : Except Stop Reply} (sound : tracker.Sound)
    (listed : Listed tracker log roll)
    (course : Course host (.start tracker state) command result after) :
    Listed after.tracker (command.remembered (log ++ after.calls))
      (command.remembered (listen host state roll after.calls).roll) := by
  by_cases isReset : command = .reset
  · subst isReset
    cases course with
    | refused refuses => exact absurd rfl refuses.ne_reset
    | viewed notReset => exact absurd rfl notReset
    | passed isPass => simp at isPass
    | unpassed isPass => simp at isPass
    | resetUnopened => exact .of_empty rfl
    | resetClosed => exact .of_empty rfl
    | resetUnclosed => exact .of_empty rfl
  · rw [remembered_of_ne isReset, remembered_of_ne isReset]
    exact (course.enrolled isReset sound listed).listed

end Tracker

end

end ClassLiveness

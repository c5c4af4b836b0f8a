import ClassLiveness.Proofs.Tracker.Applied
import ClassLiveness.Proofs.Tracker.Books
import ClassLiveness.Proofs.Tracker.Honesty
import ClassLiveness.Proofs.Tracker.Transcript

/-!
# Failures of the host

When the host fails a call, the command stops there and says so.  Its result is the failure
of that call, word for word, and no call is made after it; and a command that no call has
failed never says that one has.

What the tracker is left with depends on the call alone (`Tracker.Aftermath`).  The calls of
an attempt to track a class need the most care, for an enumeration has tracked other
classes by then: they are compared with the scene in which the command came to the class
(`Tracker.Unadded`).

All this is `Tracker.host_failures_surface`.
-/

set_option autoImplicit false

namespace ClassLiveness

variable {σ C S : Type}

theorem failureIn_eq_some_iff {α : Type} {answer : Except HostError α} {failure : HostError} :
    failureIn answer = some failure ↔ answer = .error failure := by
  cases answer with
  | ok => exact iff_of_false nofun nofun
  | error other => rw [failureIn, Option.some.injEq, Except.error.injEq]

namespace Host

/-- The host fails a call that meets it. -/
def Fails (host : Host σ C S) (meeting : Meeting σ C S) (failure : HostError) : Prop :=
  (host.answer meeting.record.call meeting.state).1 = .error failure

theorem Recorded.fails_iff {host : Host σ C S} {meeting : Meeting σ C S}
    (recorded : host.Recorded meeting) (failure : HostError) :
    host.Fails meeting failure ↔ meeting.record.failure? = some failure := by
  rw [recorded]
  exact failureIn_eq_some_iff.symm

end Host

namespace Tracker

open TrackerM

/-! ## What a failed call leaves -/

/-- A command has come to a class that it could not track.  The records are those that were
tracked when it came to the class, and the attempt has spent a number of tags. -/
structure Unadded (host : Host σ C S) (before : Tracker S) (state : σ) (command : Command C)
    (handle : C) (session : S) (after : Tracker S) (spent : Nat) : Prop where
  attempted : ∃ scene, Applied host before state command handle session scene ∧
    after.tracked = scene.tracker.tracked ∧
    after.tags.allocated = scene.tracker.tags.allocated + spent
  /-- Over the whole command as many tags are spent on no record. -/
  grown : ∃ fresh, Grown before after fresh spent
  session : after.session = some session

/-- What a failed call leaves of the tracker that a command was given to. -/
def Aftermath (host : Host σ C S) (before : Tracker S) (state : σ) (command : Command C)
    (after : Tracker S) : Call C S → Prop
  | .openSession => after.isInitialized = false ∧ after.tracked = []
  | .loadedClasses => after.isInitialized = true ∧ after.tracked = []
  | .tagOf session handle => Unadded host before state command handle session after 0
  | .signatureOf handle => ∃ session, Unadded host before state command handle session after 1
  | .setTag session handle _ => Unadded host before state command handle session after 1
  | .liveCount .. =>
      after.session = before.session ∧ after.tags = before.tags ∧
        after.tracked.Sublist before.tracked
  | .close _ => after.isInitialized = false ∧ after.tracked = [] ∧ after.poisoned = false

section

variable {host : Host σ C S} {tracker : Tracker S} {state : σ} {command : Command C}
  {handle : C} {session : S} {op : HostOp} {failure : HostError}

/-! ## An attempt to track a class -/

/-- An attempt that a failure stops has made the call that failed last, and about the
class. -/
theorem Attempt.failed_call {before after : Scene σ C S}
    (attempt : Attempt host session handle before (.error (.error (.host op failure))) after) :
    ∃ call, Tracks session handle call ∧ call.op = op ∧
      after.calls.getLast? = some ⟨call, some failure⟩ := by
  cases attempt with
  | unscreened => exact ⟨_, .looking, rfl, List.getLast?_concat⟩
  | unnamed => exact ⟨_, .naming, rfl, List.getLast?_concat⟩
  | untagged => exact ⟨_, .tagging _, rfl, List.getLast?_concat⟩

/-- When a command comes to a class, the books are sound and have grown by what the
command has tracked. -/
theorem Applied.grown {scene : Scene σ C S}
    (applied : Applied host tracker state command handle session scene) (sound : tracker.Sound) :
    scene.tracker.Sound ∧ ∃ fresh, Grown tracker scene.tracker fresh 0 := by
  cases applied with
  | added => exact ⟨sound, [], .of_same rfl rfl rfl⟩
  | enumerated _ closed _ _ _ tracked =>
      have soundEntered : ((Scene.start tracker state : Scene σ C S).written
          (.entered .startup)).tracker.Sound := sound
      exact (trackAll_grows_listed host soundEntered closed _ _ _ _).ok tracked

theorem Tracks.aftermath {call : Call C S} {after : Tracker S} (tracks : Tracks session handle call)
    (failure : HostError) (unadded : Unadded host tracker state command handle session after
      (Stop.error (.host call.op failure)).tagsSpent) :
    Aftermath host tracker state command after call := by
  cases tracks with
  | looking => exact unadded
  | naming => exact ⟨session, unadded⟩
  | tagging => exact unadded

/-- What a failure leaves that stops the attempt to track a class. -/
theorem Applied.aftermath {scene after : Scene σ C S}
    (applied : Applied host tracker state command handle session scene) (sound : tracker.Sound)
    (attempt : Attempt host session handle scene (.error (.error (.host op failure))) after) :
    ∃ call, after.calls.getLast? = some ⟨call, some failure⟩ ∧
      Aftermath host tracker state command
        (after.settled (.error (.host op failure))).tracker call := by
  obtain ⟨soundScene, fresh, grown⟩ := applied.grown sound
  obtain ⟨call, tracks, rfl, last⟩ := attempt.failed_call
  obtain ⟨kept, -⟩ := attempt.bookkeeping soundScene applied.opened
  obtain ⟨sameRecords, spent⟩ := kept.of_error
  obtain ⟨later, grownLater⟩ := kept.grown
  have grownAfter := grown.trans grownLater
  refine ⟨call, last, tracks.aftermath failure ⟨?_, ?_, ?_⟩⟩
  · refine ⟨scene, applied, ?_, ?_⟩
    · rw [Scene.tracker_settled]
      exact sameRecords
    · rw [Scene.tracker_settled]
      exact spent
  · exact ⟨_, grownAfter.settled _⟩
  · rw [Scene.tracker_settled]
    exact attempt.session_eq.trans applied.opened

/-! ## The other calls -/

/-- What a failure leaves that stops a startup enumeration. -/
theorem Population.aftermath {after : Scene σ C S} (sound : tracker.Sound)
    (usable : tracker.poisoned = false) (closed : tracker.session = none)
    (populated : Population host ((Scene.start tracker state).written (.entered .startup))
      (.error (.error (.host op failure))) after) :
    ∃ call, after.calls.getLast? = some ⟨call, some failure⟩ ∧
      Aftermath host tracker state .startUp
        (after.settled (.error (.host op failure))).tracker call := by
  cases populated with
  | unopened =>
      refine ⟨.openSession, List.getLast?_concat, ?_, Registry.Keeps.empty.records_eq⟩
      rw [Scene.tracker_settled]
      exact (isInitialized_eq_false_iff _).mpr closed
  | unlisted => exact ⟨.loadedClasses, List.getLast?_concat, rfl, Registry.Keeps.empty.records_eq⟩
  | halted opening listing stopped =>
      obtain ⟨handle, scene, applied, attempt⟩ :=
        Applied.of_halted usable closed opening listing stopped
      exact applied.aftermath sound attempt

/-- What a failure leaves that stops a pass. -/
theorem Inspection.aftermath {after : Scene σ C S} {span : Span}
    (inspection : Inspection host session ((Scene.start tracker state).written (.entered span))
      (.error (.error (.host op failure))) after) :
    ∃ call, after.calls.getLast? = some ⟨call, some failure⟩ ∧
      Aftermath host tracker state command after.tracker call := by
  have honest := inspection.honest (fun record member => absurd member List.not_mem_nil)
  obtain ⟨earlier, call, calls, sameOp, -⟩ := honest
  refine ⟨call, ?_, ?_⟩
  · rw [calls]
    exact List.getLast?_concat
  · cases inspection with
    | @failed _ registry _ failed keeps =>
        have fewer : registry.records.Sublist tracker.tracked := sublist_of_inquest keeps
        obtain ⟨_, same⟩ | ⟨_, _, impossible⟩ := isVerdict_of_inquest failed
        · cases same
          cases call with
          | liveCount => exact ⟨rfl, rfl, fewer⟩
          | _ => cases sameOp
        · cases impossible

/-- **What a failed call leaves.**  A command that ends with a failure of the host has made
the call that failed last, and the tracker is left as the call says. -/
theorem Course.aftermath {after : Scene σ C S} (sound : tracker.Sound)
    (course : Course host (.start tracker state) command (.error (.error (.host op failure)))
      after) :
    ∃ call, after.calls.getLast? = some ⟨call, some failure⟩ ∧
      Aftermath host tracker state command after.tracker call := by
  cases course with
  | refused refuses =>
      obtain impossible | impossible | impossible := refuses.isRefusal <;> cases impossible
  | @unstarted stop ended usable closed populated =>
      have left := populated.aftermath sound usable closed
      rw [Scene.calls, ← Scene.dialogue_settled ended (.error (.host op failure))] at left
      exact left
  | @unadded _ _ _ ended usable opened attempt =>
      have left := (Applied.added usable opened).aftermath sound attempt
      rw [Scene.calls, ← Scene.dialogue_settled ended (.error (.host op failure))] at left
      exact left
  | unpassed _ _ _ inspection => exact inspection.aftermath
  | @resetUnclosed session =>
      exact ⟨.close session, List.getLast?_concat, rfl, Registry.Keeps.empty.records_eq, rfl⟩

end

/-! ## Every command -/

/-- The meetings of a faithful dialogue in which no call but the last has failed. -/
theorem fails_last {host : Host σ C S} {state after : σ} {earlier : List (CallRecord C S)}
    {call : Call C S} {failure : HostError}
    (faithful : host.Faithful state ⟨after, earlier ++ [⟨call, some failure⟩]⟩)
    (flawless : Flawless earlier) :
    ∃ last, last.record = ⟨call, some failure⟩ ∧ host.Fails last failure ∧
      host.meetings state (earlier ++ [⟨call, some failure⟩]) =
        host.meetings state earlier ++ [last] ∧
      ∀ meeting ∈ host.meetings state earlier, ∀ other, ¬host.Fails meeting other := by
  have split := host.meetings_append state earlier [⟨call, some failure⟩]
  have recorded := faithful.recorded
  rw [split] at recorded
  refine ⟨⟨host.replay state earlier, ⟨call, some failure⟩⟩, rfl, ?_, split, ?_⟩
  · have last := recorded _ (List.mem_append_right _ (List.mem_singleton_self _))
    exact (last.fails_iff failure).mpr rfl
  · intro meeting member other failed
    have made : meeting.record ∈ earlier := by
      rw [← host.map_record_meetings state earlier]
      exact List.mem_map_of_mem member
    have fine := (recorded meeting (List.mem_append_left _ member)).fails_iff other
    cases (flawless _ made).symm.trans (fine.mp failed)

/-- **Failures of the host surface, and stop the command.**  After every history, and
whatever state the host is in, a command ends with a failure of the host exactly if the
host has failed one of its calls.  Then it has failed the last call and no other; the
result has the sort of that call and what the host said of it; and what is left of the
tracker is determined by the call. -/
theorem host_failures_surface (host : Host σ C S) (settings : Settings)
    (history : List (Command C × σ)) (command : Command C) (state : σ) :
    let before := afterAll host (new settings) history
    let outcome := before.perform host command state
    ((∃ op failure, outcome.result = .error (.error (.host op failure))) ↔
      ∃ meeting ∈ host.meetings state outcome.calls, ∃ failure, host.Fails meeting failure) ∧
    ∀ op failure, outcome.result = .error (.error (.host op failure)) →
      ∃ earlier last, host.meetings state outcome.calls = earlier ++ [last] ∧
        (∀ meeting ∈ earlier, ∀ other, ¬host.Fails meeting other) ∧
        host.Fails last failure ∧ last.record.call.op = op ∧
        Aftermath host before state command outcome.tracker last.record.call := by
  intro before outcome
  have sound : before.Sound := Reachable.sound ⟨history, rfl⟩
  have faithful := perform_faithful host command state sound.keeps
  have honest := perform_honest host command state sound.keeps
  refine ⟨⟨?_, ?_⟩, ?_⟩
  · rintro ⟨op, failure, failed⟩
    rw [failed] at honest
    obtain ⟨earlier, call, calls, -, flawless⟩ := honest
    rw [calls] at faithful
    obtain ⟨last, -, fails, split, -⟩ := fails_last faithful flawless
    refine ⟨last, ?_, failure, fails⟩
    rw [calls, split]
    exact List.mem_append_right _ (List.mem_singleton_self _)
  · rintro ⟨meeting, member, failure, fails⟩
    have made : meeting.record ∈ outcome.calls := by
      rw [← host.map_record_meetings state outcome.calls]
      exact List.mem_map_of_mem member
    have failed := ((faithful.recorded meeting member).fails_iff failure).mp fails
    exact honest.host_of_failed made failed
  · intro op failure failed
    obtain ⟨after, ended, course⟩ := perform_course host command before state sound.keeps
    rw [failed] at honest course
    obtain ⟨earlier, call, calls, sameOp, flawless⟩ := honest
    obtain ⟨made, isLast, left⟩ := course.aftermath sound
    have sameCalls : (before.perform host command state).calls = after.calls :=
      congrArg Outcome.calls ended
    have sameTracker : outcome.tracker = after.tracker := congrArg Outcome.tracker ended
    rw [← sameCalls, calls, List.getLast?_concat] at isLast
    cases isLast
    rw [calls] at faithful
    obtain ⟨last, record, fails, split, fine⟩ := fails_last faithful flawless
    refine ⟨_, last, ?_, fine, fails, ?_, ?_⟩
    · rw [calls, split]
    · rw [record]
      exact sameOp
    · rw [record, sameTracker]
      exact left

end Tracker

end ClassLiveness

import ClassLiveness.Proofs.Tracker.Course

/-!
# Results and failed calls

The result of a command says truly whether a call on the host has failed
(`Tracker.Honest`): if it is a failure of the host, then the last call failed, with
this failure, and no other; and if it is anything else, no call failed at all.
This holds of every command on a tracker whose registry keeps its records
(`Tracker.perform_honest`).
-/

set_option autoImplicit false

namespace ClassLiveness

variable {σ C S α : Type}

/-- No call has failed. -/
def Flawless (calls : List (CallRecord C S)) : Prop :=
  ∀ record ∈ calls, record.failure? = none

/-- Why an operation was stopped says which call has failed, and whether any has. -/
def Stop.Honest (stop : Stop) (calls : List (CallRecord C S)) : Prop :=
  match stop with
  | .error (.host op failure) =>
      ∃ earlier call, calls = earlier ++ [⟨call, some failure⟩] ∧ call.op = op ∧ Flawless earlier
  | _ => Flawless calls

theorem Flawless.answered {calls : List (CallRecord C S)} (flawless : Flawless calls)
    (call : Call C S) : Flawless (calls ++ [⟨call, none⟩]) := by
  intro record member
  rcases List.mem_append.mp member with member | member
  · exact flawless record member
  · rw [List.mem_singleton.mp member]

theorem Flawless.of_append {calls more : List (CallRecord C S)}
    (flawless : Flawless (calls ++ more)) : Flawless calls :=
  fun record member => flawless record (List.mem_append_left more member)

theorem Flawless.last {calls : List (CallRecord C S)} {record : CallRecord C S}
    (flawless : Flawless (calls ++ [record])) : record.failure? = none :=
  flawless record (List.mem_append_right calls (List.mem_singleton_self record))

theorem Flawless.failed {calls : List (CallRecord C S)} (flawless : Flawless calls)
    (call : Call C S) (failure : HostError) :
    Stop.Honest (.error (.host call.op failure)) (calls ++ [⟨call, some failure⟩]) :=
  ⟨calls, call, rfl, rfl, flawless⟩

namespace Tracker

/-- A result says which call has failed, and whether any has. -/
def Honest (result : Except Stop α) (calls : List (CallRecord C S)) : Prop :=
  match result with
  | .ok _ => Flawless calls
  | .error stop => stop.Honest calls

variable {host : Host σ C S} {session : S} {handle : C} {before after : Scene σ C S}

/-! ## The parts of a command -/

theorem Screened.flawless (passed : Screened host session handle before after)
    (flawless : Flawless before.calls) : Flawless after.calls := by
  cases passed with
  | unchecked => exact flawless
  | untagged => exact flawless.answered _

theorem Attempt.honest {result : Except Stop Tag}
    (attempt : Attempt host session handle before result after)
    (flawless : Flawless before.calls) : Honest result after.calls := by
  cases attempt with
  | unscreened => exact flawless.failed _ _
  | duplicate => exact flawless.answered _
  | exhausted passed => exact passed.flawless flawless
  | unnamed passed => exact (passed.flawless flawless).failed _ _
  | untagged passed => exact ((passed.flawless flawless).answered _).failed _ _
  | clash passed => exact ((passed.flawless flawless).answered _).answered _
  | tracked passed => exact ((passed.flawless flawless).answered _).answered _

theorem trackAll_honest (host : Host σ C S) {session : S} (handles : List C) {scene : Scene σ C S}
    (opened : scene.tracker.session = some session) (flawless : Flawless scene.calls) :
    (trackAll host handles).Ends scene
      (fun _ after => Flawless after.calls)
      (fun stop after => stop.Honest after.calls) := by
  refine (trackAll_ends (fun scene => Flawless scene.calls)
    (fun stop after => stop.Honest after.calls)
    ?_ ?_ handles opened flawless).mono (fun _ _ kept => kept.2) (fun _ _ honest => honest)
  · intro _ _ _ _ _ kept attempt
    exact attempt.honest kept
  · intro _ _ _ _ _ kept attempt
    exact attempt.honest kept

theorem Population.honest {result : Except Stop Unit}
    (populated : Population host before result after) (flawless : Flawless before.calls) :
    Honest result after.calls := by
  cases populated with
  | unopened => exact flawless.failed _ _
  | unlisted => exact (flawless.answered _).failed _ _
  | @halted session _ afterOpening afterListing _ _ opening listing stopped =>
      have listed : Flawless (before.listed session afterOpening afterListing).calls :=
        (flawless.answered .openSession).answered .loadedClasses
      exact (trackAll_honest host _ rfl listed).error stopped
  | @complete session _ afterOpening afterListing after opening listing tracked =>
      have listed : Flawless (before.listed session afterOpening afterListing).calls :=
        (flawless.answered .openSession).answered .loadedClasses
      have fine : Flawless after.calls := (trackAll_honest host _ rfl listed).ok tracked
      exact fine

theorem inquest_honest (tracker : Tracker S) (host : Host σ C S) (session : S)
    {dialogue : Dialogue σ C S} (flawless : Flawless dialogue.calls) :
    ((tracker.inquest host session dialogue).failure? = none →
        Flawless (tracker.inquest host session dialogue).state.calls) ∧
      ∀ reason, (tracker.inquest host session dialogue).failure? = some reason →
        (Stop.error reason).Honest (tracker.inquest host session dialogue).state.calls := by
  refine Registry.inquire_ends (host.isLive session) tracker.tracked dialogue
    (fun dialogue => Flawless dialogue.calls)
    (fun reason dialogue => (Stop.error reason).Honest dialogue.calls) ?_ ?_ flawless
  · intro tag dialogue answer after kept answered
    rw [Host.isLive_apply] at answered
    split at answered <;> cases answered <;> exact kept.answered _
  · intro tag dialogue reason after kept failed
    rw [Host.isLive_apply] at failed
    split at failed <;> cases failed
    · exact kept.failed _ _
    · exact kept.answered _

theorem Inspection.honest {result : Except Stop UnloadReport}
    (inspection : Inspection host session before result after) (flawless : Flawless before.calls) :
    Honest result after.calls := by
  have honest := inquest_honest before.tracker host session flawless
  cases inspection with
  | overfull => exact flawless
  | failed fits failed => exact honest.2 _ failed
  | completed fits answered => exact honest.1 answered

/-! ## A command -/

theorem Course.honest {tracker : Tracker S} {state : σ} {command : Command C}
    {result : Except Stop Reply}
    (course : Course host (.start tracker state) command result after) :
    Honest result after.calls := by
  have nothing : Flawless ([] : List (CallRecord C S)) := by
    intro record member
    cases member
  cases course with
  | refused refuses => obtain rfl | rfl | rfl := refuses.isRefusal <;> exact nothing
  | viewed => exact nothing
  | noted => exact nothing
  | started usable closed populated => exact populated.honest nothing
  | @unstarted stop ended usable closed populated =>
      have honest : stop.Honest ended.dialogue.calls := populated.honest nothing
      rw [← Scene.dialogue_settled ended stop] at honest
      exact honest
  | added usable opened attempt => exact attempt.honest nothing
  | @unadded _ _ stop ended usable opened attempt =>
      have honest : stop.Honest ended.dialogue.calls := attempt.honest nothing
      rw [← Scene.dialogue_settled ended stop] at honest
      exact honest
  | passed isPass usable opened inspection => exact inspection.honest nothing
  | unpassed isPass usable opened inspection => exact inspection.honest nothing
  | resetUnopened => exact nothing
  | resetClosed => exact nothing.answered _
  | resetUnclosed => exact nothing.failed _ _

/-- **The result of a command is honest about the calls on the host.** -/
theorem perform_honest (host : Host σ C S) (command : Command C) {tracker : Tracker S}
    (state : σ) (keeps : tracker.registry.Keeps ⟨tracker.tracked, []⟩) :
    Honest (tracker.perform host command state).result
      (tracker.perform host command state).calls := by
  obtain ⟨after, outcome, course⟩ := perform_course host command tracker state keeps
  have honest := course.honest
  rw [outcome]
  exact honest

/-- A command one of whose calls has failed ends with a failure of the host. -/
theorem Honest.host_of_failed {result : Except Stop Reply} {calls : List (CallRecord C S)}
    (honest : Honest result calls) {record : CallRecord C S} (member : record ∈ calls)
    {failure : HostError} (failed : record.failure? = some failure) :
    ∃ op failure, result = .error (.error (.host op failure)) := by
  have flawed : ¬Flawless calls := by
    intro flawless
    cases (flawless record member).symm.trans failed
  cases result with
  | ok => exact absurd honest flawed
  | error stop =>
      cases stop with
      | abort => exact absurd honest flawed
      | error error =>
          cases error with
          | host op reason => exact ⟨op, reason, rfl⟩
          | _ => exact absurd honest flawed

end Tracker

end ClassLiveness

import ClassLiveness.Proofs.Tracker.Conservation
import ClassLiveness.Proofs.Tracker.Telling
import ClassLiveness.Scenario.Run

/-!
# The numbers of passes

The span of an unload pass carries a number, which is that of the passes completed before and
one more.  So the numbers never descend, and the passes that are completed are numbered one
after the other; but a pass that fails or aborts leaves its number to the next
(`Tracker.pass_numbers`).

A number is therefore not the name of a pass.  After a failed pass and a reset the tracker is
usable again, and then two passes carry one number (`Scenario.pass_number_repeats`).
-/

set_option autoImplicit false

namespace ClassLiveness

variable {σ C S : Type}

/-- The number of the pass whose span is entered. -/
def TraceEntry.passNumber? : TraceEntry → Option Nat
  | .entered (.unloadPass passId _) => some passId
  | _ => none

/-- The numbers of the passes that a trace enters. -/
def passNumbers (trace : List TraceEntry) : List Nat := trace.filterMap TraceEntry.passNumber?

/-- Events enter no pass. -/
theorem passNumbers_events (events : List Event) : passNumbers (events.map .event) = [] := by
  rw [passNumbers, List.filterMap_map]
  exact List.filterMap_eq_nil_iff.mpr fun _ _ => rfl

/-- A recital enters the pass of its span. -/
theorem passNumbers_recital (span? : Option Span) (events : List Event) :
    passNumbers (recital span? events) =
      span?.toList.filterMap fun span => TraceEntry.passNumber? (.entered span) := by
  have inside := passNumbers_events events
  rw [passNumbers] at inside
  cases span? with
  | none => exact inside
  | some span =>
      simp only [passNumbers, recital, List.filterMap_cons, List.filterMap_append, inside,
        TraceEntry.passNumber?, List.filterMap_nil, List.append_nil, Option.toList_some]

namespace Tracker

/-- The numbers of the passes that an episode enters. -/
def Episode.passNumbers (lived : Episode σ C S) : List Nat :=
  ClassLiveness.passNumbers lived.outcome.trace

/-- How many passes are completed in a list of episodes. -/
def completedIn (lived : List (Episode σ C S)) : Nat := (lived.filterMap Episode.report?).length

theorem completedIn_append (first second : List (Episode σ C S)) :
    completedIn (first ++ second) = completedIn first + completedIn second := by
  rw [completedIn, List.filterMap_append, List.length_append]
  rfl

/-- Some pass is completed in a list of episodes exactly if one of them has a report. -/
theorem completedIn_pos_iff (lived : List (Episode σ C S)) :
    0 < completedIn lived ↔ ∃ episode ∈ lived, episode.report?.isSome = true := by
  rw [completedIn, List.length_pos_iff_exists_mem]
  constructor
  · rintro ⟨report, member⟩
    obtain ⟨episode, isOne, reports⟩ := List.mem_filterMap.mp member
    exact ⟨episode, isOne, Option.isSome_iff_exists.mpr ⟨report, reports⟩⟩
  · rintro ⟨episode, isOne, reports⟩
    obtain ⟨report, found⟩ := Option.isSome_iff_exists.mp reports
    exact ⟨report, List.mem_filterMap.mpr ⟨episode, isOne, found⟩⟩

/-! ## One episode -/

section

variable {host : Host σ C S} {lived : Episode σ C S} (recites : lived.Recites host)
include recites

/-- An episode enters one pass at most. -/
theorem Episode.Recites.length_passNumbers_le : lived.passNumbers.length ≤ 1 := by
  obtain ⟨span?, -, trace⟩ := recites
  rw [Episode.passNumbers, trace, passNumbers_recital]
  refine Nat.le_trans (List.length_filterMap_le _ _) ?_
  cases span? with
  | none => exact Nat.zero_le 1
  | some span => exact Nat.le_refl 1

/-- **The number of a pass is that of the passes completed before it and one more.** -/
theorem Episode.Recites.passNumber_eq {number : Nat} (member : number ∈ lived.passNumbers) :
    number = lived.before.passes.completed + 1 := by
  obtain ⟨span?, mayEnter, trace⟩ := recites
  rw [Episode.passNumbers, trace, passNumbers_recital] at member
  obtain ⟨span, entered, carries⟩ := List.mem_filterMap.mp member
  have permitted := mayEnter span (Option.mem_toList.mp entered)
  cases span with
  | startup => cases carries
  | unloadPass passId tracked =>
      cases carries
      exact permitted.2.1

end

/-! ## Histories -/

/-- A tracker counts the passes that are completed. -/
theorem completed_eq (host : Host σ C S) (settings : Settings) (history : List (Command C × σ)) :
    (afterAll host (new settings) history).passes.completed =
      completedIn (episodes host (new settings) history) :=
  congrArg PassHistory.completed (passes_of_reports host settings history)

/-- **The numbers of passes never descend, and only a completed pass raises them.**  In every
history a command enters one pass at most, and the pass has the number of the passes completed
before it and one more.  Of two passes of a history, the later does not have the lower number,
and it has the higher one exactly if a pass has been completed since the earlier began. -/
theorem pass_numbers (host : Host σ C S) (settings : Settings)
    (first between : List (Command C × σ)) (one other : Command C) (state stateThen : σ) :
    let earlier := episode host (afterAll host (new settings) first) one state
    let later := episode host (afterAll host (new settings) (first ++ (one, state) :: between))
      other stateThen
    earlier.passNumbers.length ≤ 1 ∧
    ∀ number ∈ earlier.passNumbers,
      number = completedIn (episodes host (new settings) first) + 1 ∧
      ∀ laterNumber ∈ later.passNumbers,
        number ≤ laterNumber ∧
        (number < laterNumber ↔
          ∃ lived ∈ episodes host (afterAll host (new settings) first) ((one, state) :: between),
            lived.report?.isSome = true) := by
  intro earlier later
  have recites : earlier.Recites host := (Reachable.sound ⟨first, rfl⟩).recites host one state
  have recitesLater : later.Recites host :=
    (Reachable.sound ⟨first ++ (one, state) :: between, rfl⟩).recites host other stateThen
  refine ⟨recites.length_passNumbers_le, ?_⟩
  intro number member
  have isNumber : number = completedIn (episodes host (new settings) first) + 1 :=
    (recites.passNumber_eq member).trans (congrArg (· + 1) (completed_eq host settings first))
  refine ⟨isNumber, ?_⟩
  intro laterNumber laterMember
  have isLater : laterNumber =
      completedIn (episodes host (new settings) (first ++ (one, state) :: between)) + 1 :=
    (recitesLater.passNumber_eq laterMember).trans
      (congrArg (· + 1) (completed_eq host settings _))
  rw [episodes_append, completedIn_append] at isLater
  refine ⟨by omega, ?_⟩
  rw [← completedIn_pos_iff]
  omega

end Tracker

/-! ## Two passes with one number -/

namespace Scenario

/-- The numbers of the passes that are entered before an answer is given. -/
def Answer.passNumbers : Answer → List Nat
  | .tracker report => ClassLiveness.passNumbers report.trace
  | .machine _ | .noTracker => []

/-- A pass that fails leaves its number to the next.  The host fails to count the live holders of
a tag once; after a reset and a new startup the next pass has the number of the one that has
failed, so the numbers of the passes do not ascend. -/
theorem pass_number_repeats :
    let steps : List Step := [
      .change (.load "LA;" (.ofFlag .prepared)),
      .act 0 (.command .startUp false),
      .change (.setFault .liveCount ⟨⟨.internal, "injected"⟩, 0, some 1⟩),
      .act 0 (.command .processUnloads false),
      .act 0 (.command .reset false),
      .act 0 (.command .startUp false),
      .act 0 (.command .processUnloads false)]
    let numbers := ((Scenario.new 1 .default).playAll steps).1.flatMap Answer.passNumbers
    numbers = [1, 1] ∧ ¬numbers.Pairwise (· < ·) := by
  decide +kernel

end Scenario

end ClassLiveness

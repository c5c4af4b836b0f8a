import ClassLiveness.Proofs.Tracker.Fates
import Mathlib.Algebra.GroupWithZero.Nat

/-!
# Where the tags go

Every tag that is handed out has one fate.  It is tracked; or its record left, and
then it was reported by a completed pass, dropped by a pass that failed or released
by a reset; or it was spent on no record.

What an episode takes in and gives away balances, so over a whole history the tags
of all fates are together the numbers up to the last one handed out, each of them
once (`Tracker.fates_perm`).  What a pass yields or drops was found dead by it, and a
tag that has left does not come back (`Tracker.not_tracked_again`).

So the statistics add up (`Tracker.passes_eq`): the tags handed out are those of the
five fates, the unloaded classes are those of all reports, and neither a failed pass
nor a reset nor a startup enumeration touches the history of the passes.  All of this
together is `Tracker.conservation`.
-/

set_option autoImplicit false

namespace ClassLiveness

variable {σ C S : Type}

/-! ## The history of the passes -/

namespace PassHistory

theorem foldl_record (passes : List PassStats) (history : PassHistory) :
    passes.foldl record history =
      ⟨history.totalUnloaded + (passes.map PassStats.unloaded).sum,
        history.completed + passes.length, passes.getLast?.getD history.last⟩ := by
  induction passes generalizing history with
  | nil => rfl
  | cons pass rest ih =>
      rw [List.foldl_cons, ih, List.map_cons, List.sum_cons, List.length_cons,
        List.getLast?_cons, Option.getD_some]
      simp only [record, Nat.add_assoc, Nat.add_comm 1 rest.length]

end PassHistory

namespace Tracker

open scoped List

variable {host : Host σ C S} {settings : Settings}

/-! ## The episodes of a history -/

theorem legal_of_mem {history : List (Command C × σ)} {lived : Episode σ C S}
    (member : lived ∈ episodes host (new settings) history) : lived.Legal host := by
  obtain ⟨tracker, command, state, reached, rfl⟩ := mem_episodes member
  exact episode_legal host reached.sound command state

/-- **The tags that are tracked and those that have left are those that were handed
out**, each of them once. -/
theorem left_perm (host : Host σ C S) (settings : Settings) (history : List (Command C × σ)) :
    (numbers (afterAll host (new settings) history).tracked ++
        (episodes host (new settings) history).flatMap Episode.left).Perm
      (List.range' 1 (afterAll host (new settings) history).tags.allocated) := by
  induction history using List.reverseRecOn with
  | nil =>
      have tracksNothing : (new settings : Tracker S).tracked = [] :=
        Registry.Keeps.empty.records_eq
      have handedOut : (new settings : Tracker S).tags.allocated = 0 := rfl
      simp only [afterAll, episodes, tracksNothing, handedOut]
      exact List.Perm.refl []
  | append_singleton earlier entry ih =>
      obtain ⟨command, state⟩ := entry
      rw [afterAll_snoc, episodes_snoc, List.flatMap_append, List.flatMap_singleton]
      have reached : Reachable host settings (afterAll host (new settings) earlier) :=
        ⟨earlier, rfl⟩
      generalize afterAll host (new settings) earlier = before at reached ih ⊢
      generalize (episodes host (new settings) earlier).flatMap Episode.left = leftEarlier at ih ⊢
      have legal := episode_legal host reached.sound command state
      have more : before.tags.allocated ≤
          (before.perform host command state).tracker.tags.allocated :=
        legal.entry.allocated_le
      calc
        _ ~ numbers (before.perform host command state).tracker.tracked ++
            ((episode host before command state).left ++ leftEarlier) :=
          List.perm_append_comm.append_left _
        _ ~ numbers before.tracked ++ List.range' (before.tags.allocated + 1)
            ((before.perform host command state).tracker.tags.allocated - before.tags.allocated) ++
              leftEarlier := by
          rw [← List.append_assoc]
          exact legal.balance.append_right leftEarlier
        _ ~ numbers before.tracked ++ leftEarlier ++ List.range' (before.tags.allocated + 1)
            ((before.perform host command state).tracker.tags.allocated -
              before.tags.allocated) := by
          rw [List.append_assoc, List.append_assoc]
          exact List.perm_append_comm.append_left _
        _ ~ List.range' 1 before.tags.allocated ++ List.range' (before.tags.allocated + 1)
            ((before.perform host command state).tracker.tags.allocated - before.tags.allocated) :=
          ih.append_right _
        _ = _ := by
          rw [Nat.add_comm before.tags.allocated 1, List.range'_append_1, Nat.add_sub_cancel' more]

/-- The history of the passes is that of the completed passes. -/
theorem passes_eq (host : Host σ C S) (settings : Settings) (history : List (Command C × σ)) :
    (afterAll host (new settings) history).passes =
      ((episodes host (new settings) history).filterMap Episode.pass?).foldl PassHistory.record
        .empty := by
  induction history using List.reverseRecOn with
  | nil => rfl
  | append_singleton earlier entry ih =>
      obtain ⟨command, state⟩ := entry
      have reached : Reachable host settings (afterAll host (new settings) earlier) :=
        ⟨earlier, rfl⟩
      have recorded := (episode_legal host reached.sound command state).passes_eq
      rw [afterAll_snoc, episodes_snoc, List.filterMap_append, List.foldl_append, ← ih]
      refine Eq.trans recorded (congrArg (fun passes => List.foldl PassHistory.record _ passes) ?_)
      rw [List.filterMap_cons, List.filterMap_nil]
      split
      · rename_i none
        rw [none]
        rfl
      · rename_i pass some
        rw [some]
        rfl

/-! ## No tag comes back -/

theorem Sound.afterAll {tracker : Tracker S} (sound : tracker.Sound) (host : Host σ C S)
    (history : List (Command C × σ)) :
    (afterAll host tracker history).Sound ∧
      tracker.tags.allocated ≤ (afterAll host tracker history).tags.allocated := by
  induction history generalizing tracker with
  | nil => exact ⟨sound, Nat.le_refl _⟩
  | cons entry rest ih =>
      obtain ⟨soundAfter, made⟩ := sound.perform host entry.1 entry.2
      obtain ⟨soundLast, more⟩ := ih soundAfter
      exact ⟨soundLast, Nat.le_trans made.allocated_le more⟩

/-- A tag that has been handed out and is not tracked will not be tracked. -/
theorem Sound.stays_gone {tracker : Tracker S} (sound : tracker.Sound) (host : Host σ C S)
    {tag : Tag} (handedOut : tag.number ≤ tracker.tags.allocated)
    (gone : ∀ record ∈ tracker.tracked, record.tag ≠ tag) (history : List (Command C × σ)) :
    ∀ record ∈ (Tracker.afterAll host tracker history).tracked, record.tag ≠ tag := by
  induction history generalizing tracker with
  | nil => exact gone
  | cons entry rest ih =>
      obtain ⟨soundAfter, made⟩ := sound.perform host entry.1 entry.2
      refine ih soundAfter (Nat.le_trans handedOut made.allocated_le) ?_
      rintro record member rfl
      rcases made.tracked_or_fresh member with wasTracked | fresh
      · exact gone record wasTracked rfl
      · omega

/-- A tag that has stopped being tracked is never tracked again. -/
theorem not_tracked_again (host : Host σ C S) (settings : Settings)
    (first second third : List (Command C × σ)) {tag : Tag}
    (tracked : ∃ record ∈ (afterAll host (new settings) first).tracked, record.tag = tag)
    (gone : ∀ record ∈ (afterAll host (new settings) (first ++ second)).tracked,
      record.tag ≠ tag) :
    ∀ record ∈ (afterAll host (new settings) (first ++ second ++ third)).tracked,
      record.tag ≠ tag := by
  have sound : (afterAll host (new settings) first).Sound :=
    Reachable.sound ⟨first, rfl⟩
  obtain ⟨record, member, rfl⟩ := tracked
  have handedOut := sound.bounded record member
  rw [afterAll_append] at gone ⊢
  rw [afterAll_append]
  obtain ⟨soundAfter, more⟩ := sound.afterAll host second
  exact soundAfter.stays_gone host (Nat.le_trans handedOut more) gone third

/-! ## All together -/

/-- Every tag that was handed out has one fate. -/
theorem fates_perm (host : Host σ C S) (settings : Settings) (history : List (Command C × σ)) :
    (numbers ((afterAll host (new settings) history).tracked ++
        (episodes host (new settings) history).flatMap Episode.reported ++
        (episodes host (new settings) history).flatMap Episode.dropped ++
        (episodes host (new settings) history).flatMap Episode.released) ++
      (episodes host (new settings) history).flatMap Episode.spent).Perm
      (List.range' 1 (afterAll host (new settings) history).tags.allocated) := by
  refine List.Perm.trans ?_ (left_perm host settings history)
  generalize episodes host (new settings) history = lived
  have four : (lived.flatMap Episode.left).Perm
      (lived.flatMap (fun episode => numbers episode.reported) ++
        lived.flatMap (fun episode => numbers episode.dropped) ++
        lived.flatMap (fun episode => numbers episode.released) ++
        lived.flatMap Episode.spent) := by
    refine (List.flatMap_append_perm lived _ Episode.spent).symm.trans (List.Perm.append_right _ ?_)
    refine (List.flatMap_append_perm lived _ _).symm.trans (List.Perm.append_right _ ?_)
    exact (List.flatMap_append_perm lived _ _).symm
  refine List.Perm.trans (List.Perm.of_eq ?_) (four.symm.append_left _)
  simp only [numbers, List.map_append, List.map_flatMap, List.append_assoc]

theorem length_reported {lived : List (Episode σ C S)}
    (legal : ∀ episode ∈ lived, episode.Legal host) :
    (lived.flatMap Episode.reported).length =
      ((lived.filterMap Episode.report?).map UnloadReport.len).sum := by
  induction lived with
  | nil => rfl
  | cons episode rest ih =>
      have others := ih fun other member => legal other (List.mem_cons_of_mem episode member)
      rw [List.flatMap_cons, List.length_append, others, List.filterMap_cons]
      cases completes : episode.report? with
      | none =>
          rw [Episode.reported, completes]
          exact Nat.zero_add _
      | some report =>
          have signatures := (legal episode List.mem_cons_self).signatures_eq completes
          have lengths := congrArg List.length signatures
          rw [List.length_map] at lengths
          rw [List.map_cons, List.sum_cons, UnloadReport.len, lengths]

theorem length_spent (lived : List (Episode σ C S)) :
    (lived.flatMap Episode.spent).length =
      lived.countP fun episode => episode.outcome.calls.any CallRecord.spends := by
  induction lived with
  | nil => rfl
  | cons episode rest ih =>
      rw [List.flatMap_cons, List.length_append, ih, List.countP_cons, Nat.add_comm, Episode.spent]
      split <;> rfl

theorem map_pass (lived : List (Episode σ C S)) :
    (lived.filterMap Episode.pass?).map PassStats.unloaded =
      (lived.filterMap Episode.report?).map UnloadReport.len := by
  rw [List.map_filterMap, List.map_filterMap]
  refine congrArg (fun select => lived.filterMap select) (funext fun episode => ?_)
  rw [Episode.pass?, Option.map_map]
  rfl

theorem passes_of_reports (host : Host σ C S) (settings : Settings)
    (history : List (Command C × σ)) :
    (afterAll host (new settings) history).passes =
      ⟨(((episodes host (new settings) history).filterMap Episode.report?).map
          UnloadReport.len).sum,
        ((episodes host (new settings) history).filterMap Episode.report?).length,
        ((episodes host (new settings) history).filterMap Episode.pass?).getLast?.getD ⟨0, 0⟩⟩ := by
  have unloaded := map_pass (episodes host (new settings) history)
  have lengths := congrArg List.length unloaded
  rw [List.length_map, List.length_map] at lengths
  rw [passes_eq, PassHistory.foldl_record, unloaded, lengths]
  simp only [PassHistory.empty, Nat.zero_add]

/-- The tags that were handed out are as many as those of the five fates. -/
theorem tagsAllocated_eq (host : Host σ C S) (settings : Settings)
    (history : List (Command C × σ)) :
    (afterAll host (new settings) history).metrics.tagsAllocated =
      (afterAll host (new settings) history).metrics.classesTracked +
        (afterAll host (new settings) history).metrics.passes.totalUnloaded +
        ((episodes host (new settings) history).flatMap Episode.released).length +
        ((episodes host (new settings) history).flatMap Episode.dropped).length +
        (episodes host (new settings) history).countP fun episode =>
          episode.outcome.calls.any CallRecord.spends := by
  have lengths := (fates_perm host settings history).length_eq
  have sound : (afterAll host (new settings) history).Sound := Reachable.sound ⟨history, rfl⟩
  have unloaded : (afterAll host (new settings) history).passes.totalUnloaded =
      (((episodes host (new settings) history).filterMap Episode.report?).map
        UnloadReport.len).sum := by
    rw [passes_of_reports]
  have reported := length_reported (fun _ member => legal_of_mem member :
    ∀ episode ∈ episodes host (new settings) history, episode.Legal host)
  rw [List.length_append, length_spent, numbers, List.length_map, List.length_append,
    List.length_append, List.length_append, List.length_range', reported] at lengths
  have tracked := sound.len_eq
  simp only [metrics]
  rw [len] at tracked
  omega

/-- **The tags and the statistics of every history are conserved.**  Each tag that was handed
out has exactly one of the five fates.  Every report has the signatures of the records that it
yields, each at its place, and no tag is tracked again once it has left.  The statistics are
what the fates and the reports add up to. -/
theorem conservation (host : Host σ C S) (settings : Settings) (history : List (Command C × σ)) :
    let lived := episodes host (new settings) history
    let now := afterAll host (new settings) history
    (numbers (now.tracked ++ lived.flatMap Episode.reported ++ lived.flatMap Episode.dropped ++
          lived.flatMap Episode.released) ++
        lived.flatMap Episode.spent).Perm (List.range' 1 now.tags.allocated) ∧
    (∀ episode ∈ lived, ∀ report, episode.report? = some report →
      report.signatures = episode.reported.map ClassRecord.signature) ∧
    (∀ episode ∈ lived, ∀ record ∈ episode.reported ++ episode.dropped,
      ∃ session, episode.before.session = some session ∧
        record ∈ (episode.before.inquest host session ⟨episode.state, []⟩).dead) ∧
    (∀ first second third, history = first ++ second ++ third → ∀ tag,
      (∃ record ∈ (afterAll host (new settings) first).tracked, record.tag = tag) →
      (∀ record ∈ (afterAll host (new settings) (first ++ second)).tracked, record.tag ≠ tag) →
        ∀ record ∈ now.tracked, record.tag ≠ tag) ∧
    now.metrics.tagsAllocated = now.metrics.classesTracked + now.metrics.passes.totalUnloaded +
      (lived.flatMap Episode.released).length + (lived.flatMap Episode.dropped).length +
      (lived.countP fun episode => episode.outcome.calls.any CallRecord.spends) ∧
    now.metrics.passes.totalUnloaded =
      ((lived.filterMap Episode.report?).map UnloadReport.len).sum ∧
    now.metrics.passes.completed = (lived.filterMap Episode.report?).length ∧
    now.metrics.passes.last = (lived.filterMap Episode.pass?).getLast?.getD ⟨0, 0⟩ ∧
    (∀ episode ∈ lived,
      episode.passFails = true ∨ episode.command = .reset ∨ episode.command = .startUp →
        episode.after.passes = episode.before.passes) := by
  intro lived now
  have fates : (_ : List Nat).Perm (List.range' 1 now.tags.allocated) :=
    fates_perm host settings history
  have passes : now.passes = _ := passes_of_reports host settings history
  have sound : now.Sound := Reachable.sound ⟨history, rfl⟩
  have legal : ∀ episode ∈ lived, episode.Legal host := fun _ member => legal_of_mem member
  refine ⟨fates, ?_, ?_, ?_, ?_, ?_, ?_, ?_, ?_⟩
  · intro episode member report completes
    exact (legal episode member).signatures_eq completes
  · intro episode member record left
    exact (legal episode member).found_dead left
  · rintro first second third whole tag tracked gone
    have apart := not_tracked_again host settings first second third tracked gone
    rw [← whole] at apart
    exact apart
  · exact tagsAllocated_eq host settings history
  · exact congrArg PassHistory.totalUnloaded passes
  · exact congrArg PassHistory.completed passes
  · exact congrArg PassHistory.last passes
  · intro episode member quiet
    exact (legal episode member).passes_of_quiet quiet

end Tracker

end ClassLiveness

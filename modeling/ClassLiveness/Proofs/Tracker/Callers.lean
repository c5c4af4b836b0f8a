import ClassLiveness.Proofs.Tracker.Assignments
import ClassLiveness.Tracker.HandlerLock

/-!
# Callers behind the handler lock

Any number of callers share a tracker behind its lock, and come to it in some order, each
with a command and with the host in some state (`Visit`).  The lock lets them work one
after the other (`HandlerLock.serveAll`), so what the tracker goes through is a history,
and the tags that the callers receive are among those of the history in its order.

What the tracker hands out over its life are the numbers from one in their order, and each
is assigned to a class or spent.  So a tag that a command assigns is above all that were
handed out before it; an addition gives the one tag that it has assigned, and the classes
that a command comes to track have tags that it has assigned.  The last tag never
decreases, a tag that is no longer tracked is not tracked again, and the tracked classes
are listed by descending tags, none of them above the last.

Hence every caller receives ascending tags, and no two callers receive the same
(`Tracker.tags_stay_fresh`).
-/

set_option autoImplicit false

namespace ClassLiveness

variable {σ C S K : Type}

/-! ## Visits -/

/-- A caller comes to the lock with a command, while the host is in a state. -/
structure Visit (K σ C : Type) where
  caller : K
  command : Command C
  state : σ

namespace Visit

/-- What a tracker goes through in a visit. -/
def entry (visit : Visit K σ C) : Command C × σ := (visit.command, visit.state)

/-- What the caller does while it holds the lock. -/
def work (host : Host σ C S) (visit : Visit K σ C) (tracker : Tracker S) :
    Outcome σ C S Reply × Tracker S :=
  let outcome := tracker.perform host visit.command visit.state
  (outcome, outcome.tracker)

end Visit

/-- What comes of visits to a lock, one after the other: the outcomes, each with its
caller, and the lock after them. -/
def HandlerLock.serveAll (host : Host σ C S) :
    HandlerLock (Tracker S) → List (Visit K σ C) →
      List (K × Outcome σ C S Reply) × HandlerLock (Tracker S)
  | lock, [] => ([], lock)
  | lock, visit :: rest =>
      let worked := lock.withLock (visit.work host)
      let others := serveAll host worked.2 rest
      ((visit.caller, worked.1) :: others.1, others.2)

/-- The tag with which an outcome answers an addition. -/
def Outcome.tag? (outcome : Outcome σ C S Reply) : Option Tag :=
  match outcome.result with
  | .ok (.tag tag) => some tag
  | _ => none

/-- The tags that are given to callers, each with its caller. -/
def receipts (served : List (K × Outcome σ C S Reply)) : List (K × Tag) :=
  served.filterMap fun entry => entry.2.tag?.map fun tag => (entry.1, tag)

/-- The tags that a caller receives. -/
def received [DecidableEq K] (caller : K) (served : List (K × Outcome σ C S Reply)) : List Tag :=
  ((receipts served).filter fun receipt => receipt.1 = caller).map Prod.snd

/-- **Visits to a lock are a history of the tracker behind it.** -/
theorem HandlerLock.serveAll_eq (host : Host σ C S) (lock : HandlerLock (Tracker S))
    (visits : List (Visit K σ C)) :
    (lock.serveAll host visits).1.map Prod.snd =
        Tracker.performAll host lock.content (visits.map Visit.entry) ∧
      (lock.serveAll host visits).2.content =
        Tracker.afterAll host lock.content (visits.map Visit.entry) := by
  induction visits generalizing lock with
  | nil => exact ⟨rfl, rfl⟩
  | cons visit rest ih =>
      obtain ⟨outcomes, left⟩ := ih (lock.withLock (visit.work host)).2
      exact ⟨congrArg _ outcomes, left⟩

theorem map_snd_receipts (served : List (K × Outcome σ C S Reply)) :
    (receipts served).map Prod.snd = (served.map Prod.snd).filterMap Outcome.tag? := by
  rw [receipts, List.map_filterMap, List.filterMap_map]
  refine congrArg (fun select => served.filterMap select) (funext fun entry => ?_)
  rw [Option.map_map]
  exact Option.map_id'

namespace Tracker

/-! ## Tags in the order of a history -/

/-- The tags that additions give are among those that are handed out, and in their order. -/
theorem given_sublist (lived : List (Episode σ C S))
    (assigned : ∀ episode ∈ lived, ∀ tag, episode.outcome.tag? = some tag →
      episode.assigned = [tag]) :
    ((lived.filterMap fun episode => episode.outcome.tag?).map Tag.number).Sublist
      (lived.flatMap Episode.handedOut) := by
  induction lived with
  | nil => exact List.Sublist.refl []
  | cons episode rest ih =>
      have others := ih fun other member => assigned other (List.mem_cons_of_mem _ member)
      rw [List.filterMap_cons, List.flatMap_cons]
      cases given : episode.outcome.tag? with
      | none => exact others.trans (List.sublist_append_right _ _)
      | some tag =>
          have only := assigned episode List.mem_cons_self tag given
          rw [Episode.handedOut, only, List.append_assoc]
          exact (others.trans (List.sublist_append_right _ _)).cons_cons _

theorem last?_of_le (supply : TagSupply) {tag : Tag} (le : tag.number ≤ supply.allocated) :
    ∃ last, supply.last? = some last ∧ tag.number ≤ last.number :=
  ⟨⟨supply.allocated, Nat.lt_of_lt_of_le tag.number_pos le, supply.allocated_le_limit⟩,
    Tag.ofNat?_eq_some_iff.mpr rfl, le⟩

/-- The last tag never decreases. -/
theorem Sound.lastTag?_le {tracker : Tracker S} (sound : tracker.Sound) (host : Host σ C S)
    (history : List (Command C × σ)) {tag : Tag} (isLast : tracker.lastTag? = some tag) :
    ∃ last, (Tracker.afterAll host tracker history).lastTag? = some last ∧
      tag.number ≤ last.number := by
  have same : tag.number = tracker.tags.allocated := Tag.ofNat?_eq_some_iff.mp isLast
  have more := (sound.afterAll host history).2
  exact last?_of_le _ (by omega)

/-! ## The tags of the callers -/

/-- What comes of visits to a new tracker behind its lock. -/
def served (host : Host σ C S) (settings : Settings) (visits : List (Visit K σ C)) :
    List (K × Outcome σ C S Reply) :=
  ((HandlerLock.guarding (new settings)).serveAll host visits).1

section

variable (host : Host σ C S) (settings : Settings) (visits : List (Visit K σ C))

/-- All callers together receive ascending tags. -/
theorem receipts_ascend :
    ((receipts (served host settings visits)).map Prod.snd).Pairwise
      fun first second => first.number < second.number := by
  obtain ⟨outcomes, -⟩ := HandlerLock.serveAll_eq host (.guarding (new settings)) visits
  have ascending := given_sublist (episodes host (new settings) (visits.map Visit.entry)) ?_
  · rw [handedOut_eq] at ascending
    rw [map_snd_receipts, served, outcomes, HandlerLock.guarding, ← map_outcome_episodes,
      List.filterMap_map, ← List.pairwise_map]
    exact (List.pairwise_lt_range' 1 Nat.one_pos).sublist ascending
  · intro episode member tag given
    refine assigned_of_tag member ?_
    rw [Outcome.tag?] at given
    split at given
    · rename_i added
      cases given
      exact added
    · cases given

variable [DecidableEq K]

/-- A caller receives ascending tags. -/
theorem received_ascend (caller : K) :
    (received caller (served host settings visits)).Pairwise
      fun first second => first.number < second.number :=
  (receipts_ascend host settings visits).sublist (List.filter_sublist.map _)

/-- No two callers receive the same tag. -/
theorem received_disjoint {first second : K} (different : first ≠ second) :
    ∀ tag ∈ received first (served host settings visits),
      tag ∉ received second (served host settings visits) := by
  intro tag toFirst toSecond
  have once : ((receipts (served host settings visits)).map Prod.snd).Nodup :=
    (receipts_ascend host settings visits).imp
      fun lower same => Nat.ne_of_lt lower (congrArg Tag.number same)
  obtain ⟨one, memberOne, rfl⟩ := List.mem_map.mp toFirst
  obtain ⟨other, memberOther, same⟩ := List.mem_map.mp toSecond
  obtain ⟨receiptOne, isFirst⟩ := List.mem_filter.mp memberOne
  obtain ⟨receiptOther, isSecond⟩ := List.mem_filter.mp memberOther
  obtain rfl := List.inj_on_of_nodup_map once receiptOther receiptOne same
  exact different ((of_decide_eq_true isFirst).symm.trans (of_decide_eq_true isSecond))

end

/-- **Tags stay fresh for the whole life of a tracker**, whatever callers come to the lock of
a new tracker, and in whatever order.  The numbers that it hands out are those from one in
their order, and a tag that has left does not come back.  Every caller receives ascending
tags, and different callers different ones. -/
theorem tags_stay_fresh [DecidableEq K] (host : Host σ C S) (settings : Settings)
    (visits : List (Visit K σ C)) :
    let history := visits.map Visit.entry
    let lived := episodes host (new settings : Tracker S) history
    let now := afterAll host (new settings : Tracker S) history
    lived.flatMap Episode.handedOut = List.range' 1 now.tags.allocated ∧
    (∀ episode ∈ lived, ∀ tag ∈ episode.assigned,
      episode.before.tags.allocated < tag.number ∧ tag.number ≤ episode.after.tags.allocated) ∧
    (∀ episode ∈ lived, ∀ tag, episode.outcome.result = .ok (.tag tag) →
      episode.assigned = [tag]) ∧
    (∀ episode ∈ lived, ∀ record ∈ episode.after.tracked,
      record ∈ episode.before.tracked ∨ record.tag ∈ episode.assigned) ∧
    (∀ first second, history = first ++ second →
      ∀ tag, (afterAll host (new settings : Tracker S) first).lastTag? = some tag →
        ∃ last, now.lastTag? = some last ∧ tag.number ≤ last.number) ∧
    (∀ first second third, history = first ++ second ++ third → ∀ tag,
      (∃ record ∈ (afterAll host (new settings : Tracker S) first).tracked, record.tag = tag) →
      (∀ record ∈ (afterAll host (new settings : Tracker S) (first ++ second)).tracked,
        record.tag ≠ tag) →
        ∀ record ∈ now.tracked, record.tag ≠ tag) ∧
    (now.tracked.Pairwise fun first second => second.tag.number < first.tag.number) ∧
    (∀ record ∈ now.tracked,
      ∃ last, now.lastTag? = some last ∧ record.tag.number ≤ last.number) ∧
    (served host settings visits : List (K × Outcome σ C S Reply)).map Prod.snd =
      lived.map Episode.outcome ∧
    (∀ caller, (received caller (served host settings visits)).Pairwise
      fun first second => first.number < second.number) ∧
    (∀ first second, first ≠ second → ∀ tag ∈ received first (served host settings visits),
      tag ∉ received second (served host settings visits)) := by
  intro history lived now
  have sound : now.Sound := Reachable.sound ⟨history, rfl⟩
  refine ⟨handedOut_eq host settings history,
    fun _ member => (assigns_of_mem member).assigned_bounds (legal_of_mem member).honest,
    fun _ member _ added => assigned_of_tag member added,
    fun _ member _ tracked => (assigns_of_mem member).tracked_or_assigned tracked, ?_, ?_,
    sound.descending, fun record member => last?_of_le _ (sound.bounded record member), ?_,
    received_ascend host settings visits, fun _ _ => received_disjoint host settings visits⟩
  · intro first second whole tag isLast
    have soundFirst : (afterAll host (new settings : Tracker S) first).Sound :=
      Reachable.sound ⟨first, rfl⟩
    have later := soundFirst.lastTag?_le host second isLast
    rw [← afterAll_append, ← whole] at later
    exact later
  · intro first second third whole tag tracked gone
    have apart := not_tracked_again host settings first second third tracked gone
    rw [← whole] at apart
    exact apart
  · rw [served, (HandlerLock.serveAll_eq host _ visits).1]
    exact (map_outcome_episodes host (new settings) history).symm

end Tracker

end ClassLiveness

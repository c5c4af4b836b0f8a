import ClassLiveness.Proofs.Registry.Sweeping
import ClassLiveness.Registry.Ledger

/-!
# Registries that keep a ledger

From here on the slots are forgotten.  A drain keeps a ledger and a list of
waiting records if some layout of its slots has these records (`Drain.Keeps`); a
registry keeps a ledger if nothing waits (`Registry.Keeps`).

The views of the registry are then those of the ledger (`Registry.Keeps.records_eq`
and the lemmas after it), a push is a push to the ledger (`Registry.Keeps.push_ok`,
`Registry.Keeps.push_error`), and a sweep takes from the chain of the ledger what the
questions condemn (`Registry.Keeps.sweep`).  No push, sweep or drain breaks the chains.
-/

set_option autoImplicit false

namespace ClassLiveness

/-- Among entries with different keys a search by the key finds the one that has it. -/
theorem find?_key_eq_some_iff {α κ : Type} [DecidableEq κ] {key : α → κ} {entries : List α}
    (different : (entries.map key).Nodup) {wanted : κ} {entry : α} :
    (entries.find? fun other => key other = wanted) = some entry ↔
      entry ∈ entries ∧ key entry = wanted := by
  constructor
  · intro found
    exact ⟨List.mem_of_find?_eq_some found, by simpa using List.find?_some found⟩
  · rintro ⟨member, rfl⟩
    have isSome : (entries.find? fun other => key other = key entry).isSome = true :=
      List.find?_isSome.mpr ⟨entry, member, decide_eq_true rfl⟩
    obtain ⟨other, found⟩ := Option.isSome_iff_exists.mp isSome
    have sameKey : key other = key entry := by simpa using List.find?_some found
    rw [found, List.inj_on_of_nodup_map different (List.mem_of_find?_eq_some found) member sameKey]

/-- A drain holds the records of a ledger, and others that wait to be released. -/
def Drain.Keeps (drain : Drain) (ledger : Ledger) (waiting : List ClassRecord) : Prop :=
  ∃ layout : Layout, drain.Holds layout ∧ layout.chain.map Cell.record = ledger.chain ∧
    layout.waiting.map Cell.record = waiting ∧ layout.forgotten.map Cell.record = ledger.forgotten

/-- A registry holds the records of a ledger and no others. -/
def Registry.Keeps (registry : Registry) (ledger : Ledger) : Prop :=
  registry.atRest.Keeps ledger []

namespace Drain.Keeps

variable {drain : Drain} {ledger : Ledger} {waiting : List ClassRecord}

/-- Taking from a drain hands out the first waiting records, and leaves the rest. -/
theorem take (keeps : drain.Keeps ledger waiting) (count : Nat) :
    ∃ rest, drain.take count = .ok (waiting.take count, rest) ∧
      rest.Keeps ledger (waiting.drop count) := by
  obtain ⟨⟨chain, waits, forgotten, vacant⟩, holds, chained, rfl, forgot⟩ := keeps
  obtain ⟨rest, left, taken, held⟩ := holds.take count
  refine ⟨rest, taken.trans ?_, _, held, chained, ?_, forgot⟩
  · rw [List.map_take]
  · rw [List.map_drop]

/-- Every waiting record can be handed out. -/
theorem takeAll (keeps : drain.Keeps ledger waiting) :
    ∃ after, drain.takeAll = .ok (waiting, after) ∧ after.Keeps ledger := by
  obtain ⟨⟨chain, waits, forgotten, vacant⟩, holds, chained, rfl, forgot⟩ := keeps
  obtain ⟨after, left, taken, held⟩ := holds.takeAll
  exact ⟨after, taken, _, held, chained, rfl, forgot⟩

/-- A drain that is finished keeps the ledger alone. -/
theorem finish (keeps : drain.Keeps ledger waiting) :
    ∃ after, drain.finish = .ok after ∧ after.Keeps ledger := by
  obtain ⟨⟨chain, waits, forgotten, vacant⟩, holds, chained, -, forgot⟩ := keeps
  obtain ⟨after, left, finished, held⟩ := holds.finish
  exact ⟨after, finished, _, held, chained, rfl, forgot⟩

/-- The waiting records of a drain that is forgotten are among the forgotten ones
of the ledger. -/
theorem forget (keeps : drain.Keeps ledger waiting) :
    drain.forget.Keeps ⟨ledger.chain, waiting ++ ledger.forgotten⟩ := by
  obtain ⟨⟨chain, waits, forgotten, vacant⟩, holds, chained, rfl, forgot⟩ := keeps
  refine ⟨_, holds.forget, chained, rfl, ?_⟩
  rw [List.map_append, forgot]

/-- There are at least as many slots as waiting records. -/
theorem length_le_capacity (keeps : drain.Keeps ledger waiting) :
    waiting.length ≤ drain.registry.capacity := by
  obtain ⟨layout, holds, -, rfl, -⟩ := keeps
  have capacity := holds.accounts.capacity_eq
  simp only [Layout.cells, List.length_append] at capacity
  rw [List.length_map]
  omega

end Drain.Keeps

namespace Registry.Keeps

variable {registry : Registry} {ledger : Ledger}

theorem empty : Registry.empty.Keeps .empty := ⟨.empty, .empty, rfl, rfl, rfl⟩

/-- The records of a registry are those of its ledger, and no two share a tag. -/
theorem layout (keeps : registry.Keeps ledger) :
    ∃ layout, registry.atRest.Holds layout ∧ layout.chain.map Cell.record = ledger.chain ∧
      layout.cells.map Cell.record = ledger.all := by
  obtain ⟨layout, holds, chained, waits, forgot⟩ := keeps
  refine ⟨layout, holds, chained, ?_⟩
  simp only [Layout.cells, List.map_append, chained, waits, forgot, List.append_nil, Ledger.all]

/-! ## Views -/

theorem records_eq (keeps : registry.Keeps ledger) : registry.records = ledger.chain := by
  obtain ⟨layout, holds, chained, -⟩ := keeps.layout
  exact holds.records_eq.trans chained

theorem len_eq (keeps : registry.Keeps ledger) : registry.len = ledger.len := by
  obtain ⟨layout, holds, -, all⟩ := keeps.layout
  rw [Ledger.len, ← all, List.length_map]
  exact holds.accounts.len_eq

theorem isEmpty_eq (keeps : registry.Keeps ledger) : registry.isEmpty = ledger.isEmpty := by
  obtain ⟨layout, holds, -, all⟩ := keeps.layout
  rw [Ledger.isEmpty, ← all, List.isEmpty_map]
  exact holds.accounts.isEmpty_eq

theorem get?_eq (keeps : registry.Keeps ledger) (tag : Tag) :
    registry.get? tag = ledger.get? tag := by
  obtain ⟨layout, holds, -, all⟩ := keeps.layout
  rw [Ledger.get?, ← all]
  exact holds.get?_eq tag

theorem contains_eq (keeps : registry.Keeps ledger) (tag : Tag) :
    registry.contains tag = ledger.contains tag := by
  obtain ⟨layout, holds, -, all⟩ := keeps.layout
  have known := holds.accounts.contains_iff tag
  rw [Ledger.contains, Ledger.get?, ← all, Bool.eq_iff_iff, List.find?_isSome]
  refine known.trans ?_
  simp [Cell.tag]

/-- No two records of a registry share a tag. -/
theorem tags_nodup (keeps : registry.Keeps ledger) :
    (ledger.all.map ClassRecord.tag).Nodup := by
  obtain ⟨layout, holds, -, all⟩ := keeps.layout
  rw [← all, List.map_map]
  exact holds.accounts.tags_nodup

/-- The record of a tag is the one among the records that has the tag. -/
theorem get?_eq_some_iff (keeps : registry.Keeps ledger) {tag : Tag} {record : ClassRecord} :
    registry.get? tag = some record ↔ record ∈ ledger.all ∧ record.tag = tag := by
  rw [keeps.get?_eq]
  exact find?_key_eq_some_iff keeps.tags_nodup

/-- A tag is known if one of the records has it. -/
theorem contains_iff (keeps : registry.Keeps ledger) (tag : Tag) :
    registry.contains tag = true ↔ ∃ record ∈ ledger.all, record.tag = tag := by
  rw [keeps.contains_eq, Ledger.contains, ← keeps.get?_eq, Option.isSome_iff_exists]
  exact exists_congr fun _ => keeps.get?_eq_some_iff

/-! ## Operations -/

/-- A push that the ledger refuses is refused. -/
theorem push_error (keeps : registry.Keeps ledger) {record : ClassRecord} {abort : Abort}
    (refused : ledger.push record = .error abort) : registry.push record = .error abort := by
  rw [Registry.push, keeps.contains_eq]
  simp only [Ledger.push] at refused
  split at refused
  · rename_i known
    cases refused
    rw [if_pos known]
  · cases refused

/-- A push that the ledger accepts leaves a registry that keeps the new ledger. -/
theorem push_ok (keeps : registry.Keeps ledger) {record : ClassRecord} {grown : Ledger}
    (accepted : ledger.push record = .ok grown) :
    ∃ after, registry.push record = .ok after ∧ after.Keeps grown := by
  simp only [Ledger.push] at accepted
  split at accepted
  · cases accepted
  · rename_i unknown
    cases accepted
    obtain ⟨layout, holds, chained, waits, forgot⟩ := keeps
    have keeps : registry.Keeps ledger := ⟨layout, holds, chained, waits, forgot⟩
    rw [← keeps.contains_eq] at unknown
    have fresh : ∀ cell ∈ layout.cells, cell.tag ≠ record.tag := by
      intro cell member same
      exact unknown ((holds.accounts.contains_iff record.tag).mpr ⟨cell, member, same⟩)
    obtain ⟨slot, left, held⟩ := holds.pushFront fresh
    refine ⟨registry.pushFront record, if_neg unknown, _, held, ?_, waits, forgot⟩
    rw [List.map_cons, chained]

/-- **A sweep ends as the questions about the records on the chain say.**  If all
are answered, the dead wait in the reverse order of the questions; if one fails,
they are released. -/
theorem sweep {ε σ : Type} (keeps : registry.Keeps ledger) (ask : Tag → EStateM ε σ Bool)
    (state : σ) :
    let inquest := inquire ask ledger.chain state
    match inquest.failure? with
    | none => ∃ drain, registry.sweep ask state = (.drained drain, inquest.state) ∧
        drain.Keeps ⟨inquest.alive, ledger.forgotten⟩ inquest.dead.reverse
    | some reason => ∃ after, registry.sweep ask state = (.failed reason after, inquest.state) ∧
        after.Keeps ⟨inquest.kept, ledger.forgotten⟩ := by
  obtain ⟨⟨chain, waits, forgotten, vacant⟩, holds, chained, waited, forgot⟩ := keeps
  obtain rfl := List.map_eq_nil_iff.mp waited
  have enough : chain.length ≤ registry.capacity := by
    have capacity := holds.accounts.capacity_eq
    simp only [Layout.cells, List.length_append, atRest] at capacity
    omega
  obtain ⟨kept, dead, keptRecords, deadRecords, ended⟩ :=
    (Sweep.Stands.start holds).run ask enough state
  simp only at chained
  rw [chained] at keptRecords deadRecords ended
  intro inquest
  cases failed : inquest.failure? with
  | none =>
      have examined := unexamined_inquire ask ledger.chain state failed
      rw [show (inquire ask ledger.chain state).failure? = none from failed] at ended
      obtain ⟨drain, swept, held⟩ := ended
      refine ⟨drain, swept, _, held, ?_, ?_, forgot⟩
      · rw [List.nil_append, keptRecords, Inquest.kept, examined, List.append_nil]
      · rw [List.append_nil, List.map_reverse, deadRecords]
  | some reason =>
      rw [show (inquire ask ledger.chain state).failure? = some reason from failed] at ended
      obtain ⟨after, left, swept, held⟩ := ended
      exact ⟨after, swept, _, held, keptRecords, rfl, forgot⟩

end Registry.Keeps

end ClassLiveness

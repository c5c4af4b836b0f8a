import ClassLiveness.Proofs.Registry.Inquest
import ClassLiveness.Proofs.Registry.Layout

/-!
# What a sweep does

A sweep under way stands between the cells that it has spared and those that it
has not come to (`Sweep.Stands`).  The link is the last spared cell and the cursor
is on the first of the rest; what the head of the chain leads to is at every time
the spared cells and then the rest, and the doomed cells hang on a chain of their
own.  Sparing and condemning a cell keep this (`Sweep.Stands.spare`,
`Sweep.Stands.condemn`), and so the sweep ends as the questions say
(`Sweep.Stands.run`): the survivors and the unexamined cells are on the chain in
their old order, and the dead wait in the reverse order of the questions.
-/

set_option autoImplicit false

namespace ClassLiveness

/-! ## A sweep under way -/

open Registry

/-- A sweep stands behind the cells that it has spared and before the rest, and
the doomed cells are on a chain of their own. -/
structure Sweep.Stands (sweep : Sweep) (spared rest doomed forgotten : List Cell)
    (vacant : List Nat) : Prop where
  link : sweep.link = spared.getLast?.map Cell.slot
  cursor : sweep.cursor = rest.head?.map Cell.slot
  holds : sweep.drain.Holds ⟨spared ++ rest, doomed, forgotten, vacant⟩

namespace Sweep.Stands

variable {sweep : Sweep} {spared rest doomed forgotten : List Cell} {vacant : List Nat}
  {cell : Cell}

/-- Before the first question all cells on the chain are still to come. -/
theorem start {registry : Registry} {chain : List Cell}
    (holds : registry.atRest.Holds ⟨chain, [], forgotten, vacant⟩) :
    (Sweep.start registry).Stands [] chain [] forgotten vacant where
  link := rfl
  cursor := holds.chain.link_eq
  holds := holds

/-- The slot under the cursor is occupied, and its link leads to the cell behind. -/
theorem occupied (stands : sweep.Stands spared (cell :: rest) doomed forgotten vacant) :
    sweep.registry.slots[cell.slot]? =
      some (.occupied cell.record (rest.head?.map Cell.slot)) := by
  obtain ⟨middle, -, back⟩ := chain_append_iff.mp stands.holds.chain
  obtain ⟨-, next, occupied, behind⟩ := back.cons_inv
  rw [← behind.link_eq]
  exact occupied

theorem occupant?_eq (stands : sweep.Stands spared (cell :: rest) doomed forgotten vacant) :
    sweep.registry.occupant? cell.slot = some (cell.record, rest.head?.map Cell.slot) := by
  simp only [Registry.occupant?, stands.occupied, Option.bind_some, Slot.occupant?]

/-- Sparing a cell moves the sweep behind it. -/
theorem spare (stands : sweep.Stands spared (cell :: rest) doomed forgotten vacant) :
    (sweep.spare cell.slot (rest.head?.map Cell.slot)).Stands (spared ++ [cell]) rest doomed
      forgotten vacant where
  link := by simp only [Sweep.spare, List.getLast?_concat, Option.map_some]
  cursor := rfl
  holds := by
    have holds := stands.holds
    rw [← List.append_cons]
    exact holds

/-! ### Taking a cell out of the chain -/

/-- The accounts with the cell under examination in front of all the others. -/
theorem accounts (stands : sweep.Stands spared (cell :: rest) doomed forgotten vacant) :
    sweep.registry.Accounts (cell :: (spared ++ rest ++ doomed ++ forgotten)) vacant := by
  apply stands.holds.accounts.perm
  simp only [Layout.cells, List.append_assoc, List.cons_append]
  exact List.perm_middle

/-- Making the link lead past a cell changes none but the slots of spared cells,
and it takes the cell out of the chain. -/
theorem relink (stands : sweep.Stands spared (cell :: rest) doomed forgotten vacant) :
    let after := sweep.relink (rest.head?.map Cell.slot)
    Chain after.slots after.head (spared ++ rest) none ∧
      (∀ slot, (∀ other ∈ spared, other.slot ≠ slot) →
        after.slots[slot]? = sweep.registry.slots[slot]?) ∧
      after.slots.size = sweep.registry.slots.size ∧
      after.free = sweep.registry.free ∧ after.index = sweep.registry.index := by
  obtain ⟨middle, front, back⟩ := chain_append_iff.mp stands.holds.chain
  obtain ⟨-, next, -, behind⟩ := back.cons_inv
  have leadsOn := behind.link_eq
  have link := stands.link
  rcases List.eq_nil_or_concat spared with rfl | ⟨init, last, rfl⟩
  · simp only [Sweep.relink, link, List.getLast?_nil, Option.map_none, ← leadsOn]
    exact ⟨behind, fun _ _ => trivial, trivial, trivial, trivial⟩
  · simp only [List.concat_eq_append, List.append_assoc] at stands front link ⊢
    simp only [List.getLast?_concat, Option.map_some] at link
    have inChain : last ∈ init ++ [last] := List.mem_append_right _ (List.mem_singleton_self _)
    obtain ⟨further, occupied⟩ : ∃ further,
        sweep.registry.slots[last.slot]? = some (.occupied last.record further) :=
      front.occupied inChain
    have apart : ∀ other ∈ init ++ rest, other.slot ≠ last.slot := by
      have moved : (cell :: (init ++ [last] ++ rest ++ doomed ++ forgotten)).Perm
          (last :: (cell :: (init ++ rest ++ doomed ++ forgotten))) := by
        simp only [List.append_assoc, List.singleton_append]
        exact (List.perm_middle.cons cell).trans (.swap _ _ _)
      have accounts := (stands.accounts.perm (by simpa using moved))
      intro other member
      apply accounts.slot_ne_of_mem
      simp only [List.mem_append] at member
      rcases member with member | member <;> simp [member]
    simp only [Sweep.relink, link, ← leadsOn]
    rw [setNext_eq occupied]
    refine ⟨?_, ?_, Array.size_setIfInBounds, rfl, rfl⟩
    · rw [← List.singleton_append, ← List.append_assoc]
      refine chain_append_iff.mpr ⟨next, ?_, ?_⟩
      · exact front.redirect (fun other member => apart other (List.mem_append_left _ member)) next
      · apply behind.frame
        intro other member
        exact Array.getElem?_setIfInBounds_ne (apart other (List.mem_append_right _ member)).symm
    · intro slot elsewhere
      exact Array.getElem?_setIfInBounds_ne (elsewhere last inChain)

/-- The other cells sit in other slots than the one under examination. -/
theorem slot_ne (stands : sweep.Stands spared (cell :: rest) doomed forgotten vacant)
    {other : Cell} (member : other ∈ spared ++ rest ++ doomed ++ forgotten) :
    other.slot ≠ cell.slot := stands.accounts.slot_ne_of_mem member

/-- No spared cell sits in the slot of a doomed or forgotten one. -/
theorem spared_slot_ne (stands : sweep.Stands spared (cell :: rest) doomed forgotten vacant)
    {other spare : Cell} (member : other ∈ doomed ++ forgotten) (isSpared : spare ∈ spared) :
    spare.slot ≠ other.slot := by
  have parts := stands.holds.accounts
  simp only [Layout.cells, List.append_assoc] at parts
  exact parts.slot_ne_of_append isSpared (by simp [List.mem_append.mp member])

/-- Condemning a cell makes the link lead past it, and writes its own link. -/
theorem condemn_registry (stands : sweep.Stands spared (cell :: rest) doomed forgotten vacant) :
    let relinked := sweep.relink (rest.head?.map Cell.slot)
    relinked.slots[cell.slot]? = some (.occupied cell.record (rest.head?.map Cell.slot)) ∧
      (sweep.condemn cell.slot (rest.head?.map Cell.slot)).registry =
        { relinked with
          slots :=
            relinked.slots.setIfInBounds cell.slot (.occupied cell.record sweep.doomed) } := by
  obtain ⟨-, frame, -⟩ := stands.relink
  have kept := frame cell.slot fun other member => stands.slot_ne (by simp [member])
  have occupied := kept.trans stands.occupied
  exact ⟨occupied, setNext_eq occupied sweep.doomed⟩

/-- Condemning a cell writes none but the slots of the spared cells and its own. -/
theorem condemn_frame (stands : sweep.Stands spared (cell :: rest) doomed forgotten vacant)
    {slot : Nat} (different : slot ≠ cell.slot) (elsewhere : ∀ other ∈ spared, other.slot ≠ slot) :
    (sweep.condemn cell.slot (rest.head?.map Cell.slot)).registry.slots[slot]? =
      sweep.registry.slots[slot]? := by
  obtain ⟨-, frame, -⟩ := stands.relink
  rw [stands.condemn_registry.2, Array.getElem?_setIfInBounds_ne different.symm,
    frame slot elsewhere]

/-- **Condemning a cell takes it out of the chain**, and puts it in front of the
doomed cells. -/
theorem condemn (stands : sweep.Stands spared (cell :: rest) doomed forgotten vacant) :
    (sweep.condemn cell.slot (rest.head?.map Cell.slot)).Stands spared rest (cell :: doomed)
      forgotten vacant where
  link := stands.link
  cursor := rfl
  holds := by
    obtain ⟨chain, -, sizes, free, index⟩ := stands.relink
    obtain ⟨occupied, written⟩ := stands.condemn_registry
    have kept : ∀ other ∈ doomed ++ forgotten,
        (sweep.condemn cell.slot (rest.head?.map Cell.slot)).registry.slots[other.slot]? =
          sweep.registry.slots[other.slot]? := fun other member =>
      stands.condemn_frame (stands.slot_ne (by simp [List.mem_append.mp member]))
        fun _ => stands.spared_slot_ne member
    constructor
    · simp only [Sweep.drain, written]
      apply chain.frame
      intro other member
      have different : other.slot ≠ cell.slot :=
        stands.slot_ne (List.mem_append_left _ (List.mem_append_left _ member))
      exact Array.getElem?_setIfInBounds_ne different.symm
    · have inside : cell.slot < (sweep.relink (rest.head?.map Cell.slot)).slots.size :=
        (Array.getElem?_eq_some_iff.mp occupied).1
      refine .cons cell ?_ (stands.holds.waiting.frame ?_)
      · simp only [Sweep.drain, written]
        exact Array.getElem?_setIfInBounds_self_of_lt inside
      · intro other member
        exact kept other (List.mem_append_left forgotten member)
    · intro other member
      obtain ⟨next, here⟩ := stands.holds.forgotten other member
      exact ⟨next, (kept other (List.mem_append_right doomed member)).trans here⟩
    · have vacancies := stands.holds.vacant.frame fun slot isVacant =>
        stands.condemn_frame
          (stands.accounts.slot_ne_of_vacant List.mem_cons_self isVacant).symm
          fun other member => stands.accounts.slot_ne_of_vacant (by simp [member]) isVacant
      simp only [Sweep.drain, written, free] at vacancies ⊢
      exact vacancies
    · have moved : (cell :: (spared ++ rest ++ doomed ++ forgotten)).Perm
          (spared ++ rest ++ cell :: doomed ++ forgotten) := by
        have middle : (spared ++ rest ++ cell :: (doomed ++ forgotten)).Perm
            (cell :: (spared ++ rest ++ (doomed ++ forgotten))) := List.perm_middle
        simpa only [List.append_assoc, List.cons_append] using middle.symm
      simp only [Sweep.drain, written]
      exact (stands.accounts.perm moved).relink (Array.size_setIfInBounds.trans sizes) index

/-! ### To the end -/

/-- A failed question releases the doomed cells and keeps the rest of the chain. -/
theorem abandon {ε : Type} (stands : sweep.Stands spared rest doomed forgotten vacant)
    (reason : ε) :
    ∃ after left, sweep.abandon reason = .failed reason after ∧
      after.atRest.Holds ⟨spared ++ rest, [], forgotten, left⟩ := by
  obtain ⟨after, left, finished, holds⟩ := stands.holds.finish
  refine ⟨after, left, ?_, holds⟩
  simp only [Sweep.abandon, finished]

/-- **A sweep of enough steps ends as the questions about the rest say.** -/
theorem run {ε σ : Type} (ask : Tag → EStateM ε σ Bool)
    (stands : sweep.Stands spared rest doomed forgotten vacant) {steps : Nat}
    (enough : rest.length ≤ steps) (state : σ) :
    let inquest := inquire ask (rest.map Cell.record) state
    ∃ kept dead : List Cell, kept.map Cell.record = inquest.kept ∧
      dead.map Cell.record = inquest.dead ∧
      match inquest.failure? with
      | none => ∃ drain, Sweep.run ask steps sweep state = (.drained drain, inquest.state) ∧
          drain.Holds ⟨spared ++ kept, dead.reverse ++ doomed, forgotten, vacant⟩
      | some reason => ∃ after left,
          Sweep.run ask steps sweep state = (.failed reason after, inquest.state) ∧
          after.atRest.Holds ⟨spared ++ kept, [], forgotten, left⟩ := by
  induction rest generalizing sweep spared doomed steps state with
  | nil =>
      refine ⟨[], [], rfl, rfl, sweep.drain, ?_, stands.holds⟩
      have cursor := stands.cursor
      simp only [List.head?_nil, Option.map_none] at cursor
      cases steps <;> simp only [Sweep.run, cursor, inquire, List.map_nil]
  | cons cell rest ih =>
      cases steps with
      | zero => cases enough
      | succ steps =>
          have fewer : rest.length ≤ steps := Nat.le_of_succ_le_succ enough
          have cursor := stands.cursor
          simp only [List.head?_cons, Option.map_some] at cursor
          simp only [Sweep.run, cursor, stands.occupant?_eq, List.map_cons, inquire]
          cases asked : ask cell.record.tag state with
          | ok verdict next =>
              cases verdict with
              | true =>
                  obtain ⟨kept, dead, keptRecords, deadRecords, ended⟩ := ih stands.spare fewer next
                  refine ⟨cell :: kept, dead, ?_, deadRecords, ?_⟩
                  · rw [List.map_cons, keptRecords]
                    rfl
                  · rw [List.append_cons]
                    exact ended
              | false =>
                  obtain ⟨kept, dead, keptRecords, deadRecords, ended⟩ :=
                    ih stands.condemn fewer next
                  refine ⟨kept, cell :: dead, keptRecords, ?_, ?_⟩
                  · rw [List.map_cons, deadRecords]
                    rfl
                  · rw [List.reverse_cons, List.append_assoc, List.singleton_append]
                    exact ended
          | error reason next =>
              obtain ⟨after, left, abandoned, holds⟩ := stands.abandon reason
              refine ⟨cell :: rest, [], rfl, rfl, after, left, ?_, holds⟩
              simp only [abandoned]

end Sweep.Stands

end ClassLiveness

import ClassLiveness.Proofs.Registry.Chain
import Mathlib.Data.List.Perm.Basic
import Mathlib.Data.List.Nodup

/-!
# What a registry holds, slot by slot

A layout lists the contents of a registry and of a drain over it: the cells on
the chain, the cells that wait to be released, the cells that were forgotten, and
the vacant slots.  `Drain.Holds` says that a drain has a given layout: the two
chains and the vacant slots are linked up as listed, every slot is listed exactly
once, no two records share a tag, and the index leads from each tag to the slot
of its record (`Accounts`).  A registry by itself is a drain with nothing waiting.

Every operation on the slots is a change of layout.  A push puts a cell in front
of the chain (`Drain.Holds.pushFront`), and a release turns the first waiting cell
into a vacant slot (`Drain.Holds.release`).  The views of a registry are read off
its layout (`Drain.Holds.records_eq`, `Drain.Holds.get?_eq`, `Accounts.len_eq`,
`Accounts.contains_iff`).
-/

set_option autoImplicit false

namespace ClassLiveness

/-- The contents of the slots of a registry. -/
structure Layout where
  /-- The cells on the chain, the one pushed last in front. -/
  chain : List Cell
  /-- The cells that are off the chain and wait to be released. -/
  waiting : List Cell
  /-- The cells that no link leads to. -/
  forgotten : List Cell
  vacant : List Nat

/-- All the cells of a layout. -/
def Layout.cells (layout : Layout) : List Cell :=
  layout.chain ++ layout.waiting ++ layout.forgotten

/-- The layout of a registry without slots. -/
def Layout.empty : Layout := ⟨[], [], [], []⟩

namespace Registry

/-! ## Every slot and every tag once -/

/-- The cells and the vacant slots of a registry are all its slots, each once; no
two cells share a tag; and the index leads from the tags to the cells. -/
structure Accounts (registry : Registry) (cells : List Cell) (vacant : List Nat) : Prop where
  slots_perm : (cells.map Cell.slot ++ vacant).Perm (List.range registry.slots.size)
  tags_nodup : (cells.map Cell.tag).Nodup
  index_iff : ∀ number slot, registry.index[number]? = some slot ↔
    ∃ cell ∈ cells, cell.tag.number = number ∧ cell.slot = slot
  index_size : registry.index.size = cells.length

namespace Accounts

variable {registry after : Registry} {cells others : List Cell} {vacant : List Nat}

theorem empty : Accounts .empty [] [] where
  slots_perm := .refl _
  tags_nodup := .nil
  index_iff := by simp [Registry.empty]
  index_size := rfl

/-- The order in which the cells are listed does not matter. -/
theorem perm (accounts : Accounts registry cells vacant) (same : cells.Perm others) :
    Accounts registry others vacant where
  slots_perm := ((same.map _).symm.append_right _).trans accounts.slots_perm
  tags_nodup := (same.map _).nodup_iff.mp accounts.tags_nodup
  index_iff := by
    intro number slot
    simp only [accounts.index_iff, same.mem_iff]
  index_size := accounts.index_size.trans same.length_eq

/-- Rewriting links keeps the accounts. -/
theorem relink (accounts : Accounts registry cells vacant)
    (sizes : after.slots.size = registry.slots.size) (index : after.index = registry.index) :
    Accounts after cells vacant where
  slots_perm := sizes ▸ accounts.slots_perm
  tags_nodup := accounts.tags_nodup
  index_iff := index ▸ accounts.index_iff
  index_size := index ▸ accounts.index_size

theorem nodup (accounts : Accounts registry cells vacant) :
    (cells.map Cell.slot ++ vacant).Nodup :=
  accounts.slots_perm.nodup_iff.mpr List.nodup_range

theorem slots_nodup (accounts : Accounts registry cells vacant) : (cells.map Cell.slot).Nodup :=
  accounts.nodup.of_append_left

theorem slot_lt (accounts : Accounts registry cells vacant) {cell : Cell} (member : cell ∈ cells) :
    cell.slot < registry.slots.size :=
  List.mem_range.mp (accounts.slots_perm.mem_iff.mp
    (List.mem_append_left _ (List.mem_map_of_mem member)))

/-- No cell sits in a vacant slot. -/
theorem slot_ne_of_vacant (accounts : Accounts registry cells vacant) {cell : Cell}
    (member : cell ∈ cells) {slot : Nat} (isVacant : slot ∈ vacant) : cell.slot ≠ slot :=
  fun same => (List.disjoint_of_nodup_append accounts.nodup (List.mem_map_of_mem member))
    (same ▸ isVacant)

/-- No other cell sits in the slot of the first. -/
theorem slot_ne_of_mem {cell : Cell} (accounts : Accounts registry (cell :: cells) vacant)
    {other : Cell} (member : other ∈ cells) : other.slot ≠ cell.slot := by
  intro same
  have distinct := accounts.slots_nodup
  rw [List.map_cons, List.nodup_cons] at distinct
  exact distinct.1 (same ▸ List.mem_map_of_mem member)

/-- Cells of two parts sit in different slots. -/
theorem slot_ne_of_append {front back : List Cell}
    (accounts : Accounts registry (front ++ back) vacant) {first second : Cell}
    (inFront : first ∈ front) (inBack : second ∈ back) : first.slot ≠ second.slot := by
  have distinct := accounts.slots_nodup
  rw [List.map_append, List.nodup_append] at distinct
  exact distinct.2.2 _ (List.mem_map_of_mem inFront) _ (List.mem_map_of_mem inBack)

/-- There are as many slots as there are cells and vacant slots. -/
theorem capacity_eq (accounts : Accounts registry cells vacant) :
    registry.capacity = cells.length + vacant.length := by
  have lengths := accounts.slots_perm.length_eq
  simp only [List.length_append, List.length_map, List.length_range] at lengths
  exact lengths.symm

/-! ### Views by tag -/

theorem len_eq (accounts : Accounts registry cells vacant) : registry.len = cells.length :=
  accounts.index_size

theorem isEmpty_eq (accounts : Accounts registry cells vacant) :
    registry.isEmpty = cells.isEmpty := by
  rw [Registry.isEmpty, Std.TreeMap.isEmpty_eq_size_eq_zero, accounts.index_size]
  cases cells <;> rfl

/-- The tags that the index knows are those of the cells. -/
theorem contains_iff (accounts : Accounts registry cells vacant) (tag : Tag) :
    registry.contains tag = true ↔ ∃ cell ∈ cells, cell.tag = tag := by
  rw [Registry.contains, Std.TreeMap.contains_eq_isSome_getElem?, Option.isSome_iff_exists]
  constructor
  · rintro ⟨slot, found⟩
    obtain ⟨cell, member, number, -⟩ := (accounts.index_iff _ _).mp found
    exact ⟨cell, member, Tag.ext number⟩
  · rintro ⟨cell, member, rfl⟩
    exact ⟨cell.slot, (accounts.index_iff _ _).mpr ⟨cell, member, rfl, rfl⟩⟩

/-! ### One cell more, one cell less -/

/-- The accounts of a registry with a new cell, whose tag is new. -/
theorem insert (accounts : Accounts registry cells vacant) (cell : Cell) {left : List Nat}
    (fresh : ∀ other ∈ cells, other.tag ≠ cell.tag)
    (index : after.index = registry.index.insert cell.tag.number cell.slot)
    (slots_perm : (cell.slot :: cells.map Cell.slot ++ left).Perm (List.range after.slots.size)) :
    Accounts after (cell :: cells) left where
  slots_perm := slots_perm
  tags_nodup := by
    rw [List.map_cons, List.nodup_cons]
    refine ⟨?_, accounts.tags_nodup⟩
    intro member
    obtain ⟨other, isCell, same⟩ := List.mem_map.mp member
    exact fresh other isCell same
  index_iff := by
    intro number slot
    simp only [index, Std.TreeMap.getElem?_insert, Nat.compare_eq_eq]
    by_cases here : cell.tag.number = number
    · have others : ¬ ∃ other ∈ cells, other.tag.number = number ∧ other.slot = slot := by
        rintro ⟨other, member, same, -⟩
        exact fresh other member (Tag.ext (same.trans here.symm))
      simp [here, others]
    · simp [here, accounts.index_iff]
  index_size := by
    have absent : registry.index.contains cell.tag.number = false := by
      rw [← Bool.not_eq_true]
      intro known
      obtain ⟨other, member, same⟩ := (accounts.contains_iff cell.tag).mp known
      exact fresh other member same
    rw [index, Std.TreeMap.size_insert, absent, accounts.index_size]
    rfl

/-- The accounts of a registry one of whose cells has become a vacant slot. -/
theorem erase {cell : Cell} (accounts : Accounts registry (cell :: cells) vacant)
    (sizes : after.slots.size = registry.slots.size)
    (index : after.index = registry.index.erase cell.tag.number) :
    Accounts after cells (cell.slot :: vacant) where
  slots_perm := by
    rw [sizes]
    exact List.perm_middle.trans accounts.slots_perm
  tags_nodup := (List.nodup_cons.mp accounts.tags_nodup).2
  index_iff := by
    intro number slot
    simp only [index, Std.TreeMap.getElem?_erase, Nat.compare_eq_eq]
    have distinct := (List.nodup_cons.mp accounts.tags_nodup).1
    by_cases here : cell.tag.number = number
    · have others : ¬ ∃ other ∈ cells, other.tag.number = number ∧ other.slot = slot := by
        rintro ⟨other, member, same, -⟩
        have sameTag : other.tag = cell.tag := Tag.ext (same.trans here.symm)
        exact distinct (sameTag ▸ List.mem_map_of_mem member)
      simp [here, others]
    · simp [here, accounts.index_iff]
  index_size := by
    have known := (accounts.contains_iff cell.tag).mpr ⟨cell, List.mem_cons_self, rfl⟩
    rw [Registry.contains] at known
    rw [index, Std.TreeMap.size_erase, accounts.index_size, if_pos known, List.length_cons,
      Nat.add_sub_cancel]

end Accounts

end Registry

/-! ## Layouts of drains -/

/-- The registry of a drain and the chain that it waits to release are laid out
as a layout says. -/
structure Drain.Holds (drain : Drain) (layout : Layout) : Prop where
  chain : Registry.Chain drain.registry.slots drain.registry.head layout.chain none
  waiting : Registry.Chain drain.registry.slots drain.waiting layout.waiting none
  forgotten : ∀ cell ∈ layout.forgotten,
    ∃ next, drain.registry.slots[cell.slot]? = some (.occupied cell.record next)
  vacant : Registry.Vacancies drain.registry.slots drain.registry.free layout.vacant
  accounts : drain.registry.Accounts layout.cells layout.vacant

/-- A registry at rest, with nothing that waits to be released. -/
def Registry.atRest (registry : Registry) : Drain := ⟨registry, none⟩

namespace Drain.Holds

open Registry

variable {drain : Drain} {layout : Layout}

/-- The registry without slots is laid out without slots. -/
theorem empty : Registry.empty.atRest.Holds .empty where
  chain := .nil none
  waiting := .nil none
  forgotten := by
    intro cell member
    cases member
  vacant := .nil
  accounts := .empty

/-- Every cell is occupied by its record. -/
theorem occupied (holds : drain.Holds layout) {cell : Cell} (member : cell ∈ layout.cells) :
    ∃ next, drain.registry.slots[cell.slot]? = some (.occupied cell.record next) := by
  rcases List.mem_append.mp member with member | member
  · rcases List.mem_append.mp member with member | member
    · exact holds.chain.occupied member
    · exact holds.waiting.occupied member
  · exact holds.forgotten cell member

/-! ### Views -/

/-- The records on the chain are those of its cells. -/
theorem records_eq (holds : drain.Holds layout) :
    drain.registry.records = layout.chain.map Cell.record := by
  apply holds.chain.recordsFrom_eq
  have capacity := holds.accounts.capacity_eq
  simp only [Layout.cells, List.length_append] at capacity
  omega

/-- A tag has the record of the cell with that tag. -/
theorem get?_eq (holds : drain.Holds layout) (tag : Tag) :
    drain.registry.get? tag =
      (layout.cells.map Cell.record).find? fun record => record.tag = tag := by
  cases found : drain.registry.index[tag.number]? with
  | none =>
      have absent : ∀ cell ∈ layout.cells, cell.tag ≠ tag := by
        intro cell member same
        have known := (holds.accounts.index_iff tag.number cell.slot).mpr
          ⟨cell, member, congrArg Tag.number same, rfl⟩
        rw [found] at known
        cases known
      rw [Registry.get?, found, Option.bind_none, eq_comm, List.find?_eq_none]
      intro record member
      obtain ⟨cell, isCell, rfl⟩ := List.mem_map.mp member
      simpa [Cell.tag] using absent cell isCell
  | some slot =>
      obtain ⟨cell, member, number, rfl⟩ := (holds.accounts.index_iff _ _).mp found
      obtain ⟨next, occupied⟩ := holds.occupied member
      have sameTag : cell.tag = tag := Tag.ext number
      have unique := holds.accounts.tags_nodup
      simp only [Registry.get?, found, Option.bind_some, Registry.occupant?, occupied,
        Slot.occupant?, Option.map_some]
      rw [eq_comm]
      obtain ⟨front, back, cells⟩ := List.append_of_mem member
      rw [cells, List.map_append, List.nodup_append] at unique
      have absent : (front.map Cell.record).find? (fun record => record.tag = tag) = none := by
        rw [List.find?_eq_none]
        intro record inFront
        obtain ⟨other, isCell, rfl⟩ := List.mem_map.mp inFront
        have different := unique.2.2 _ (List.mem_map_of_mem isCell) cell.tag (by simp)
        rw [sameTag] at different
        simpa [Cell.tag] using different
      rw [cells, List.map_append, List.map_cons, List.find?_append, absent, Option.none_or,
        List.find?_cons_of_pos (by simpa [Cell.tag] using sameTag)]

/-! ### Pushing -/

/-- A registry that keeps every cell and has a new one in front of the chain is laid out so. -/
theorem front {registry after : Registry} (holds : registry.atRest.Holds layout) {cell : Cell}
    {left : List Nat} (fresh : ∀ other ∈ layout.cells, other.tag ≠ cell.tag)
    (head : after.head = some cell.slot)
    (index : after.index = registry.index.insert cell.tag.number cell.slot)
    (placed : after.slots[cell.slot]? = some (.occupied cell.record registry.head))
    (kept : ∀ other ∈ layout.cells, after.slots[other.slot]? = registry.slots[other.slot]?)
    (vacancies : Vacancies after.slots after.free left)
    (slots_perm : (cell.slot :: layout.cells.map Cell.slot ++ left).Perm
      (List.range after.slots.size)) :
    after.atRest.Holds { layout with chain := cell :: layout.chain, vacant := left } where
  chain := by
    simp only [atRest, head]
    refine .cons cell placed (holds.chain.frame ?_)
    intro other member
    exact kept other (by simp [Layout.cells, member])
  waiting := holds.waiting.frame fun other member => kept other (by simp [Layout.cells, member])
  forgotten := by
    intro other member
    obtain ⟨next, here⟩ := holds.forgotten other member
    exact ⟨next, (kept other (by simp [Layout.cells, member])).trans here⟩
  vacant := vacancies
  accounts := holds.accounts.insert cell fresh index slots_perm

/-- Without a vacant slot a pushed record comes into a new slot at the end. -/
theorem pushFront_of_full {registry : Registry} (holds : registry.atRest.Holds layout)
    {record : ClassRecord} (fresh : ∀ cell ∈ layout.cells, cell.tag ≠ record.tag)
    (full : registry.free = none) :
    (registry.pushFront record).atRest.Holds
      { layout with chain := ⟨registry.capacity, record⟩ :: layout.chain, vacant := [] } := by
  have vacancies := holds.vacant
  simp only [atRest, full] at vacancies
  have noVacant : layout.vacant = [] := by
    generalize layout.vacant = vacant at vacancies
    cases vacancies
    rfl
  simp only [Registry.pushFront, full]
  refine holds.front fresh rfl rfl Array.getElem?_push_size ?_ .nil ?_
  · intro cell member
    have inside := holds.accounts.slot_lt member
    exact (Array.getElem?_push_lt inside).trans (Array.getElem?_eq_getElem inside).symm
  · have slots := holds.accounts.slots_perm
    simp only [atRest, noVacant, List.append_nil, Array.size_push, List.range_succ] at slots ⊢
    exact (slots.cons _).trans (List.perm_append_singleton _ _).symm

/-- A vacant slot that is taken for a pushed record is the first one. -/
theorem pushFront_of_vacant {registry : Registry} {slot : Nat} {rest : List Nat}
    (holds : registry.atRest.Holds layout) {record : ClassRecord}
    (fresh : ∀ cell ∈ layout.cells, cell.tag ≠ record.tag) (free : registry.free = some slot)
    (vacant : layout.vacant = slot :: rest) :
    (registry.pushFront record).atRest.Holds
      { layout with chain := ⟨slot, record⟩ :: layout.chain, vacant := rest } := by
  have accounts := holds.accounts
  have vacancies := holds.vacant
  simp only [atRest, vacant, free] at accounts vacancies
  cases vacancies with
  | @cons _ next _ isVacant behind =>
      have inside : slot < registry.slots.size := (Array.getElem?_eq_some_iff.mp isVacant).1
      have distinct := accounts.nodup
      rw [List.nodup_append, List.nodup_cons] at distinct
      simp only [Registry.pushFront, free, freeBehind, isVacant]
      refine holds.front fresh rfl rfl (Array.getElem?_setIfInBounds_self_of_lt inside) ?_ ?_ ?_
      · intro cell member
        have apart := accounts.slot_ne_of_vacant member List.mem_cons_self
        exact Array.getElem?_setIfInBounds_ne apart.symm
      · apply behind.frame
        intro other member
        apply Array.getElem?_setIfInBounds_ne
        rintro rfl
        exact distinct.2.1.1 member
      · simp only [Array.size_setIfInBounds]
        exact List.perm_middle.symm.trans accounts.slots_perm

/-- **A push puts a cell in front of the chain**, if its tag is new. -/
theorem pushFront {registry : Registry} (holds : registry.atRest.Holds layout)
    {record : ClassRecord} (fresh : ∀ cell ∈ layout.cells, cell.tag ≠ record.tag) :
    ∃ slot left, (registry.pushFront record).atRest.Holds
      { layout with chain := ⟨slot, record⟩ :: layout.chain, vacant := left } := by
  cases free : registry.free with
  | none => exact ⟨_, _, holds.pushFront_of_full fresh free⟩
  | some slot =>
      have vacancies := holds.vacant
      simp only [atRest, free] at vacancies
      cases vacant : layout.vacant with
      | nil =>
          rw [vacant] at vacancies
          cases vacancies
      | cons first rest =>
          rw [vacant] at vacancies
          cases vacancies
          exact ⟨_, _, holds.pushFront_of_vacant fresh free vacant⟩

/-! ### Releasing -/

/-- **A release turns the first waiting cell into the first vacant slot.** -/
theorem release {chain rest forgotten : List Cell} {cell : Cell} {vacant : List Nat}
    (holds : drain.Holds ⟨chain, cell :: rest, forgotten, vacant⟩) :
    drain.waiting = some cell.slot ∧
      ∃ next after, drain.registry.release cell.slot = .ok (cell.record, next, after) ∧
        (⟨after, next⟩ : Drain).Holds ⟨chain, rest, forgotten, cell.slot :: vacant⟩ := by
  have moved : (chain ++ cell :: rest ++ forgotten).Perm
      (cell :: (chain ++ rest ++ forgotten)) := by
    rw [List.append_assoc, List.append_assoc, List.cons_append]
    exact List.perm_middle
  have accounts := holds.accounts.perm moved
  have apart : ∀ other ∈ chain ++ rest ++ forgotten, other.slot ≠ cell.slot :=
    fun other member => accounts.slot_ne_of_mem member
  obtain ⟨link, next, occupied, waits⟩ := holds.waiting.cons_inv
  have inside : cell.slot < drain.registry.slots.size := (Array.getElem?_eq_some_iff.mp occupied).1
  refine ⟨link, next, _, release_eq occupied, ?_⟩
  constructor
  · apply holds.chain.frame
    intro other member
    exact Array.getElem?_setIfInBounds_ne (apart other (by simp [member])).symm
  · apply waits.frame
    intro other member
    exact Array.getElem?_setIfInBounds_ne (apart other (by simp [member])).symm
  · intro other member
    obtain ⟨next, here⟩ := holds.forgotten other member
    have different := apart other (List.mem_append_right _ member)
    exact ⟨next, (Array.getElem?_setIfInBounds_ne different.symm).trans here⟩
  · refine .cons (Array.getElem?_setIfInBounds_self_of_lt inside) (holds.vacant.frame ?_)
    intro slot member
    exact Array.getElem?_setIfInBounds_ne
      (accounts.slot_ne_of_vacant List.mem_cons_self member)
  · exact accounts.erase Array.size_setIfInBounds rfl

/-- Taking from a drain hands out the first waiting records, and leaves the rest. -/
theorem take {chain waiting forgotten : List Cell} {vacant : List Nat}
    (holds : drain.Holds ⟨chain, waiting, forgotten, vacant⟩) (count : Nat) :
    ∃ rest left, drain.take count = .ok ((waiting.take count).map Cell.record, rest) ∧
      rest.Holds ⟨chain, waiting.drop count, forgotten, left⟩ := by
  induction count generalizing drain waiting vacant with
  | zero => exact ⟨drain, vacant, rfl, holds⟩
  | succ count ih =>
      cases waiting with
      | nil =>
          have link := holds.waiting.link_eq
          simp only [List.head?_nil, Option.map_none] at link
          exact ⟨drain, vacant, by simp [Drain.take, link], holds⟩
      | cons cell waiting =>
          obtain ⟨link, next, after, released, holds⟩ := holds.release
          obtain ⟨rest, left, taken, holds⟩ := ih holds
          refine ⟨rest, left, ?_, holds⟩
          simp only [Drain.take, link, released, taken, bind, Except.bind, pure, Except.pure,
            List.take_succ_cons, List.map_cons]

/-- Every waiting record can be handed out. -/
theorem takeAll {chain waiting forgotten : List Cell} {vacant : List Nat}
    (holds : drain.Holds ⟨chain, waiting, forgotten, vacant⟩) :
    ∃ after left, drain.takeAll = .ok (waiting.map Cell.record, after) ∧
      after.atRest.Holds ⟨chain, [], forgotten, left⟩ := by
  obtain ⟨rest, left, taken, held⟩ := holds.take drain.registry.capacity
  have enough : waiting.length ≤ drain.registry.capacity := by
    have capacity := holds.accounts.capacity_eq
    simp only [Layout.cells, List.length_append] at capacity
    omega
  rw [List.take_of_length_le enough] at taken
  rw [List.drop_of_length_le enough] at held
  refine ⟨rest.registry, left, ?_, ?_⟩
  · simp only [Drain.takeAll, taken, bind, Except.bind, pure, Except.pure]
  · have link := held.waiting.link_eq
    obtain ⟨registry, waits⟩ := rest
    cases link
    exact held

/-- A drain that is finished has released every waiting record. -/
theorem finish {chain waiting forgotten : List Cell} {vacant : List Nat}
    (holds : drain.Holds ⟨chain, waiting, forgotten, vacant⟩) :
    ∃ after left, drain.finish = .ok after ∧
      after.atRest.Holds ⟨chain, [], forgotten, left⟩ := by
  obtain ⟨after, left, taken, held⟩ := holds.takeAll
  refine ⟨after, left, ?_, held⟩
  simp only [Drain.finish, taken, bind, Except.bind, pure, Except.pure]

/-- The waiting records of a drain that is forgotten are forgotten. -/
theorem forget {chain waiting forgotten : List Cell} {vacant : List Nat}
    (holds : drain.Holds ⟨chain, waiting, forgotten, vacant⟩) :
    drain.forget.atRest.Holds ⟨chain, [], waiting ++ forgotten, vacant⟩ where
  chain := holds.chain
  waiting := .nil none
  forgotten := by
    intro cell member
    rcases List.mem_append.mp member with member | member
    · exact holds.waiting.occupied member
    · exact holds.forgotten cell member
  vacant := holds.vacant
  accounts := by
    have accounts := holds.accounts
    simp only [Layout.cells, List.append_nil, List.append_assoc] at accounts ⊢
    exact accounts

end Drain.Holds

end ClassLiveness

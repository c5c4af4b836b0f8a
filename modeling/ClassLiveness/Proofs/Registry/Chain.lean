import ClassLiveness.Registry.Sweep

/-!
# Chains of slots

A registry stores two kinds of chain in its slots.  Records hang together by
their `next` fields (`Chain`), and vacant slots by their `nextFree` fields
(`Vacancies`).  Both are relations between a link, which is where the walk
starts, and the list of what the walk meets; a chain of records also names the
link at which it stops, so that chains can be cut and joined
(`chain_append_iff`).

A chain reads only the slots that it meets, so a write elsewhere leaves it alone
(`Chain.frame`, `Vacancies.frame`).  A write into its last slot moves the link at
which it stops (`Chain.redirect`), and this is how a sweep takes a record out of the
middle of a chain.
-/

set_option autoImplicit false

namespace ClassLiveness

/-- A record and the number of the slot that holds it. -/
structure Cell where
  slot : Nat
  record : ClassRecord
deriving DecidableEq

/-- The tag of the record in a cell. -/
def Cell.tag (cell : Cell) : Tag := cell.record.tag

namespace Registry

/-- A walk along the `next` fields that starts at a link meets these cells, and
then it is at the last link. -/
inductive Chain (slots : Array Slot) : Option Nat → List Cell → Option Nat → Prop where
  | nil (link : Option Nat) : Chain slots link [] link
  | cons (cell : Cell) {next stop : Option Nat} {rest : List Cell} :
      slots[cell.slot]? = some (.occupied cell.record next) → Chain slots next rest stop →
        Chain slots (some cell.slot) (cell :: rest) stop

/-- A walk along the `nextFree` fields that starts at a link meets these slots,
and there it ends. -/
inductive Vacancies (slots : Array Slot) : Option Nat → List Nat → Prop where
  | nil : Vacancies slots none []
  | cons {slot : Nat} {next : Option Nat} {rest : List Nat} :
      slots[slot]? = some (.vacant next) → Vacancies slots next rest →
        Vacancies slots (some slot) (slot :: rest)

variable {slots after : Array Slot}

/-! ## What a chain reads -/

/-- A chain survives every change that keeps the slots it meets. -/
theorem Chain.frame {link stop : Option Nat} {cells : List Cell}
    (chain : Chain slots link cells stop)
    (kept : ∀ cell ∈ cells, after[cell.slot]? = slots[cell.slot]?) :
    Chain after link cells stop := by
  induction chain with
  | nil link => exact .nil link
  | @cons cell next stop rest occupied _ ih =>
      have here := kept cell List.mem_cons_self
      exact .cons cell (here.trans occupied) (ih fun other member => kept other (.tail _ member))

/-- Vacant slots stay chained under every change that keeps them. -/
theorem Vacancies.frame {link : Option Nat} {vacant : List Nat}
    (vacancies : Vacancies slots link vacant)
    (kept : ∀ slot ∈ vacant, after[slot]? = slots[slot]?) :
    Vacancies after link vacant := by
  induction vacancies with
  | nil => exact .nil
  | @cons slot next rest isVacant _ ih =>
      have here := kept slot List.mem_cons_self
      exact .cons (here.trans isVacant) (ih fun other member => kept other (.tail _ member))

/-- A cell of a chain is occupied by its record. -/
theorem Chain.occupied {link stop : Option Nat} {cells : List Cell}
    (chain : Chain slots link cells stop) {cell : Cell} (member : cell ∈ cells) :
    ∃ next, slots[cell.slot]? = some (.occupied cell.record next) := by
  induction chain with
  | nil link => cases member
  | @cons first next stop rest occupied _ ih =>
      rcases List.mem_cons.mp member with rfl | member
      · exact ⟨next, occupied⟩
      · exact ih member

/-- A slot that the walk along the vacant ones meets is vacant. -/
theorem Vacancies.isVacant {link : Option Nat} {vacant : List Nat}
    (vacancies : Vacancies slots link vacant) {slot : Nat} (member : slot ∈ vacant) :
    ∃ next, slots[slot]? = some (.vacant next) := by
  induction vacancies with
  | nil => cases member
  | @cons first next rest isVacant _ ih =>
      rcases List.mem_cons.mp member with rfl | isLater
      · exact ⟨next, isVacant⟩
      · exact ih isLater

/-- A chain through a cell starts at its slot and goes on behind it. -/
theorem Chain.cons_inv {link stop : Option Nat} {cell : Cell} {rest : List Cell}
    (chain : Chain slots link (cell :: rest) stop) :
    link = some cell.slot ∧ ∃ next, slots[cell.slot]? = some (.occupied cell.record next) ∧
      Chain slots next rest stop := by
  cases chain with
  | cons _ occupied behind => exact ⟨rfl, _, occupied, behind⟩

/-- A chain that ends starts at its first cell. -/
theorem Chain.link_eq {link : Option Nat} {cells : List Cell}
    (chain : Chain slots link cells none) : link = cells.head?.map Cell.slot := by
  cases chain with
  | nil => rfl
  | cons => rfl

/-- A walk of enough steps along a chain that ends meets the records of its cells. -/
theorem Chain.recordsFrom_eq {registry : Registry} {link : Option Nat} {cells : List Cell}
    (chain : Chain registry.slots link cells none) {steps : Nat} (enough : cells.length ≤ steps) :
    registry.recordsFrom steps link = cells.map Cell.record := by
  induction cells generalizing link steps with
  | nil =>
      cases chain
      cases steps <;> rfl
  | cons cell rest ih =>
      cases chain with
      | cons _ occupied behind =>
          cases steps with
          | zero => cases enough
          | succ steps =>
              have shorter : rest.length ≤ steps := Nat.le_of_succ_le_succ enough
              simp only [recordsFrom, occupant?, occupied, Option.bind_some, Slot.occupant?,
                List.map_cons, ih behind shorter]

/-! ## Cutting and joining -/

/-- A chain through two lists is a chain through the first and, from where that
stops, a chain through the second. -/
theorem chain_append_iff {link stop : Option Nat} {front back : List Cell} :
    Chain slots link (front ++ back) stop ↔
      ∃ middle, Chain slots link front middle ∧ Chain slots middle back stop := by
  induction front generalizing link with
  | nil =>
      constructor
      · intro chain
        exact ⟨link, .nil link, chain⟩
      · rintro ⟨middle, first, second⟩
        cases first with
        | nil => exact second
  | cons cell rest ih =>
      constructor
      · intro chain
        cases chain with
        | cons _ occupied behind =>
            obtain ⟨middle, first, second⟩ := ih.mp behind
            exact ⟨middle, .cons cell occupied first, second⟩
      · rintro ⟨middle, first, second⟩
        cases first with
        | cons _ occupied behind => exact .cons cell occupied (ih.mpr ⟨middle, behind, second⟩)

/-- Writing another link into the last cell of a chain makes it stop there. -/
theorem Chain.redirect {link stop : Option Nat} {front : List Cell} {last : Cell}
    (chain : Chain slots link (front ++ [last]) stop)
    (apart : ∀ cell ∈ front, cell.slot ≠ last.slot) (target : Option Nat) :
    Chain (slots.setIfInBounds last.slot (.occupied last.record target)) link (front ++ [last])
      target := by
  obtain ⟨middle, first, second⟩ := chain_append_iff.mp chain
  refine chain_append_iff.mpr ⟨middle, ?_, ?_⟩
  · apply first.frame
    intro cell member
    exact Array.getElem?_setIfInBounds_ne (apart cell member).symm
  · cases second with
    | cons _ occupied behind =>
        have inside : last.slot < slots.size := (Array.getElem?_eq_some_iff.mp occupied).1
        exact .cons last (Array.getElem?_setIfInBounds_self_of_lt inside) (.nil target)

/-! ## Writing into an occupied slot -/

/-- Writing the link behind an occupied slot keeps its record. -/
theorem setNext_eq {registry : Registry} {cell : Cell} {next : Option Nat}
    (occupied : registry.slots[cell.slot]? = some (.occupied cell.record next))
    (target : Option Nat) :
    registry.setNext cell.slot target =
      { registry with
        slots := registry.slots.setIfInBounds cell.slot (.occupied cell.record target) } := by
  simp only [setNext, occupant?, occupied, Option.bind_some, Slot.occupant?]

/-- Releasing an occupied slot hands out its record. -/
theorem release_eq {registry : Registry} {cell : Cell} {next : Option Nat}
    (occupied : registry.slots[cell.slot]? = some (.occupied cell.record next)) :
    registry.release cell.slot = .ok (cell.record, next,
      { registry with
        slots := registry.slots.setIfInBounds cell.slot (.vacant registry.free)
        free := some cell.slot
        index := registry.index.erase cell.tag.number }) := by
  simp only [release, occupant?, occupied, Option.bind_some, Slot.occupant?, Cell.tag]

end Registry

end ClassLiveness

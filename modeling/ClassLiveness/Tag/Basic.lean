/-!
# Liveness tags

A tag is the number that a host hangs on a class object, so that the object can
be asked after later.  The host reads zero as "untagged" and keeps a tag in one
64-bit word, so a tag is a number from 1 to `Tag.limit`.  Both bounds are part
of the type.

`Tag.ofNat?` reads a number as a tag and refuses exactly the numbers outside
those bounds (`Tag.ofNat?_isSome_iff`); on a tag's own number it gives the tag
back (`Tag.ofNat?_number`).
-/

set_option autoImplicit false

namespace ClassLiveness

/-- The greatest number a tag can carry: all 64 bits set. -/
def Tag.limit : Nat := 0xffffffffffffffff

/-- The identifier that a class object carries in a tracking session. -/
structure Tag where
  number : Nat
  number_pos : 0 < number
  number_le_limit : number ≤ Tag.limit
deriving DecidableEq

namespace Tag

@[ext]
theorem ext {first second : Tag} (same : first.number = second.number) : first = second := by
  cases first
  cases second
  cases same
  rfl

/-! ## Reading a number as a tag -/

/-- The tag with a given number, if the number is one that a tag can carry. -/
def ofNat? (number : Nat) : Option Tag :=
  if inside : 0 < number ∧ number ≤ limit then some ⟨number, inside.1, inside.2⟩ else none

/-- Zero stands for "untagged" and is no tag. -/
theorem ofNat?_zero : ofNat? 0 = none := rfl

theorem ofNat?_isSome_iff (number : Nat) :
    (ofNat? number).isSome ↔ 0 < number ∧ number ≤ limit := by
  unfold ofNat?
  split <;> simp_all

theorem ofNat?_number (tag : Tag) : ofNat? tag.number = some tag :=
  dif_pos ⟨tag.number_pos, tag.number_le_limit⟩

theorem ofNat?_eq_some_iff {number : Nat} {tag : Tag} :
    ofNat? number = some tag ↔ tag.number = number := by
  constructor
  · intro found
    unfold ofNat? at found
    split at found
    · cases found
      rfl
    · cases found
  · rintro rfl
    exact ofNat?_number tag

/-! ## Text -/

/-- A tag is written as its number in decimal behind a number sign. -/
def text (tag : Tag) : String := "#" ++ toString tag.number

instance : ToString Tag := ⟨text⟩

/-! ## Collections of tags -/

/-- The tags in ascending order, repeats kept. -/
def ascending (tags : List Tag) : List Tag :=
  tags.mergeSort fun first second => first.number ≤ second.number

/-- How many different tags a list holds. -/
def distinctCount (tags : List Tag) : Nat := tags.eraseDups.length

end Tag

end ClassLiveness

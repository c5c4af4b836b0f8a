import ClassLiveness.Class.Record
import ClassLiveness.Diagnosis.Abort
import Std.Data.TreeMap.Lemmas

/-!
# The registry: records in slots

The registry keeps its records in numbered slots.  A slot that holds a record
also holds the number of the next one, so the occupied slots form a chain; the
chain starts at `head` with the record pushed last.  A vacant slot holds the
number of the next vacant one, so the vacant slots form a list that starts at
`free`.  A push takes its slot from that list and makes a new one only if the
list is empty.  Beside the two chains an index leads from the number of a tag to
the slot of its record.

The registry is read in two ways.  `Registry.records` walks the chain;
`Registry.get?`, `Registry.contains` and `Registry.len` go by the index.
-/

set_option autoImplicit false

namespace ClassLiveness

/-- A place for one record. -/
inductive Slot where
  /-- A record, and the slot of the record behind it. -/
  | occupied (record : ClassRecord) (next : Option Nat)
  /-- No record, and the vacant slot behind this one. -/
  | vacant (nextFree : Option Nat)
deriving DecidableEq

/-- The record in a slot and the number of the slot behind it. -/
def Slot.occupant? : Slot → Option (ClassRecord × Option Nat)
  | .occupied record next => some (record, next)
  | .vacant _ => none

/-- An ordered collection of records, at most one for each tag. -/
structure Registry where
  slots : Array Slot
  /-- The slot of the record pushed last. -/
  head : Option Nat
  /-- The vacant slot that the next push takes. -/
  free : Option Nat
  /-- From the number of a tag to the slot of its record. -/
  index : Std.TreeMap Nat Nat

namespace Registry

/-- The registry without records and without slots. -/
def empty : Registry := ⟨#[], none, none, ∅⟩

/-! ## Reading by tag -/

/-- How many records the index leads to. -/
def len (registry : Registry) : Nat := registry.index.size

/-- The index leads to no record. -/
def isEmpty (registry : Registry) : Bool := registry.index.isEmpty

/-- How many slots there are, occupied or vacant. -/
def capacity (registry : Registry) : Nat := registry.slots.size

/-- The index leads to a record with a tag. -/
def contains (registry : Registry) (tag : Tag) : Bool := registry.index.contains tag.number

/-- The record in a slot and the number of the slot behind it. -/
def occupant? (registry : Registry) (slot : Nat) : Option (ClassRecord × Option Nat) :=
  registry.slots[slot]?.bind Slot.occupant?

/-- The record of a tag. -/
def get? (registry : Registry) (tag : Tag) : Option ClassRecord :=
  registry.index[tag.number]?.bind fun slot => (registry.occupant? slot).map (·.1)

/-! ## Reading along the chain -/

/-- The records met on the way from a slot along the chain, as far as a number
of steps allows. -/
def recordsFrom (registry : Registry) : Nat → Option Nat → List ClassRecord
  | 0, _ => []
  | _ + 1, none => []
  | steps + 1, some slot =>
      match registry.occupant? slot with
      | none => []
      | some (record, next) => record :: registry.recordsFrom steps next

/-- The records on the chain, the one pushed last in front.  A chain that meets
no slot twice is walked to its end within as many steps as there are slots. -/
def records (registry : Registry) : List ClassRecord :=
  registry.recordsFrom registry.capacity registry.head

/-! ## Pushing and clearing -/

/-- The vacant slot behind a slot that is taken from the list of vacant ones. -/
def freeBehind (registry : Registry) (slot : Nat) : Option Nat :=
  match registry.slots[slot]? with
  | some (.vacant nextFree) => nextFree
  | _ => registry.free

/-- Puts a record in front of the chain, in the first vacant slot or else in a
new one. -/
def pushFront (registry : Registry) (record : ClassRecord) : Registry :=
  match registry.free with
  | some slot =>
      { slots := registry.slots.setIfInBounds slot (.occupied record registry.head)
        head := some slot
        free := registry.freeBehind slot
        index := registry.index.insert record.tag.number slot }
  | none =>
      { slots := registry.slots.push (.occupied record registry.head)
        head := some registry.capacity
        free := none
        index := registry.index.insert record.tag.number registry.capacity }

/-- Puts a record in front of the chain, unless the index leads to one with the
same tag. -/
def push (registry : Registry) (record : ClassRecord) : Except Abort Registry :=
  if registry.contains record.tag then
    .error (.trackedTwice record.tag)
  else
    .ok (registry.pushFront record)

/-- A push makes a slot exactly if none is vacant. -/
theorem capacity_pushFront (registry : Registry) (record : ClassRecord) :
    (registry.pushFront record).capacity =
      registry.capacity + if registry.free = none then 1 else 0 := by
  unfold pushFront capacity
  split <;> simp_all

/-- Gives up every record and every slot. -/
def clear (_ : Registry) : Registry := empty

end Registry

end ClassLiveness

import ClassLiveness.Registry.Slots

/-!
# Draining records that are off the chain

Records that have been taken off the chain still sit in their slots, linked to
one another.  A drain holds the registry and the first slot of such a chain, and
hands the records out one after the other.  Handing a record out releases it:
the slot goes to the front of the vacant ones and the tag leaves the index.

A drain that is finished early is run to its end all the same, and what it hands
out is dropped (`Drain.finish`).  A drain can also be forgotten
(`Drain.forget`): then the records it still holds keep their slots and their
place in the index, and no chain leads to them.
-/

set_option autoImplicit false

namespace ClassLiveness

namespace Registry

/-- Writes the number of the slot behind an occupied slot. -/
def setNext (registry : Registry) (slot : Nat) (target : Option Nat) : Registry :=
  match registry.occupant? slot with
  | some (record, _) =>
      { registry with slots := registry.slots.setIfInBounds slot (.occupied record target) }
  | none => registry

/-- Makes a slot vacant; gives its record and the number of the slot behind it. -/
def release (registry : Registry) (slot : Nat) :
    Except Abort (ClassRecord × Option Nat × Registry) :=
  match registry.occupant? slot with
  | some (record, next) =>
      .ok (record, next,
        { registry with
          slots := registry.slots.setIfInBounds slot (.vacant registry.free)
          free := some slot
          index := registry.index.erase record.tag.number })
  | none => .error (.releasedVacant slot)

end Registry

/-- A registry together with a chain of records that are waiting to be released. -/
structure Drain where
  registry : Registry
  /-- The slot of the record that is handed out next. -/
  waiting : Option Nat

namespace Drain

/-- Hands out as many records as asked for, or all if there are fewer. -/
def take : Nat → Drain → Except Abort (List ClassRecord × Drain)
  | 0, drain => .ok ([], drain)
  | count + 1, drain =>
      match drain.waiting with
      | none => .ok ([], drain)
      | some slot => do
          let (record, next, registry) ← drain.registry.release slot
          let (records, rest) ← take count ⟨registry, next⟩
          return (record :: records, rest)

/-- Hands out every record; gives them and the registry that is left. -/
def takeAll (drain : Drain) : Except Abort (List ClassRecord × Registry) := do
  let (records, rest) ← drain.take drain.registry.capacity
  return (records, rest.registry)

/-- Releases every record that has not been handed out. -/
def finish (drain : Drain) : Except Abort Registry := do
  let (_, registry) ← drain.takeAll
  return registry

/-- Leaves the records that have not been handed out where they are. -/
def forget (drain : Drain) : Registry := drain.registry

end Drain

end ClassLiveness

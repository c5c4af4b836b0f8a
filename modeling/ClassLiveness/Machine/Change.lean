import ClassLiveness.Machine.State

/-!
# Changes to a simulated machine

What happens on a machine between the operations of its trackers: classes are
loaded, unloaded, loaded again, renamed; faults are set and healed; what the
machine lists and counts is overridden; and somebody else writes into a session.

A change that names a class or a session which is not there does nothing.
-/

set_option autoImplicit false

namespace ClassLiveness

namespace Machine

/-- Something that happens on a machine. -/
inductive Change where
  | load (signature : String) (status : ClassStatus)
  /-- Load classes with numbered signatures. -/
  | loadMany (stem : String) (count : Nat) (status : ClassStatus)
  | unload (handle : Nat)
  | reload (handle : Nat)
  /-- Unload every class that is a multiple of the stride away from the first. -/
  | unloadEvery (stride first : Nat)
  | rename (handle : Nat) (signature : String)
  | setStatus (handle : Nat) (status : ClassStatus)
  | setFault (op : HostOp) (fault : Fault)
  | heal (op : HostOp)
  | setEnumeration (enumeration : Option (List (LoadedClass Nat)))
  /-- Override the count of the live holders of a tag, or stop overriding it. -/
  | setHolders (number : Nat) (count : Option Nat)
  /-- Write a tag into a session; zero removes the one that is there. -/
  | writeTag (session handle number : Nat)
deriving DecidableEq

/-- What is answered to a change. -/
inductive Notice where
  | done
  | number (value : Nat)
  | truth (value : Bool)
deriving DecidableEq

/-- The machine with one more class, which is loaded. -/
def load (machine : Machine) (signature : String) (status : ClassStatus) : Machine :=
  { machine with classes := machine.classes.push ⟨signature, status, true⟩ }

/-- The machine with a number of classes more; `number` is that of the next
signature. -/
def loadMany (stem : String) (status : ClassStatus) : Nat → Nat → Machine → Machine
  | 0, _, machine => machine
  | count + 1, number, machine =>
      loadMany stem status count (number + 1)
        (machine.load (numberedSignature stem number) status)

/-- The machine with a class loaded or not. -/
def setLoaded (machine : Machine) (handle : Nat) (loaded : Bool) : Machine :=
  machine.changeClass handle fun found => { found with loaded := loaded }

/-- The class with a number is a multiple of a stride away from the first. -/
def isStruck (stride first handle : Nat) : Bool :=
  first ≤ handle && (handle - first) % stride == 0

/-- The machine with a fault set or healed. -/
def withFault (machine : Machine) (op : HostOp) (fault? : Option Fault) : Machine :=
  let others := machine.faults.filter fun stored => stored.1 ≠ op
  { machine with faults := (fault?.map fun fault => (op, fault)).toList ++ others }

/-- The answer to a change and the machine after it. -/
def apply (machine : Machine) : Change → Notice × Machine
  | .load signature status => (.number machine.classes.size, machine.load signature status)
  | .loadMany stem count status =>
      let after := loadMany stem status count 0 machine
      (.number after.classes.size, after)
  | .unload handle => (.done, machine.setLoaded handle false)
  | .reload handle => (.done, machine.setLoaded handle true)
  | .unloadEvery stride first =>
      (.done, { machine with
        classes := machine.classes.mapIdx fun handle found =>
          if isStruck stride first handle then { found with loaded := false } else found })
  | .rename handle signature =>
      (.done, machine.changeClass handle fun found => { found with signature := signature })
  | .setStatus handle status =>
      (.done, machine.changeClass handle fun found => { found with status := status })
  | .setFault op fault => (.done, machine.withFault op (some fault))
  | .heal op => (.done, machine.withFault op none)
  | .setEnumeration enumeration => (.done, { machine with enumeration := enumeration })
  | .setHolders number none =>
      (.done, { machine with holders := machine.holders.erase number })
  | .setHolders number (some count) =>
      (.done, { machine with holders := machine.holders.insert number count })
  | .writeTag session handle number =>
      (.truth (machine.sessions.contains session),
        machine.changeTags session fun tags =>
          match Tag.ofNat? number with
          | some tag => tags.insert handle tag
          | none => tags.erase handle)

end Machine

end ClassLiveness

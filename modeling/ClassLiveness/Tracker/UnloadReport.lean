import ClassLiveness.Diagnosis.Abort

/-!
# Reports of unloaded classes

The result of an unload pass is the signatures of the classes it found
unloaded.  They come in an order, but what is promised of them is only the set.

Room is made for a number of signatures before the first is found.  A signature
takes three 64-bit words in such a report, and a report cannot be larger than
half of the 64-bit address space; asking for more room than that aborts.
-/

set_option autoImplicit false

namespace ClassLiveness

/-- The signatures of the classes that an unload pass found unloaded. -/
structure UnloadReport where
  signatures : List String
deriving DecidableEq

namespace UnloadReport

/-- How many signatures a report makes room for unless told otherwise. -/
def defaultCapacity : Nat := 10

/-- How many signatures of three words, 24 bytes each, fit into half the address
space. -/
def greatestCapacity : Nat := 0x7fffffffffffffff / 24

/-- The report of no class. -/
def empty : UnloadReport := ⟨[]⟩

/-- The report of no class, with room for a number of signatures. -/
def withCapacity (capacity : Nat) : Except Abort UnloadReport :=
  if capacity ≤ greatestCapacity then .ok empty else .error .capacityOverflow

/-- How many classes are reported. -/
def len (report : UnloadReport) : Nat := report.signatures.length

/-- No class is reported. -/
def isEmpty (report : UnloadReport) : Bool := report.signatures.isEmpty

/-- A class with a signature is reported. -/
def contains (report : UnloadReport) (signature : String) : Bool :=
  report.signatures.contains signature

/-- The different signatures reported, in ascending order. -/
def distinct (report : UnloadReport) : List String :=
  (report.signatures.mergeSort fun first second => decide (first ≤ second)).eraseReps

/-- The report with one more signature. -/
def push (report : UnloadReport) (signature : String) : UnloadReport :=
  ⟨report.signatures ++ [signature]⟩

end UnloadReport

end ClassLiveness

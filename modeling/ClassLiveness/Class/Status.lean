/-!
# Class status

A host reports how far a class has come, and what sort of class it is, as a
32-bit word of flags.  Six of the bits have a meaning here.  A host may set
others: they are kept by every operation that does not say otherwise, and only
the operations that ask for the known bits drop them.

The text of a status names its known flags in the order of their bits and ends
with the unknown bits together, in hexadecimal (`ClassStatus.text`).
-/

set_option autoImplicit false

namespace ClassLiveness

/-! ## The known flags -/

/-- A flag with a meaning. -/
inductive StatusFlag where
  /-- Verification has completed. -/
  | verified
  /-- Linking has completed, and the class is usable. -/
  | prepared
  /-- The static initializers have run. -/
  | initialized
  /-- Initialization failed. -/
  | error
  /-- The class is an array type. -/
  | array
  /-- The class is a primitive type. -/
  | primitive
deriving DecidableEq

namespace StatusFlag

/-- Every known flag, in the order of their bits. -/
def all : List StatusFlag := [.verified, .prepared, .initialized, .error, .array, .primitive]

theorem mem_all (flag : StatusFlag) : flag ∈ all := by
  cases flag <;> decide

/-- The bit of a flag within the status word. -/
def bit : StatusFlag → UInt32
  | .verified => 0x01
  | .prepared => 0x02
  | .initialized => 0x04
  | .error => 0x08
  | .array => 0x10
  | .primitive => 0x20

/-- The name of a flag. -/
def name : StatusFlag → String
  | .verified => "VERIFIED"
  | .prepared => "PREPARED"
  | .initialized => "INITIALIZED"
  | .error => "ERROR"
  | .array => "ARRAY"
  | .primitive => "PRIMITIVE"

/-- The flag with exactly a given name. -/
def ofName? (text : String) : Option StatusFlag := all.find? fun flag => flag.name == text

end StatusFlag

/-! ## Status words -/

/-- The status word that a host reports of a class, unknown bits included. -/
structure ClassStatus where
  bits : UInt32
deriving DecidableEq

namespace ClassStatus

/-- No flag at all. -/
def empty : ClassStatus := ⟨0⟩

/-- The status with one known flag. -/
def ofFlag (flag : StatusFlag) : ClassStatus := ⟨flag.bit⟩

/-- Every bit that is set in one of two statuses. -/
def union (first second : ClassStatus) : ClassStatus := ⟨first.bits ||| second.bits⟩

/-- Every bit that is set in both of two statuses. -/
def inter (first second : ClassStatus) : ClassStatus := ⟨first.bits &&& second.bits⟩

/-- The first status without the bits of the second. -/
def diff (first second : ClassStatus) : ClassStatus := ⟨first.bits &&& ~~~second.bits⟩

/-- Every bit that is set in exactly one of two statuses. -/
def symmDiff (first second : ClassStatus) : ClassStatus := ⟨first.bits ^^^ second.bits⟩

/-- All the known flags together. -/
def known : ClassStatus :=
  StatusFlag.all.foldl (fun status flag => status.union (ofFlag flag)) empty

/-- The known bits that are set. -/
def truncate (status : ClassStatus) : ClassStatus := status.inter known

/-- The known bits that are not set. -/
def complement (status : ClassStatus) : ClassStatus := known.diff status

/-- Every bit of the second status is set in the first. -/
def contains (first second : ClassStatus) : Bool := first.inter second == second

/-- Some bit is set in both statuses. -/
def intersects (first second : ClassStatus) : Bool := first.inter second != empty

/-- No bit is set. -/
def isEmpty (status : ClassStatus) : Bool := status == empty

/-- Every known flag is set. -/
def isAll (status : ClassStatus) : Bool := status.contains known

/-- The status of a word that has only known bits. -/
def ofKnownBits? (bits : UInt32) : Option ClassStatus :=
  if (⟨bits⟩ : ClassStatus).diff known = empty then some ⟨bits⟩ else none

/-- The known flags that are set, in the order of their bits. -/
def flags (status : ClassStatus) : List StatusFlag :=
  StatusFlag.all.filter fun flag => status.contains (ofFlag flag)

/-- The known flags take up the lowest six bits. -/
theorem known_eq : known = ⟨0x3f⟩ := by decide

theorem mem_flags_iff (status : ClassStatus) (flag : StatusFlag) :
    flag ∈ status.flags ↔ status.contains (ofFlag flag) = true := by
  simp only [flags, List.mem_filter, StatusFlag.mem_all, true_and]

/-! ## Text -/

/-- A word in lower-case hexadecimal, without leading zeros. -/
def hexadecimal (word : UInt32) : String := "0x" ++ String.ofList (Nat.toDigits 16 word.toNat)

/-- The parts that the text of a status lists: the names of its known flags,
then its unknown bits, if it has any. -/
def parts (status : ClassStatus) : List String :=
  let unknown := (status.diff known).bits
  status.flags.map StatusFlag.name ++ (if unknown = 0 then [] else [hexadecimal unknown])

/-- The text of a status. -/
def text (status : ClassStatus) : String :=
  let listed := if status.isEmpty then [hexadecimal 0] else status.parts
  "ClassStatus(" ++ String.intercalate " | " listed ++ ")"

end ClassStatus

end ClassLiveness

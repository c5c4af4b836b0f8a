import ClassLiveness.Class.Status
import ClassLiveness.Tag.Basic

/-!
# Classes as the tracker sees them

While a class is loaded its host can be asked about it; once it is unloaded
nothing is left to ask.  So the tracker writes down what it will want to say
about a class at the time it meets the class: the tag it hung on it and the
signature it had.
-/

set_option autoImplicit false

namespace ClassLiveness

/-- What is remembered of a tracked class. -/
structure ClassRecord where
  tag : Tag
  signature : String
deriving DecidableEq

/-- One entry of a host's enumeration of its loaded classes. -/
structure LoadedClass (C : Type) where
  handle : C
  status : ClassStatus
deriving DecidableEq

/-- The signature with a number: a stem, the number and a closing semicolon. -/
def numberedSignature (stem : String) (number : Nat) : String :=
  stem ++ toString number ++ ";"

end ClassLiveness

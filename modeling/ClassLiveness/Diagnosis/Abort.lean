import ClassLiveness.Tag.Basic

/-!
# Aborts

An operation ends in one of three ways: it returns, it fails with an error that
its caller is meant to handle, or it aborts.  An abort says that the program
has met a limit of its own or a state that its bookkeeping rules out.  There is
nothing to handle; what was done before the abort stays done.

Two aborts are limits of the tracker: the tag space runs out, and an unload
report cannot be given the capacity asked for.  The other three would mean that
the registry's bookkeeping is broken.
-/

set_option autoImplicit false

namespace ClassLiveness

/-- Why an operation stopped without a result or an error. -/
inductive Abort where
  /-- A record was pushed under a tag that the registry holds already. -/
  | trackedTwice (tag : Tag)
  /-- Every tag has been handed out. -/
  | tagsExhausted (allocated : Nat)
  /-- An unload report was asked to make room for more signatures than memory can address. -/
  | capacityOverflow
  /-- A walk along the chain of records arrived at a slot that holds none. -/
  | chainReachedVacant (slot : Nat)
  /-- A slot was released that holds no record. -/
  | releasedVacant (slot : Nat)
deriving DecidableEq

/-- The text an abort prints. -/
def Abort.message : Abort → String
  | .trackedTwice tag => "tag " ++ tag.text ++ " tracked twice"
  | .tagsExhausted allocated =>
      "tag space exhausted after " ++ toString allocated ++ " allocations"
  | .capacityOverflow => "capacity overflow"
  | .chainReachedVacant slot =>
      "internal error: entered unreachable code: chain reached vacant slot " ++ toString slot
  | .releasedVacant slot =>
      "internal error: entered unreachable code: released vacant slot " ++ toString slot

end ClassLiveness

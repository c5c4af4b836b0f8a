import ClassLiveness.Host.Failure
import ClassLiveness.Tag.Basic

/-!
# Errors of the tracker

An error is one of two things.  It is a *misuse*: the operation was asked for
in a state that does not have it, and nothing was touched.  Or it is
*unrecoverable*: from here on the tracker's bookkeeping cannot be trusted.
`TrackingError.isUnrecoverable` draws that line, and it counts the refusals of a
tracker that is already poisoned among the unrecoverable errors.

Apart from that, `TrackingError.kind` says whose fault an error is: the host's,
the bookkeeping's or the caller's.
-/

set_option autoImplicit false

namespace ClassLiveness

/-- Whose fault an error is. -/
inductive ErrorKind where
  /-- A host call failed. -/
  | hostFailure
  /-- The bookkeeping disagrees with the host. -/
  | internal
  /-- The caller broke the rules of use. -/
  | contract
deriving DecidableEq

/-- The name of a kind of error. -/
def ErrorKind.name : ErrorKind → String
  | .hostFailure => "HostFailure"
  | .internal => "Internal"
  | .contract => "Contract"

/-- Why an operation of the tracker failed. -/
inductive TrackingError where
  /-- A host call failed. -/
  | host (op : HostOp) (failure : HostError)
  /-- The class to be added carries a tag of the session already. -/
  | duplicateClass (tag : Tag)
  /-- More than one live object carries a tag. -/
  | inconsistentTags (tag : Tag) (count : Nat)
  /-- The operation needs an initialized tracker. -/
  | notInitialized
  /-- The tracker is initialized already. -/
  | alreadyInitialized
  /-- An earlier unrecoverable error left the tracker unusable. -/
  | poisoned
deriving DecidableEq

namespace TrackingError

/-- Whose fault the error is. -/
def kind : TrackingError → ErrorKind
  | .host .. => .hostFailure
  | .inconsistentTags .. | .poisoned => .internal
  | .duplicateClass .. | .notInitialized | .alreadyInitialized => .contract

/-- The bookkeeping cannot be trusted after the error. -/
def isUnrecoverable : TrackingError → Bool
  | .notInitialized | .alreadyInitialized => false
  | .host .. | .duplicateClass .. | .inconsistentTags .. | .poisoned => true

/-- What the host said, if the error is the failure of a host call. -/
def hostFailure? : TrackingError → Option HostError
  | .host _ failure => some failure
  | _ => none

/-- The text of an error. -/
def message : TrackingError → String
  | .host op failure => op.text ++ " failed: " ++ failure.text
  | .duplicateClass tag =>
      "attempting to insert duplicate class (already tagged " ++ tag.text ++ ")"
  | .inconsistentTags tag count =>
      "unexpected extra tags in tracking session: " ++ tag.text ++ " held by " ++
        toString count ++ " live objects"
  | .notInitialized => "class tracker is not initialized"
  | .alreadyInitialized => "class tracker is already initialized"
  | .poisoned => "class tracker is poisoned by an earlier unrecoverable error"

end TrackingError

end ClassLiveness

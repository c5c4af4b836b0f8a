/-!
# Failures of host calls

A host call that fails says what kind of failure it was and adds a message of
its own choosing.
-/

set_option autoImplicit false

namespace ClassLiveness

/-- The calls that a tracker makes on its host. -/
inductive HostOp where
  /-- Opening a private tagging session. -/
  | openSession
  /-- Enumerating the loaded classes. -/
  | loadedClasses
  /-- Resolving the signature of a class. -/
  | signature
  /-- Hanging a tag on a class. -/
  | setTag
  /-- Reading the tag of a class. -/
  | getTag
  /-- Counting the live holders of a tag. -/
  | liveCount
  /-- Disposing of a tagging session. -/
  | closeSession
deriving DecidableEq

/-- How a call is called in a diagnostic. -/
def HostOp.text : HostOp → String
  | .openSession => "open tag session"
  | .loadedClasses => "loaded classes"
  | .signature => "signature"
  | .setTag => "set tag"
  | .getTag => "get tag"
  | .liveCount => "objects with tag"
  | .closeSession => "close tag session"

/-- The kinds of failure that a host distinguishes. -/
inductive HostErrorKind where
  /-- The handle does not name a class. -/
  | invalidClass
  /-- The host could not allocate. -/
  | outOfMemory
  /-- The host does not allow the call at this time. -/
  | wrongPhase
  /-- The session lacks the capability to tag. -/
  | missingCapability
  /-- Anything else. -/
  | internal
deriving DecidableEq

/-- The name of a kind of failure. -/
def HostErrorKind.name : HostErrorKind → String
  | .invalidClass => "InvalidClass"
  | .outOfMemory => "OutOfMemory"
  | .wrongPhase => "WrongPhase"
  | .missingCapability => "MissingCapability"
  | .internal => "Internal"

/-- What a host says of a call that failed. -/
structure HostError where
  kind : HostErrorKind
  message : String
deriving DecidableEq

/-- A failure is written as its kind, a colon and the host's own message. -/
def HostError.text (failure : HostError) : String :=
  failure.kind.name ++ ": " ++ failure.message

end ClassLiveness

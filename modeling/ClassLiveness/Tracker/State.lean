import ClassLiveness.Host.Dialogue
import ClassLiveness.Registry.Sweep
import ClassLiveness.Tag.Supply
import ClassLiveness.Tracker.Settings
import ClassLiveness.Tracker.Trace

/-!
# Trackers

A tracker remembers every class that has been prepared, and hangs a tag of its
own on it in a private session of the host.  After the host has announced that
classes were unloaded, it asks for every tag whether a live class still carries
it; a record whose tag has no holder left is that of an unloaded class.

A tracker is initialized while it has a session, and poisoned from an
unrecoverable error to the next reset.  The views below are what a caller can
see of it.  The operations are in the modules after this one.
-/

set_option autoImplicit false

namespace ClassLiveness

/-- A tracker whose host names sessions by `S`. -/
structure Tracker (S : Type) where
  session : Option S
  registry : Registry
  tags : TagSupply
  settings : Settings
  passes : PassHistory
  /-- How many unloads the host has announced since the last completed pass. -/
  pendingUnloads : Nat
  poisoned : Bool

namespace Tracker

variable {S : Type}

/-- A tracker that has not been initialized. -/
def new (settings : Settings) : Tracker S where
  session := none
  registry := .empty
  tags := .fresh
  settings := settings
  passes := .empty
  pendingUnloads := 0
  poisoned := false

/-! ## Views -/

/-- The tracker has a session. -/
def isInitialized (tracker : Tracker S) : Bool := tracker.session.isSome

/-- How many classes are tracked. -/
def len (tracker : Tracker S) : Nat := tracker.registry.len

/-- No class is tracked. -/
def isEmpty (tracker : Tracker S) : Bool := tracker.registry.isEmpty

/-- A class is tracked under a tag. -/
def isTracked (tracker : Tracker S) (tag : Tag) : Bool := tracker.registry.contains tag

/-- The signature of the class that is tracked under a tag. -/
def signature? (tracker : Tracker S) (tag : Tag) : Option String :=
  (tracker.registry.get? tag).map ClassRecord.signature

/-- The tracked classes, the one added last in front. -/
def tracked (tracker : Tracker S) : List ClassRecord := tracker.registry.records

/-- The tag handed out last. -/
def lastTag? (tracker : Tracker S) : Option Tag := tracker.tags.last?

/-- The statistics at this time. -/
def metrics (tracker : Tracker S) : Metrics :=
  ⟨tracker.registry.len, tracker.tags.allocated, tracker.passes⟩

/-! ## Description -/

/-- The number of the tag handed out last, as a description gives it. -/
def lastTagText (tracker : Tracker S) : String :=
  match tracker.lastTag? with
  | none => "None"
  | some tag => "Some(Tag(" ++ toString tag.number ++ "))"

/-- A description of the tracker for a developer. -/
def description (tracker : Tracker S) : String :=
  "ClassTracker \x7b initialized: " ++ toString tracker.isInitialized ++
    ", tracked: " ++ toString tracker.len ++
    ", last_tag: " ++ tracker.lastTagText ++
    ", pending_unloads: " ++ toString tracker.pendingUnloads ++
    ", poisoned: " ++ toString tracker.poisoned ++ ", .. \x7d"

end Tracker

end ClassLiveness

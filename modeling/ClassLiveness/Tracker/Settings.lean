import ClassLiveness.Class.Status
import ClassLiveness.Tracker.UnloadReport

/-!
# Settings and statistics of a tracker

The settings are fixed when a tracker is made.  The statistics grow with every
completed unload pass and survive a reset.
-/

set_option autoImplicit false

namespace ClassLiveness

/-! ## Settings -/

/-- What can be chosen about a tracker. -/
structure Settings where
  /-- Ask the session for the tag of a class before the class is added, and
  refuse a class that has one. -/
  checkDuplicates : Bool
  /-- The startup enumeration tracks a class whose status shares a bit with this. -/
  wantedStatus : ClassStatus
  /-- How many signatures the report of a pass makes room for. -/
  outputCapacity : Nat
deriving DecidableEq

namespace Settings

/-- Classes that are linked, and array classes, are worth tracking. -/
def defaultWantedStatus : ClassStatus :=
  (ClassStatus.ofFlag .prepared).union (ClassStatus.ofFlag .array)

/-- The settings of a tracker that is given none. -/
def default : Settings := ⟨true, defaultWantedStatus, UnloadReport.defaultCapacity⟩

end Settings

/-! ## Statistics -/

/-- What one unload pass did. -/
structure PassStats where
  /-- How many records the host was asked about. -/
  examined : Nat
  /-- How many of them were found unloaded. -/
  unloaded : Nat
deriving DecidableEq

/-- The completed unload passes of a tracker. -/
structure PassHistory where
  /-- How many classes they found unloaded. -/
  totalUnloaded : Nat
  /-- How many there were. -/
  completed : Nat
  /-- What the last one did. -/
  last : PassStats
deriving DecidableEq

namespace PassHistory

/-- No pass has completed. -/
def empty : PassHistory := ⟨0, 0, ⟨0, 0⟩⟩

/-- One more pass has completed. -/
def record (history : PassHistory) (pass : PassStats) : PassHistory :=
  ⟨history.totalUnloaded + pass.unloaded, history.completed + 1, pass⟩

end PassHistory

/-- The statistics of a tracker. -/
structure Metrics where
  /-- How many classes are tracked. -/
  classesTracked : Nat
  /-- How many tags have been handed out. -/
  tagsAllocated : Nat
  passes : PassHistory
deriving DecidableEq

/-- The statistics before anything has happened. -/
def Metrics.zero : Metrics := ⟨0, 0, .empty⟩

end ClassLiveness

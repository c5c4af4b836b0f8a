import ClassLiveness.Class.Record
import ClassLiveness.Host.Failure
import Std.Data.TreeMap.Lemmas

/-!
# A simulated machine

A machine that loads and unloads classes on request, for trackers to be run
against.  It numbers its classes in the order in which they were first loaded,
and its sessions in the order in which they were opened.  A session gives each
class at most one tag.

The machine can be made to misbehave.  A fault makes calls of one sort fail; an
enumeration can be put in place of the real one; and a number of live holders
can be put in place of the real count.
-/

set_option autoImplicit false

namespace ClassLiveness

/-! ## Faults -/

/-- A failure in store for the calls of one sort: the next `after` calls
succeed, and the `times` calls after them fail.  Without a limit on the times,
all later calls fail. -/
structure Fault where
  failure : HostError
  after : Nat
  times : Option Nat
deriving DecidableEq

/-- What the fault does to a call, and the fault after it. -/
def Fault.strike (fault : Fault) : Option HostError × Fault :=
  match fault.after, fault.times with
  | after + 1, _ => (none, { fault with after := after })
  | 0, none => (some fault.failure, fault)
  | 0, some 0 => (none, fault)
  | 0, some (times + 1) => (some fault.failure, { fault with times := some times })

/-! ## Machines -/

/-- A class of the machine. -/
structure MachineClass where
  signature : String
  status : ClassStatus
  loaded : Bool
deriving DecidableEq

/-- The tags that a session has given, by the number of the class. -/
abbrev SessionTags := Std.TreeMap Nat Tag

/-- A machine and its tagging sessions. -/
structure Machine where
  classes : Array MachineClass
  /-- The open sessions, by number. -/
  sessions : Std.TreeMap Nat SessionTags
  /-- How many sessions have been opened. -/
  opened : Nat
  faults : List (HostOp × Fault)
  /-- What is listed in place of the loaded classes. -/
  enumeration : Option (List (LoadedClass Nat))
  /-- What is counted in place of the live holders, by the number of the tag. -/
  holders : Std.TreeMap Nat Nat

namespace Machine

/-- A machine without classes, sessions or faults. -/
def empty : Machine := ⟨#[], ∅, 0, [], none, ∅⟩

/-- The numbers of the open sessions, in ascending order. -/
def openSessions (machine : Machine) : List Nat := machine.sessions.keys

/-- The class with a number is loaded. -/
def isLoaded (machine : Machine) (handle : Nat) : Bool :=
  (machine.classes[handle]?.map MachineClass.loaded).getD false

/-- The loaded classes in the order of their numbers. -/
def loadedClasses (machine : Machine) : List (LoadedClass Nat) :=
  (List.range machine.classes.size).filterMap fun handle =>
    match machine.classes[handle]? with
    | some found => if found.loaded then some ⟨handle, found.status⟩ else none
    | none => none

/-- The tag that a session has given to a class. -/
def tagOf (machine : Machine) (session handle : Nat) : Option Tag :=
  machine.sessions[session]?.bind fun tags => tags[handle]?

/-- How many loaded classes carry a tag in a session. -/
def holderCount (machine : Machine) (session : Nat) (tag : Tag) : Nat :=
  (List.range machine.classes.size).countP fun handle =>
    machine.isLoaded handle && machine.tagOf session handle == some tag

/-- Changes the tags of a session, if it is open. -/
def changeTags (machine : Machine) (session : Nat) (change : SessionTags → SessionTags) :
    Machine :=
  match machine.sessions[session]? with
  | some tags => { machine with sessions := machine.sessions.insert session (change tags) }
  | none => machine

/-- Changes a class, if there is one with the number. -/
def changeClass (machine : Machine) (handle : Nat) (change : MachineClass → MachineClass) :
    Machine :=
  { machine with classes := machine.classes.modify handle change }

/-- The fault in store for calls of a sort. -/
def fault? (machine : Machine) (op : HostOp) : Option Fault := machine.faults.lookup op

end Machine

end ClassLiveness

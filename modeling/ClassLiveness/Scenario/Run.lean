import ClassLiveness.Machine.Change
import ClassLiveness.Machine.Host
import ClassLiveness.Tracker.Command
import ClassLiveness.Tracker.HandlerLock

/-!
# Scenarios

A scenario is a simulated machine with some trackers on it, each behind a lock
of its own.  It is played step by step: a step changes the machine, or has one of
the trackers do something.  The trackers share the machine and nothing else.
-/

set_option autoImplicit false

namespace ClassLiveness

/-- A machine and the trackers that it hosts. -/
structure Scenario where
  machine : Machine
  locks : Array (HandlerLock (Tracker Nat))

namespace Scenario

/-- A number of new trackers on an empty machine. -/
def new (trackers : Nat) (settings : Settings) : Scenario :=
  ⟨.empty, Array.replicate trackers (.guarding (Tracker.new settings))⟩

/-- The trackers, in the order of their numbers. -/
def trackers (scenario : Scenario) : List (Tracker Nat) :=
  scenario.locks.toList.map HandlerLock.intoInner

/-! ## Steps -/

/-- What is done with one tracker or with its lock. -/
inductive Action where
  /-- Carry out a command, and hand an error to a reporter if asked to. -/
  | command (command : Command Nat) (reporting : Bool)
  /-- Try to take the lock while somebody holds it, or while nobody does. -/
  | tryLock (held : Bool)
  /-- Take the tracker out of its lock and put it into a new one. -/
  | rewrap
  /-- Describe the lock. -/
  | describeLock
deriving DecidableEq

/-- A step of a scenario. -/
inductive Step where
  | change (change : Machine.Change)
  | act (tracker : Nat) (action : Action)
deriving DecidableEq

/-- What a tracker shows of an action: how it ended, the calls made on the
machine, the trace, and the tracker after it. -/
structure Report where
  ending : Ending Reply
  calls : List (CallRecord Nat Nat)
  trace : List TraceEntry
  tracker : Tracker Nat

/-- The answer to a step. -/
inductive Answer where
  | machine (notice : Machine.Notice)
  | tracker (report : Report)
  /-- There is no tracker with the number. -/
  | noTracker

/-! ## Playing a scenario -/

/-- Carries out a command on a tracker of the machine. -/
def runCommand (machine : Machine) (command : Command Nat) (reporting : Bool)
    (tracker : Tracker Nat) : Report × Machine :=
  let outcome := tracker.perform Machine.host command machine
  let ending := Ending.ofResult reporting outcome.result
  (⟨ending.1, outcome.calls, outcome.trace ++ ending.2, outcome.tracker⟩, outcome.host)

/-- The report of an action that asks nothing of the tracker. -/
def quietly (reply : Reply) (tracker : Tracker Nat) : Report := ⟨.value reply, [], [], tracker⟩

/-- Has a tracker do something; gives the report, and the lock and the machine
after it. -/
def act (machine : Machine) (lock : HandlerLock (Tracker Nat)) :
    Action → Report × HandlerLock (Tracker Nat) × Machine
  | .command command reporting =>
      let worked := lock.withLock fun tracker =>
        let done := runCommand machine command reporting tracker
        (done, done.1.tracker)
      (worked.1.1, worked.2, worked.1.2)
  | .tryLock held =>
      let taken := { lock with held := held }.tryLock?.isSome
      (quietly (.truth taken) lock.content, lock, machine)
  | .rewrap => (quietly .done lock.content, .guarding lock.intoInner, machine)
  | .describeLock =>
      (quietly (.text (some (lock.description Tracker.description))) lock.content, lock, machine)

/-- The answer to a step and the scenario after it. -/
def play (scenario : Scenario) : Step → Answer × Scenario
  | .change change =>
      let changed := scenario.machine.apply change
      (.machine changed.1, { scenario with machine := changed.2 })
  | .act number action =>
      match scenario.locks[number]? with
      | none => (.noTracker, scenario)
      | some lock =>
          let (report, after, machine) := act scenario.machine lock action
          (.tracker report, ⟨machine, scenario.locks.setIfInBounds number after⟩)

/-- The answers to a list of steps, and the scenario after them. -/
def playAll : Scenario → List Step → List Answer × Scenario
  | scenario, [] => ([], scenario)
  | scenario, step :: rest =>
      let played := scenario.play step
      let others := played.2.playAll rest
      (played.1 :: others.1, others.2)

end Scenario

end ClassLiveness

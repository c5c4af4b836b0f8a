import ClassLiveness.Diagnosis.Fatal
import ClassLiveness.Tracker.Tracking
import ClassLiveness.Tracker.Unloading

/-!
# Commands to a tracker

A command is a request for one operation of a tracker or for one of its views.
`Tracker.perform` carries a command out, and every run of a tracker is a sequence
of commands.

A caller that cannot handle errors has them reported (`Ending.ofResult`): then an
error ends the command with a fatal report, and the trace says so at its end.
An abort is not an error and passes by the reporter.
-/

set_option autoImplicit false

namespace ClassLiveness

/-- What can be asked of a tracker whose host names classes by `C`. -/
inductive Command (C : Type) where
  | startUp
  | add (handle : C)
  | noteUnloads (times : Nat)
  | processUnloads
  | processPendingUnloads
  | reset
  /-- Whether a class is tracked under the tag with a number. -/
  | isTracked (number : Nat)
  /-- The signature of the class tracked under the tag with a number. -/
  | signature (number : Nat)
  | tracked
  | metrics
  | settings
  | description
deriving DecidableEq

/-- What a command returns. -/
inductive Reply where
  | done
  | tag (tag : Tag)
  | count (value : Nat)
  | report (report : UnloadReport)
  /-- No pass was due, or the number given is not that of a tag. -/
  | nothing
  | truth (value : Bool)
  | text (found : Option String)
  | records (records : List ClassRecord)
  | metrics (metrics : Metrics)
  | settings (settings : Settings)
deriving DecidableEq

namespace Tracker

variable {σ C S : Type}

/-- Looks at the tracker and leaves it as it is. -/
def view (look : Tracker S → Reply) : TrackerM σ C S Reply := do
  let tracker ← TrackerM.current
  return look tracker

/-- The operation that a command asks for. -/
def operation (host : Host σ C S) : Command C → TrackerM σ C S Reply
  | .startUp => do
      startUp host
      return .done
  | .add handle => do
      let tag ← add host handle
      return .tag tag
  | .noteUnloads times => do
      let count ← noteUnloads times
      return .count count
  | .processUnloads => do
      let report ← processUnloads host
      return .report report
  | .processPendingUnloads => do
      let report? ← processPendingUnloads host
      match report? with
      | some report => return .report report
      | none => return .nothing
  | .reset => do
      reset host
      return .done
  | .isTracked number => view fun tracker =>
      match Tag.ofNat? number with
      | some tag => .truth (tracker.isTracked tag)
      | none => .nothing
  | .signature number => view fun tracker =>
      .text ((Tag.ofNat? number).bind tracker.signature?)
  | .tracked => view fun tracker => .records tracker.tracked
  | .metrics => view fun tracker => .metrics tracker.metrics
  | .settings => view fun tracker => .settings tracker.settings
  | .description => view fun tracker => .text (some tracker.description)

/-- Carries out a command. -/
def perform (host : Host σ C S) (command : Command C) (tracker : Tracker S) (state : σ) :
    Outcome σ C S Reply :=
  (operation host command).run tracker state

end Tracker

/-! ## Errors handed to a reporter -/

/-- How a command ends for the caller. -/
inductive Ending (α : Type) where
  | value (result : α)
  | failed (error : TrackingError)
  | fatal (report : FatalReport)
  | aborted (abort : Abort)
deriving DecidableEq

/-- The ending of a result, and what a reporter adds to the trace if it is given
the errors. -/
def Ending.ofResult {α : Type} (reporting : Bool) :
    Except Stop α → Ending α × List TraceEntry
  | .ok result => (.value result, [])
  | .error (.abort abort) => (.aborted abort, [])
  | .error (.error error) =>
      if reporting then
        (.fatal error.report, [.event (.fatal error)])
      else
        (.failed error, [])

end ClassLiveness

import ClassLiveness.Tracker.Operation

/-!
# Finding out what was unloaded

The host announces unloads without saying of what, so an announcement is only
counted (`noteUnload`).  An unload pass asks about every tracked class and
reports those that are gone (`processUnloads`); it can be made to depend on an
announcement (`processPendingUnloads`).

A pass that fails reports nothing.  The records that it had found dead by then
are gone all the same, and it leaves the count of announcements as it was.

A reset gives up every record and the session, and with them the poison
(`reset`).  Only the supply of tags and the history of the passes go on.
-/

set_option autoImplicit false

namespace ClassLiveness

namespace Tracker

open TrackerM

variable {σ C S : Type}

/-! ## Announcements -/

/-- Counts an announcement, and gives the count. -/
def noteUnload : TrackerM σ C S Nat := do
  update fun tracker => { tracker with pendingUnloads := tracker.pendingUnloads + 1 }
  let tracker ← current
  return tracker.pendingUnloads

/-- Counts a number of announcements, and gives the count. -/
def noteUnloads : Nat → TrackerM σ C S Nat
  | 0 => do
      let tracker ← current
      return tracker.pendingUnloads
  | times + 1 => do
      let _ ← noteUnload
      noteUnloads times

/-! ## Passes -/

/-- Sweeps the registry against the host, and gives the records found dead.
However the sweep ends, the tracker keeps the registry that it leaves. -/
def sweepDead (host : Host σ C S) (session : S) :
    TrackerM σ C S (List ClassRecord) := fun scene =>
  let keep := fun (registry : Registry) (dialogue : Dialogue σ C S) =>
    { scene with
      tracker := { scene.tracker with registry := registry }
      dialogue := dialogue }
  match scene.tracker.registry.sweep (host.isLive session) scene.dialogue with
  | (.drained drain, dialogue) =>
      match drain.takeAll with
      | .ok (records, registry) => .ok records (keep registry dialogue)
      | .error abort => .error (.abort abort) (keep drain.registry dialogue)
  | (.failed error registry, dialogue) => .error (.error error) (keep registry dialogue)
  | (.broken abort registry, dialogue) => .error (.abort abort) (keep registry dialogue)

/-- Puts the signatures of dead records into a report, one after the other. -/
def reportAll : List ClassRecord → UnloadReport → TrackerM σ C S UnloadReport
  | [], report => return report
  | record :: rest, report => do
      emit (.classUnloaded record.signature)
      reportAll rest (report.push record.signature)

/-- Makes a pass over the tracked classes of a session. -/
def pass (host : Host σ C S) (session : S) : TrackerM σ C S UnloadReport := do
  let tracker ← current
  let room ← orAbort (UnloadReport.withCapacity tracker.settings.outputCapacity)
  let dead ← poisoning (sweepDead host session)
  let report ← reportAll dead room
  update fun after =>
    { after with
      pendingUnloads := 0
      passes := after.passes.record ⟨tracker.len, report.len⟩ }
  emit (.passEnd tracker.len report.len)
  return report

/-- Reports the tracked classes that have no live holder of their tag, and stops
tracking them. -/
def processUnloads (host : Host σ C S) : TrackerM σ C S UnloadReport := do
  requireUsable
  let session ← requireSession
  let tracker ← current
  within (.unloadPass (tracker.passes.completed + 1) tracker.len) (pass host session)

/-- Makes a pass if an unload has been announced since the last. -/
def processPendingUnloads (host : Host σ C S) : TrackerM σ C S (Option UnloadReport) := do
  requireUsable
  let _ ← requireSession
  let tracker ← current
  if tracker.pendingUnloads = 0 then
    return none
  else
    let report ← processUnloads host
    return some report

/-! ## Reset -/

/-- Gives up every record and closes the session, if there is one.  The tracker
is uninitialized and unpoisoned after this, also if the host fails to close the
session. -/
def reset (host : Host σ C S) : TrackerM σ C S Unit := do
  let tracker ← current
  emit (.reset tracker.len)
  update fun tracker =>
    { tracker with
      session := none
      registry := tracker.registry.clear
      pendingUnloads := 0
      poisoned := false }
  match tracker.session with
  | some session => ask (host.request (.close session))
  | none => return ()

end Tracker

end ClassLiveness

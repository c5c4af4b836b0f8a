import ClassLiveness.Tracker.State

/-!
# What the operations of a tracker are made of

An operation works on a scene: the tracker, its dialogue with the host, and the
trace.  It stops early with an error or an abort, and whatever it has done to the
scene by then stays done.

Four things can be done to a scene besides changing the tracker: talk to the
host (`ask`), put an event into the trace (`emit`), work within a span, which is
left again however the work ends (`within`), and let an unrecoverable error
poison the tracker (`poisoning`).
-/

set_option autoImplicit false

namespace ClassLiveness

/-- What an operation works on. -/
structure Scene (σ C S : Type) where
  tracker : Tracker S
  dialogue : Dialogue σ C S
  trace : List TraceEntry

/-- Why an operation stopped early. -/
inductive Stop where
  | error (error : TrackingError)
  | abort (abort : Abort)
deriving DecidableEq

/-- An operation on a scene. -/
abbrev TrackerM (σ C S : Type) := EStateM Stop (Scene σ C S)

namespace TrackerM

variable {σ C S α : Type}

/-! ## The tracker -/

/-- The tracker at this time. -/
def current : TrackerM σ C S (Tracker S) := fun scene => .ok scene.tracker scene

/-- Changes the tracker. -/
def update (change : Tracker S → Tracker S) : TrackerM σ C S Unit := fun scene =>
  .ok () { scene with tracker := change scene.tracker }

/-- Fails with an error. -/
def fail (error : TrackingError) : TrackerM σ C S α := throw (.error error)

/-- The value of a computation that may abort. -/
def orAbort (result : Except Abort α) : TrackerM σ C S α :=
  match result with
  | .ok value => pure value
  | .error abort => throw (.abort abort)

/-! ## The host and the trace -/

/-- Talks to the host. -/
def ask (talk : HostM σ C S α) : TrackerM σ C S α := fun scene =>
  match talk scene.dialogue with
  | .ok value dialogue => .ok value { scene with dialogue := dialogue }
  | .error error dialogue => .error (.error error) { scene with dialogue := dialogue }

/-- Puts an entry into the trace. -/
def write (entry : TraceEntry) : TrackerM σ C S Unit := fun scene =>
  .ok () { scene with trace := scene.trace ++ [entry] }

/-- Puts an event into the trace. -/
def emit (event : Event) : TrackerM σ C S Unit := write (.event event)

/-- Works within a span, and leaves it however the work ends. -/
def within (span : Span) (work : TrackerM σ C S α) : TrackerM σ C S α := do
  write (.entered span)
  fun scene =>
    match work scene with
    | .ok value after => .ok value { after with trace := after.trace ++ [.left span] }
    | .error stop after => .error stop { after with trace := after.trace ++ [.left span] }

/-- Poisons the tracker, and says so in the trace, if the work fails with an
unrecoverable error. -/
def poisoning (work : TrackerM σ C S α) : TrackerM σ C S α := fun scene =>
  match work scene with
  | .error (.error error) after =>
      if error.isUnrecoverable then
        .error (.error error)
          { after with
            tracker := { after.tracker with poisoned := true }
            trace := after.trace ++ [.event (.unrecoverable error)] }
      else
        .error (.error error) after
  | ended => ended

/-! ## Guards -/

/-- Refuses to go on with a poisoned tracker. -/
def requireUsable : TrackerM σ C S Unit := do
  let tracker ← current
  if tracker.poisoned then
    fail .poisoned

/-- The session of the tracker, which must be initialized. -/
def requireSession : TrackerM σ C S S := do
  let tracker ← current
  match tracker.session with
  | some session => return session
  | none => fail .notInitialized

end TrackerM

/-! ## Running an operation -/

/-- What an operation leaves behind: its result, the tracker and the host after
it, the calls it made and the trace it wrote. -/
structure Outcome (σ C S α : Type) where
  result : Except Stop α
  tracker : Tracker S
  host : σ
  calls : List (CallRecord C S)
  trace : List TraceEntry

/-- Runs an operation on a tracker and a host. -/
def TrackerM.run {σ C S α : Type} (operation : TrackerM σ C S α) (tracker : Tracker S)
    (host : σ) : Outcome σ C S α :=
  match operation ⟨tracker, ⟨host, []⟩, []⟩ with
  | .ok value scene =>
      ⟨.ok value, scene.tracker, scene.dialogue.host, scene.dialogue.calls, scene.trace⟩
  | .error stop scene =>
      ⟨.error stop, scene.tracker, scene.dialogue.host, scene.dialogue.calls, scene.trace⟩

end ClassLiveness

import ClassLiveness.Tracker.Command

/-!
# What the parts of an operation do to a scene

Every operation of a tracker is a chain of small parts, and each part is applied
to a scene here once: the tracker is read or changed, the host answers a call or
fails it, an entry goes into the trace.  A chain is followed part by part
(`TrackerM.bind_apply`), or by what is known of the end of each part
(`TrackerM.Ends`, with the rules `Ends.bind`, `Ends.poisoning` and `Ends.within`).

What an operation leaves behind is read off the scene in which it ends
(`TrackerM.Ends.run`).
-/

set_option autoImplicit false

namespace ClassLiveness

variable {σ C S α β : Type}

/-! ## Scenes after a part -/

namespace Scene

/-- The scene in which an operation starts. -/
def start (tracker : Tracker S) (state : σ) : Scene σ C S := ⟨tracker, ⟨state, []⟩, []⟩

/-- The state of the host in a scene. -/
def host (scene : Scene σ C S) : σ := scene.dialogue.host

/-- The calls made so far in a scene. -/
def calls (scene : Scene σ C S) : List (CallRecord C S) := scene.dialogue.calls

/-- The scene after a call, which the host may have failed. -/
def called (scene : Scene σ C S) (call : Call C S) (failure? : Option HostError) (state : σ) :
    Scene σ C S :=
  { scene with dialogue := ⟨state, scene.dialogue.calls ++ [⟨call, failure?⟩]⟩ }

/-- The scene with a changed tracker. -/
def changed (scene : Scene σ C S) (change : Tracker S → Tracker S) : Scene σ C S :=
  { scene with tracker := change scene.tracker }

/-- The scene with one more entry in the trace. -/
def written (scene : Scene σ C S) (entry : TraceEntry) : Scene σ C S :=
  { scene with trace := scene.trace ++ [entry] }

/-- The scene after an error has poisoned the tracker. -/
def poisoned (scene : Scene σ C S) (error : TrackingError) : Scene σ C S :=
  (scene.changed fun tracker => { tracker with poisoned := true }).written
    (.event (.unrecoverable error))

/-- The scene after an operation was stopped: an unrecoverable error has poisoned
the tracker. -/
def settled (scene : Scene σ C S) : Stop → Scene σ C S
  | .error error => if error.isUnrecoverable then scene.poisoned error else scene
  | .abort _ => scene

variable (scene : Scene σ C S) (change : Tracker S → Tracker S) (call : Call C S)
  (failure? : Option HostError) (state : σ)

@[simp]
theorem host_called : (scene.called call failure? state).host = state := rfl

@[simp]
theorem calls_called :
    (scene.called call failure? state).calls = scene.calls ++ [⟨call, failure?⟩] := rfl

@[simp]
theorem calls_changed : (scene.changed change).calls = scene.calls := rfl

@[simp]
theorem tracker_start (tracker : Tracker S) :
    (start tracker state : Scene σ C S).tracker = tracker := rfl

@[simp]
theorem host_start (tracker : Tracker S) :
    (start tracker state : Scene σ C S).host = state := rfl

@[simp]
theorem calls_start (tracker : Tracker S) :
    (start tracker state : Scene σ C S).calls = [] := rfl

/-- Being stopped changes nothing of the tracker but whether it is poisoned. -/
theorem tracker_settled (stop : Stop) :
    (scene.settled stop).tracker =
      { scene.tracker with poisoned := (scene.settled stop).tracker.poisoned } := by
  cases stop with
  | abort abort => rfl
  | error error =>
      rw [settled]
      split <;> rfl

@[simp]
theorem dialogue_settled (stop : Stop) : (scene.settled stop).dialogue = scene.dialogue := by
  cases stop with
  | abort abort => rfl
  | error error =>
      rw [settled]
      split <;> rfl

end Scene

namespace TrackerM

/-! ## The parts -/

theorem bind_apply (first : TrackerM σ C S α) (second : α → TrackerM σ C S β)
    (scene : Scene σ C S) :
    (first >>= second) scene =
      match first scene with
      | .ok value after => second value after
      | .error stop after => .error stop after := by
  change EStateM.bind first second scene = _
  unfold EStateM.bind
  cases first scene <;> rfl

theorem bind_of_ok {first : TrackerM σ C S α} {second : α → TrackerM σ C S β}
    {scene after : Scene σ C S} {value : α} (returned : first scene = .ok value after) :
    (first >>= second) scene = second value after := by
  rw [bind_apply, returned]

theorem bind_of_error {first : TrackerM σ C S α} {second : α → TrackerM σ C S β}
    {scene after : Scene σ C S} {stop : Stop} (stopped : first scene = .error stop after) :
    (first >>= second) scene = .error stop after := by
  rw [bind_apply, stopped]

theorem pure_apply (value : α) (scene : Scene σ C S) :
    (pure value : TrackerM σ C S α) scene = .ok value scene := rfl

theorem current_apply (scene : Scene σ C S) :
    (current : TrackerM σ C S (Tracker S)) scene = .ok scene.tracker scene := rfl

theorem fail_apply (error : TrackingError) (scene : Scene σ C S) :
    (fail error : TrackerM σ C S α) scene = .error (.error error) scene := rfl

theorem emit_apply (event : Event) (scene : Scene σ C S) :
    (emit event : TrackerM σ C S Unit) scene = .ok () (scene.written (.event event)) := rfl

/-- A call that the host answers gives its reply. -/
theorem ask_ok {host : Host σ C S} {call : Call C S} {reply : call.Reply} {state : σ}
    (scene : Scene σ C S) (answered : host.answer call scene.host = (.ok reply, state)) :
    ask (host.request call) scene = .ok reply (scene.called call none state) := by
  rw [Scene.host] at answered
  simp only [ask, Host.request, answered, Scene.called]

/-- A call that the host fails stops the operation with the failure. -/
theorem ask_error {host : Host σ C S} {call : Call C S} {failure : HostError} {state : σ}
    (scene : Scene σ C S)
    (failed : host.answer call scene.host = (.error failure, state)) :
    ask (host.request call) scene =
      .error (.error (.host call.op failure)) (scene.called call (some failure) state) := by
  rw [Scene.host] at failed
  simp only [ask, Host.request, failed, Scene.called]

theorem within_apply (span : Span) (work : TrackerM σ C S α) (scene : Scene σ C S) :
    within span work scene =
      match work (scene.written (.entered span)) with
      | .ok value after => .ok value (after.written (.left span))
      | .error stop after => .error stop (after.written (.left span)) := by
  refine (bind_apply (write (.entered span)) _ scene).trans ?_
  change (match work (scene.written (.entered span)) with
    | .ok value after => EStateM.Result.ok value (after.written (.left span))
    | .error stop after => EStateM.Result.error stop (after.written (.left span))) = _
  cases work (scene.written (.entered span)) <;> rfl

theorem poisoning_apply (work : TrackerM σ C S α) (scene : Scene σ C S) :
    poisoning work scene =
      match work scene with
      | .ok value after => .ok value after
      | .error stop after => .error stop (after.settled stop) := by
  unfold poisoning
  cases work scene with
  | ok value after => rfl
  | error stop after =>
      cases stop with
      | abort abort => rfl
      | error error =>
          simp only [Scene.settled]
          split <;> rfl

/-! ## Guards -/

theorem requireUsable_apply {scene : Scene σ C S} (usable : scene.tracker.poisoned = false) :
    (requireUsable : TrackerM σ C S Unit) scene = .ok () scene := by
  simp only [requireUsable, bind_apply, current_apply, usable]
  rfl

theorem requireUsable_of_poisoned {scene : Scene σ C S} (poisoned : scene.tracker.poisoned = true) :
    (requireUsable : TrackerM σ C S Unit) scene = .error (.error .poisoned) scene := by
  simp only [requireUsable, bind_apply, current_apply, poisoned]
  rfl

theorem requireSession_apply {scene : Scene σ C S} {session : S}
    (opened : scene.tracker.session = some session) :
    (requireSession : TrackerM σ C S S) scene = .ok session scene := by
  simp only [requireSession, bind_apply, current_apply, opened, pure_apply]

theorem requireSession_of_none {scene : Scene σ C S} (closed : scene.tracker.session = none) :
    (requireSession : TrackerM σ C S S) scene = .error (.error .notInitialized) scene := by
  simp only [requireSession, bind_apply, current_apply, closed, fail_apply]

/-! ## How an operation ends -/

/-- An operation on a scene returns and leaves a scene as `returned` says, or it
stops and leaves one as `stopped` says. -/
def Ends (operation : TrackerM σ C S α) (scene : Scene σ C S)
    (returned : α → Scene σ C S → Prop) (stopped : Stop → Scene σ C S → Prop) : Prop :=
  match operation scene with
  | .ok value after => returned value after
  | .error stop after => stopped stop after

namespace Ends

variable {operation : TrackerM σ C S α} {scene : Scene σ C S}
  {returned : α → Scene σ C S → Prop} {stopped : Stop → Scene σ C S → Prop}

theorem of_ok {value : α} {after : Scene σ C S} (result : operation scene = .ok value after)
    (fine : returned value after) : operation.Ends scene returned stopped := by
  rw [Ends, result]
  exact fine

theorem of_error {stop : Stop} {after : Scene σ C S}
    (result : operation scene = .error stop after) (fine : stopped stop after) :
    operation.Ends scene returned stopped := by
  rw [Ends, result]
  exact fine

theorem ok (ends : operation.Ends scene returned stopped) {value : α} {after : Scene σ C S}
    (result : operation scene = .ok value after) : returned value after := by
  rw [Ends, result] at ends
  exact ends

theorem error (ends : operation.Ends scene returned stopped) {stop : Stop} {after : Scene σ C S}
    (result : operation scene = .error stop after) : stopped stop after := by
  rw [Ends, result] at ends
  exact ends

/-- What is known of the ends may be weakened. -/
theorem mono {returned' : α → Scene σ C S → Prop} {stopped' : Stop → Scene σ C S → Prop}
    (ends : operation.Ends scene returned stopped)
    (onReturn : ∀ value after, returned value after → returned' value after)
    (onStop : ∀ stop after, stopped stop after → stopped' stop after) :
    operation.Ends scene returned' stopped' := by
  cases result : operation scene with
  | ok value after =>
      exact of_ok result (onReturn value after (ends.ok result))
  | error stop after =>
      exact of_error result (onStop stop after (ends.error result))

/-- A chain of two operations ends where the second does, or the first stops. -/
theorem bind {second : α → TrackerM σ C S β} {last : β → Scene σ C S → Prop}
    (ends : operation.Ends scene returned stopped)
    (next : ∀ value after, returned value after → (second value).Ends after last stopped) :
    (operation >>= second).Ends scene last stopped := by
  unfold Ends
  rw [bind_apply]
  cases result : operation scene with
  | ok value after =>
      exact next value after (ends.ok result)
  | error stop after =>
      exact ends.error result

/-- Operations with the same result end alike. -/
theorem congr {same : TrackerM σ C S α} {there : Scene σ C S}
    (equal : operation scene = same there) (ends : same.Ends there returned stopped) :
    operation.Ends scene returned stopped := by
  rw [Ends, equal]
  exact ends

/-- A chain of two operations, followed by the result of the first. -/
theorem result_bind {second : α → TrackerM σ C S β} {last : β → Scene σ C S → Prop}
    (next : ∀ value after, operation scene = .ok value after →
      (second value).Ends after last stopped)
    (halts : ∀ stop after, operation scene = .error stop after → stopped stop after) :
    (operation >>= second).Ends scene last stopped := by
  cases result : operation scene with
  | ok value after =>
      refine congr ?_ (next value after result)
      rw [bind_apply, result]
  | error stop after =>
      refine of_error ?_ (halts stop after result)
      rw [bind_apply, result]

/-! The rules for a chain that starts with one of the parts. -/

theorem current_bind {second : Tracker S → TrackerM σ C S α}
    (next : (second scene.tracker).Ends scene returned stopped) :
    (current >>= second).Ends scene returned stopped :=
  congr (bind_apply current second scene) next

theorem update_bind {change : Tracker S → Tracker S} {second : Unit → TrackerM σ C S α}
    (next : (second ()).Ends (scene.changed change) returned stopped) :
    (update change >>= second).Ends scene returned stopped :=
  congr (bind_apply (update change) second scene) next

theorem emit_bind {event : Event} {second : Unit → TrackerM σ C S α}
    (next : (second ()).Ends (scene.written (.event event)) returned stopped) :
    (emit event >>= second).Ends scene returned stopped :=
  congr (bind_apply (emit event) second scene) next

theorem orAbort_bind {result : Except Abort β} {second : β → TrackerM σ C S α}
    (fine : ∀ value, result = .ok value → (second value).Ends scene returned stopped)
    (aborted : ∀ abort, result = .error abort → stopped (.abort abort) scene) :
    (orAbort result >>= second).Ends scene returned stopped := by
  cases result with
  | ok value =>
      exact congr (bind_apply (orAbort (.ok value)) second scene) (fine value rfl)
  | error abort =>
      exact of_error (bind_apply (orAbort (.error abort)) second scene) (aborted abort rfl)

/-- A call ends with the reply, or stops with the failure. -/
theorem ask {host : Host σ C S} {call : Call C S} {returned : call.Reply → Scene σ C S → Prop}
    (answered : ∀ reply state, host.answer call scene.host = (.ok reply, state) →
      returned reply (scene.called call none state))
    (failed : ∀ failure state, host.answer call scene.host = (.error failure, state) →
      stopped (.error (.host call.op failure)) (scene.called call (some failure) state)) :
    (TrackerM.ask (host.request call)).Ends scene returned stopped := by
  rcases told : host.answer call scene.host with ⟨failure | reply, state⟩
  · exact of_error (ask_error scene told) (failed failure state told)
  · exact of_ok (ask_ok scene told) (answered reply state told)

/-- A chain that starts with a call goes on with the reply, or stops with the
failure. -/
theorem ask_bind {host : Host σ C S} {call : Call C S} {second : call.Reply → TrackerM σ C S α}
    (answered : ∀ reply state, host.answer call scene.host = (.ok reply, state) →
      (second reply).Ends (scene.called call none state) returned stopped)
    (failed : ∀ failure state, host.answer call scene.host = (.error failure, state) →
      stopped (.error (.host call.op failure)) (scene.called call (some failure) state)) :
    (TrackerM.ask (host.request call) >>= second).Ends scene returned stopped := by
  rcases told : host.answer call scene.host with ⟨failure | reply, state⟩
  · refine of_error ?_ (failed failure state told)
    rw [bind_apply, ask_error scene told]
  · refine congr ?_ (answered reply state told)
    rw [bind_apply, ask_ok scene told]

/-- A poisoned tracker is refused. -/
theorem requireUsable_bind {second : Unit → TrackerM σ C S α}
    (usable : scene.tracker.poisoned = false → (second ()).Ends scene returned stopped)
    (refused : scene.tracker.poisoned = true → stopped (.error .poisoned) scene) :
    (requireUsable >>= second).Ends scene returned stopped := by
  cases poisoned : scene.tracker.poisoned with
  | false =>
      refine congr ?_ (usable poisoned)
      rw [bind_apply, requireUsable_apply poisoned]
  | true =>
      refine of_error ?_ (refused poisoned)
      rw [bind_apply, requireUsable_of_poisoned poisoned]

/-- A tracker without a session is refused. -/
theorem requireSession_bind {second : S → TrackerM σ C S α}
    (opened : ∀ session, scene.tracker.session = some session →
      (second session).Ends scene returned stopped)
    (refused : scene.tracker.session = none → stopped (.error .notInitialized) scene) :
    (requireSession >>= second).Ends scene returned stopped := by
  cases held : scene.tracker.session with
  | none =>
      refine of_error ?_ (refused held)
      rw [bind_apply, requireSession_of_none held]
  | some session =>
      refine congr ?_ (opened session held)
      rw [bind_apply, requireSession_apply held]

/-- Work within a span starts after the entry of the span and is followed by its
exit. -/
theorem within {span : Span}
    (ends : operation.Ends (scene.written (.entered span))
      (fun value after => returned value (after.written (.left span)))
      (fun stop after => stopped stop (after.written (.left span)))) :
    (TrackerM.within span operation).Ends scene returned stopped := by
  unfold Ends
  rw [within_apply]
  cases result : operation (scene.written (.entered span)) with
  | ok value after => exact ends.ok result
  | error stop after => exact ends.error result

/-- An unrecoverable error poisons the tracker, and nothing else does. -/
theorem poisoning
    (ends : operation.Ends scene returned fun stop after => stopped stop (after.settled stop)) :
    (TrackerM.poisoning operation).Ends scene returned stopped := by
  unfold Ends
  rw [poisoning_apply]
  cases result : operation scene with
  | ok value after => exact ends.ok result
  | error stop after => exact ends.error result

end Ends

/-! ## Outcomes -/

/-- The outcome that an ending comes to. -/
def outcomeOf : EStateM.Result Stop (Scene σ C S) α → Outcome σ C S α
  | .ok value after => ⟨.ok value, after.tracker, after.host, after.calls, after.trace⟩
  | .error stop after => ⟨.error stop, after.tracker, after.host, after.calls, after.trace⟩

theorem run_eq (operation : TrackerM σ C S α) (tracker : Tracker S) (state : σ) :
    operation.run tracker state = outcomeOf (operation (.start tracker state)) := by
  unfold run outcomeOf
  change (match operation (.start tracker state) with
    | .ok value scene => _
    | .error stop scene => _) = _
  cases operation (Scene.start tracker state) <;> rfl

/-- What is known of the end of an operation is known of its outcome. -/
theorem Ends.run {operation : TrackerM σ C S α} {tracker : Tracker S} {state : σ}
    {returned : α → Scene σ C S → Prop} {stopped : Stop → Scene σ C S → Prop}
    (ends : operation.Ends (.start tracker state) returned stopped) :
    ∃ after : Scene σ C S,
      operation.run tracker state =
        ⟨(operation.run tracker state).result, after.tracker, after.host, after.calls,
          after.trace⟩ ∧
      match (operation.run tracker state).result with
      | .ok value => returned value after
      | .error stop => stopped stop after := by
  rw [run_eq]
  cases result : operation (Scene.start tracker state) with
  | ok value after => exact ⟨after, rfl, ends.ok result⟩
  | error stop after => exact ⟨after, rfl, ends.error result⟩

end TrackerM

end ClassLiveness

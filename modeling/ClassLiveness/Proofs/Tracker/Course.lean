import ClassLiveness.Proofs.Tracker.Pass
import ClassLiveness.Proofs.Tracker.Startup

/-!
# The course of a command

Every command to a tracker takes one of a few courses.  It is refused, or it only
looks at the tracker, or it counts announcements; else it is a startup
enumeration, an attempt to track a class, a pass or a reset, which the modules
before this one list the endings of.

`Tracker.Course` puts all these endings together, and a command carried out on a
tracker whose registry keeps its records takes one of them
(`Tracker.perform_course`).
-/

set_option autoImplicit false

namespace ClassLiveness

variable {σ C S : Type}

namespace Scene

/-- The scene after a reset has given up the records and the session. -/
def released (scene : Scene σ C S) : Scene σ C S :=
  (scene.written (.event (.reset scene.tracker.len))).changed fun tracker =>
    { tracker with
      session := none
      registry := tracker.registry.clear
      pendingUnloads := 0
      poisoned := false }

/-- The span of a pass that begins in a scene. -/
def passSpan (scene : Scene σ C S) : Span :=
  .unloadPass (scene.tracker.passes.completed + 1) scene.tracker.len

end Scene

/-- A command that a poisoned tracker refuses. -/
def Command.isGuarded : Command C → Bool
  | .startUp | .add _ | .processUnloads | .processPendingUnloads => true
  | _ => false

namespace Tracker

open TrackerM

/-- The errors with which a tracker refuses a command before it does anything. -/
def IsRefusal (error : TrackingError) : Prop :=
  error = .poisoned ∨ error = .notInitialized ∨ error = .alreadyInitialized

/-- A tracker refuses a command.  It looks whether it is poisoned before it looks for
its session. -/
inductive Refuses (tracker : Tracker S) : Command C → TrackingError → Prop where
  | poisoned {command : Command C} : command.isGuarded = true → tracker.poisoned = true →
      Refuses tracker command .poisoned
  | notInitialized {command : Command C} : command.isGuarded = true → command ≠ .startUp →
      tracker.poisoned = false → tracker.session = none → Refuses tracker command .notInitialized
  | alreadyInitialized {session : S} : tracker.poisoned = false → tracker.session = some session →
      Refuses tracker .startUp .alreadyInitialized

namespace Refuses

variable {tracker : Tracker S} {command : Command C} {error : TrackingError}

theorem isRefusal (refuses : Refuses tracker command error) : IsRefusal error := by
  cases refuses with
  | poisoned => exact .inl rfl
  | notInitialized => exact .inr (.inl rfl)
  | alreadyInitialized => exact .inr (.inr rfl)

/-- A reset is never refused. -/
theorem ne_reset (refuses : Refuses tracker command error) : command ≠ .reset := by
  rintro rfl
  cases refuses with
  | poisoned guarded => cases guarded
  | notInitialized guarded => cases guarded

end Refuses

/-- A reply with which a tracker is looked at. -/
def Reply.IsView : Reply → Prop
  | .nothing | .truth _ | .text _ | .records _ | .metrics _ | .settings _ => True
  | .done | .tag _ | .count _ | .report _ => False

/-- The course that a command can take. -/
inductive Course (host : Host σ C S) (before : Scene σ C S) :
    Command C → Except Stop Reply → Scene σ C S → Prop where
  | refused {command : Command C} {error : TrackingError} :
      Refuses before.tracker command error →
        Course host before command (.error (.error error)) before
  | viewed {command : Command C} {reply : Reply} : command ≠ .reset → command ≠ .startUp →
      Reply.IsView reply → Course host before command (.ok reply) before
  | noted (times : Nat) :
      Course host before (.noteUnloads times)
        (.ok (.count (before.tracker.pendingUnloads + times)))
        (before.changed fun tracker =>
          { tracker with pendingUnloads := tracker.pendingUnloads + times })
  | started {after : Scene σ C S} :
      before.tracker.poisoned = false → before.tracker.session = none →
      Population host (before.written (.entered .startup)) (.ok ()) after →
        Course host before .startUp (.ok .done) (after.written (.left .startup))
  | unstarted {stop : Stop} {after : Scene σ C S} :
      before.tracker.poisoned = false → before.tracker.session = none →
      Population host (before.written (.entered .startup)) (.error stop) after →
        Course host before .startUp (.error stop) ((after.settled stop).written (.left .startup))
  | added {session : S} {handle : C} {tag : Tag} {after : Scene σ C S} :
      before.tracker.poisoned = false → before.tracker.session = some session →
      Attempt host session handle before (.ok tag) after →
        Course host before (.add handle) (.ok (.tag tag)) after
  | unadded {session : S} {handle : C} {stop : Stop} {after : Scene σ C S} :
      before.tracker.poisoned = false → before.tracker.session = some session →
      Attempt host session handle before (.error stop) after →
        Course host before (.add handle) (.error stop) (after.settled stop)
  | passed {command : Command C} {session : S} {report : UnloadReport} {after : Scene σ C S} :
      command = .processUnloads ∨ command = .processPendingUnloads →
      before.tracker.poisoned = false → before.tracker.session = some session →
      Inspection host session (before.written (.entered before.passSpan)) (.ok report) after →
        Course host before command (.ok (.report report)) (after.written (.left before.passSpan))
  | unpassed {command : Command C} {session : S} {stop : Stop} {after : Scene σ C S} :
      command = .processUnloads ∨ command = .processPendingUnloads →
      before.tracker.poisoned = false → before.tracker.session = some session →
      Inspection host session (before.written (.entered before.passSpan)) (.error stop) after →
        Course host before command (.error stop) (after.written (.left before.passSpan))
  | resetUnopened : before.tracker.session = none →
      Course host before .reset (.ok .done) before.released
  | resetClosed {session : S} {state : σ} : before.tracker.session = some session →
      host.answer (.close session) before.host = (.ok (), state) →
        Course host before .reset (.ok .done) (before.released.called (.close session) none state)
  | resetUnclosed {session : S} {failure : HostError} {state : σ} :
      before.tracker.session = some session →
      host.answer (.close session) before.host = (.error failure, state) →
        Course host before .reset (.error (.error (.host .closeSession failure)))
          (before.released.called (.close session) (some failure) state)

variable {host : Host σ C S} {scene : Scene σ C S}

/-! ## One command after the other -/

theorem isInitialized_eq_false_iff (tracker : Tracker S) :
    tracker.isInitialized = false ↔ tracker.session = none := by
  rw [isInitialized, Option.isSome_eq_false_iff, Option.isNone_iff_eq_none]

theorem startUp_course (host : Host σ C S) (scene : Scene σ C S) :
    (startUp host).Ends scene
      (fun _ => Course host scene .startUp (.ok .done))
      (fun stop => Course host scene .startUp (.error stop)) := by
  unfold startUp
  refine Ends.requireUsable_bind (fun usable => Ends.current_bind ?_) fun poisoned =>
    .refused (.poisoned rfl poisoned)
  cases held : scene.tracker.session with
  | some session =>
      have initialized : scene.tracker.isInitialized = true := by
        rw [isInitialized, held, Option.isSome_some]
      simp only [initialized, if_true]
      exact Course.refused (.alreadyInitialized usable held)
  | none =>
      have uninitialized := (isInitialized_eq_false_iff _).mpr held
      simp only [uninitialized, Bool.false_eq_true, if_false]
      refine Ends.within (Ends.poisoning ((populate_ends host _).mono ?_ ?_))
      · intro _ _ populated
        exact .started usable held populated
      · intro _ _ halted
        exact .unstarted usable held halted

theorem add_course (host : Host σ C S) (handle : C) (scene : Scene σ C S) :
    (add host handle).Ends scene
      (fun tag => Course host scene (.add handle) (.ok (.tag tag)))
      (fun stop => Course host scene (.add handle) (.error stop)) := by
  unfold add
  refine Ends.requireUsable_bind (fun usable => ?_) fun poisoned =>
    .refused (.poisoned rfl poisoned)
  refine Ends.requireSession_bind (fun session held => ?_) fun closed =>
    .refused (.notInitialized rfl nofun usable closed)
  refine Ends.poisoning ((track_ends held).mono ?_ ?_)
  · intro _ _ tracked
    exact .added usable held tracked
  · intro _ _ stopped
    exact .unadded usable held stopped

theorem processUnloads_course (host : Host σ C S) {command : Command C}
    (isPass : command = .processUnloads ∨ command = .processPendingUnloads)
    {scene : Scene σ C S} (keeps : scene.tracker.registry.Keeps ⟨scene.tracker.tracked, []⟩) :
    (processUnloads host).Ends scene
      (fun report => Course host scene command (.ok (.report report)))
      (fun stop => Course host scene command (.error stop)) := by
  have guarded : command.isGuarded = true := by
    obtain rfl | rfl := isPass <;> rfl
  have notStart : command ≠ .startUp := by
    rintro rfl
    simp at isPass
  unfold processUnloads
  refine Ends.requireUsable_bind (fun usable => ?_) fun poisoned =>
    .refused (.poisoned guarded poisoned)
  refine Ends.requireSession_bind (fun session held => ?_) fun closed =>
    .refused (.notInitialized guarded notStart usable closed)
  have keepsInside : (scene.written (.entered scene.passSpan)).tracker.registry.Keeps
      ⟨(scene.written (.entered scene.passSpan)).tracker.tracked, []⟩ := keeps
  refine Ends.current_bind (Ends.within ((pass_ends host session keepsInside).mono ?_ ?_))
  · intro _ _ completed
    exact .passed isPass usable held completed
  · intro _ _ stopped
    exact .unpassed isPass usable held stopped

theorem processPendingUnloads_course (host : Host σ C S) {scene : Scene σ C S}
    (keeps : scene.tracker.registry.Keeps ⟨scene.tracker.tracked, []⟩) :
    (operation host .processPendingUnloads).Ends scene
      (fun reply => Course host scene .processPendingUnloads (.ok reply))
      (fun stop => Course host scene .processPendingUnloads (.error stop)) := by
  have processes : (processPendingUnloads host).Ends scene
      (fun report? => Course host scene .processPendingUnloads
        (.ok (report?.elim .nothing .report)))
      (fun stop => Course host scene .processPendingUnloads (.error stop)) := by
    unfold processPendingUnloads
    refine Ends.requireUsable_bind (fun usable => ?_) fun poisoned =>
      .refused (.poisoned rfl poisoned)
    refine Ends.requireSession_bind (fun session held => Ends.current_bind ?_) fun closed =>
      .refused (.notInitialized rfl nofun usable closed)
    split
    · exact Course.viewed (by simp) (by simp) trivial
    · exact (processUnloads_course host (.inr rfl) keeps).bind fun _ _ course => course
  refine processes.bind ?_
  rintro (_ | report) after course
  · exact course
  · exact course

theorem noteUnloads_apply (times : Nat) (scene : Scene σ C S) :
    (noteUnloads times : TrackerM σ C S Nat) scene =
      .ok (scene.tracker.pendingUnloads + times)
        (scene.changed fun tracker =>
          { tracker with pendingUnloads := tracker.pendingUnloads + times }) := by
  induction times generalizing scene with
  | zero => rfl
  | succ times ih =>
      rw [noteUnloads, bind_apply]
      change noteUnloads times (scene.changed fun tracker =>
        { tracker with pendingUnloads := tracker.pendingUnloads + 1 }) = _
      rw [ih]
      simp only [Scene.changed, Nat.add_assoc, Nat.add_comm 1 times]

theorem reset_course (host : Host σ C S) (scene : Scene σ C S) :
    (reset host).Ends scene
      (fun _ => Course host scene .reset (.ok .done))
      (fun stop => Course host scene .reset (.error stop)) := by
  unfold reset
  refine Ends.current_bind (Ends.emit_bind (Ends.update_bind ?_))
  cases held : scene.tracker.session with
  | none => exact Course.resetUnopened held
  | some session =>
      exact Ends.ask (fun _ _ closed => .resetClosed held closed) fun _ _ failed =>
        .resetUnclosed held failed

/-- A reset leaves the tracker released, whether or not the host closes the session. -/
theorem Course.tracker_of_reset {before after : Scene σ C S} {result : Except Stop Reply}
    (course : Course host before .reset result after) :
    after.tracker = before.released.tracker := by
  cases course with
  | refused refuses => exact absurd rfl refuses.ne_reset
  | viewed notReset => exact absurd rfl notReset
  | passed isPass => simp at isPass
  | unpassed isPass => simp at isPass
  | resetUnopened => rfl
  | resetClosed => rfl
  | resetUnclosed => rfl

/-! ## Commands that are let in

A usable tracker without a session starts up, one with a session adds classes and makes
passes, and announcements are counted by every tracker. -/

section

variable {host : Host σ C S} {tracker : Tracker S} {session : S} {handle : C} {state : σ}

/-- The scene in which a startup enumeration begins. -/
abbrev startupScene (tracker : Tracker S) (state : σ) : Scene σ C S :=
  (Scene.start tracker state).written (.entered .startup)

theorem startUp_apply (host : Host σ C S) (usable : tracker.poisoned = false)
    (closed : tracker.session = none) (state : σ) :
    startUp host (.start tracker state) =
      within .startup (TrackerM.poisoning (populate host)) (.start tracker state) := by
  have uninitialized := (isInitialized_eq_false_iff tracker).mpr closed
  rw [startUp, bind_apply, requireUsable_apply usable]
  simp only [bind_apply, current_apply, Scene.tracker_start, uninitialized, Bool.false_eq_true,
    if_false]

theorem perform_startUp_of_ok {last : Scene σ C S} (usable : tracker.poisoned = false)
    (closed : tracker.session = none)
    (populated : Population host (startupScene tracker state) (.ok ()) last) :
    tracker.perform host .startUp state =
      ⟨.ok .done, last.tracker, last.host, last.calls, last.trace ++ [.left .startup]⟩ := by
  rw [perform, run_eq, operation, bind_apply, startUp_apply host usable closed, within_apply,
    poisoning_apply, populated.populate_eq_ok]
  rfl

theorem perform_startUp_of_error {stop : Stop} {last : Scene σ C S}
    (usable : tracker.poisoned = false) (closed : tracker.session = none)
    (halted : Population host (startupScene tracker state) (.error stop) last) :
    tracker.perform host .startUp state =
      ⟨.error stop, (last.settled stop).tracker, (last.settled stop).host,
        (last.settled stop).calls, (last.settled stop).trace ++ [.left .startup]⟩ := by
  rw [perform, run_eq, operation, bind_apply, startUp_apply host usable closed, within_apply,
    poisoning_apply, halted.populate_eq_error]
  rfl

/-- An addition is an attempt to track the class, which may poison the tracker. -/
theorem add_apply (host : Host σ C S) (handle : C) (usable : tracker.poisoned = false)
    (opened : tracker.session = some session) (state : σ) :
    add host handle (.start tracker state) =
      TrackerM.poisoning (track host handle) (.start tracker state) := by
  have openedHere : (Scene.start tracker state : Scene σ C S).tracker.session = some session :=
    opened
  rw [add, bind_apply, requireUsable_apply usable]
  simp only [bind_apply, requireSession_apply openedHere]

theorem perform_add_of_ok {tag : Tag} {last : Scene σ C S} (usable : tracker.poisoned = false)
    (opened : tracker.session = some session)
    (tracked : track host handle (.start tracker state) = .ok tag last) :
    tracker.perform host (.add handle) state =
      ⟨.ok (.tag tag), last.tracker, last.host, last.calls, last.trace⟩ := by
  rw [perform, run_eq, operation, bind_apply, add_apply host handle usable opened,
    poisoning_apply, tracked]
  rfl

theorem perform_add_of_error {stop : Stop} {last : Scene σ C S}
    (usable : tracker.poisoned = false) (opened : tracker.session = some session)
    (stopped : track host handle (.start tracker state) = .error stop last) :
    tracker.perform host (.add handle) state =
      ⟨.error stop, (last.settled stop).tracker, (last.settled stop).host,
        (last.settled stop).calls, (last.settled stop).trace⟩ := by
  rw [perform, run_eq, operation, bind_apply, add_apply host handle usable opened,
    poisoning_apply, stopped]
  rfl

/-- A pass of a usable tracker in a session is entered and left, and comes to what its
inspection of the records comes to. -/
theorem perform_inspection (host : Host σ C S)
    (keeps : tracker.registry.Keeps ⟨tracker.tracked, []⟩) (usable : tracker.poisoned = false)
    (opened : tracker.session = some session) (state : σ) :
    let before : Scene σ C S := .start tracker state
    ∃ result after,
      Inspection host session (before.written (.entered before.passSpan)) result after ∧
      tracker.perform host .processUnloads state =
        ⟨result.map .report, after.tracker, after.host, after.calls,
          after.trace ++ [.left before.passSpan]⟩ := by
  intro before
  have usableBefore : before.tracker.poisoned = false := usable
  have openedBefore : before.tracker.session = some session := opened
  have keepsInside : (before.written (.entered before.passSpan)).tracker.registry.Keeps
      ⟨(before.written (.entered before.passSpan)).tracker.tracked, []⟩ := keeps
  have ends := pass_ends host session keepsInside
  have entered : processUnloads host before =
      TrackerM.within before.passSpan (pass host session) before := by
    rw [processUnloads, bind_apply, requireUsable_apply usableBefore]
    simp only [bind_apply, requireSession_apply openedBefore, current_apply]
    rfl
  rw [perform, run_eq, operation, bind_apply, entered, within_apply]
  cases passed : pass host session (before.written (.entered before.passSpan)) with
  | ok report after => exact ⟨.ok report, after, ends.ok passed, rfl⟩
  | error stop after => exact ⟨.error stop, after, ends.error passed, rfl⟩

/-- Announcements are counted, and nothing else happens. -/
theorem perform_noteUnloads (host : Host σ C S) (tracker : Tracker S) (times : Nat) (state : σ) :
    tracker.perform host (.noteUnloads times) state =
      ⟨.ok (.count (tracker.pendingUnloads + times)),
        { tracker with pendingUnloads := tracker.pendingUnloads + times }, state, [], []⟩ := by
  rw [perform, run_eq, operation, bind_apply, noteUnloads_apply]
  rfl

end

/-! ## Every command -/

/-- **A command takes one of the listed courses**, if the registry keeps the
tracked records. -/
theorem operation_course (host : Host σ C S) (command : Command C) {scene : Scene σ C S}
    (keeps : scene.tracker.registry.Keeps ⟨scene.tracker.tracked, []⟩) :
    (operation host command).Ends scene
      (fun reply => Course host scene command (.ok reply))
      (fun stop => Course host scene command (.error stop)) := by
  cases command with
  | startUp => exact (startUp_course host scene).bind fun _ _ course => course
  | add handle => exact (add_course host handle scene).bind fun _ _ course => course
  | noteUnloads times =>
      exact (Ends.of_ok (noteUnloads_apply times scene) (Course.noted times)).bind
        fun _ _ course => course
  | processUnloads =>
      exact (processUnloads_course host (.inl rfl) keeps).bind fun _ _ course => course
  | processPendingUnloads => exact processPendingUnloads_course host keeps
  | reset => exact (reset_course host scene).bind fun _ _ course => course
  | isTracked number =>
      refine Ends.current_bind (Course.viewed (by simp) (by simp) ?_)
      split <;> trivial
  | signature number => exact Course.viewed (by simp) (by simp) trivial
  | tracked => exact Course.viewed (by simp) (by simp) trivial
  | metrics => exact Course.viewed (by simp) (by simp) trivial
  | settings => exact Course.viewed (by simp) (by simp) trivial
  | description => exact Course.viewed (by simp) (by simp) trivial

/-- What a command comes to, if it is known how its operation ends. -/
theorem perform_ends {host : Host σ C S} {tracker : Tracker S} {state : σ} {command : Command C}
    {returned : Reply → Scene σ C S → Prop} {stopped : Stop → Scene σ C S → Prop}
    (ends : (operation host command).Ends (.start tracker state) returned stopped) :
    ∃ after : Scene σ C S,
      tracker.perform host command state =
        ⟨(tracker.perform host command state).result, after.tracker, after.host, after.calls,
          after.trace⟩ ∧
      (∀ reply, (tracker.perform host command state).result = .ok reply → returned reply after) ∧
      ∀ stop, (tracker.perform host command state).result = .error stop → stopped stop after := by
  obtain ⟨after, outcome, ended⟩ := ends.run
  refine ⟨after, outcome, fun reply isOk => ?_, fun stop isError => ?_⟩
  · rw [perform] at isOk
    rw [isOk] at ended
    exact ended
  · rw [perform] at isError
    rw [isError] at ended
    exact ended

/-- The outcome of a command whose operation takes its course is read off the scene in which
it ends. -/
theorem perform_course_of_ends {host : Host σ C S} {tracker : Tracker S} {state : σ}
    {command : Command C}
    (ends : (operation host command).Ends (.start tracker state)
      (fun reply => Course host (.start tracker state) command (.ok reply))
      (fun stop => Course host (.start tracker state) command (.error stop))) :
    ∃ after : Scene σ C S,
      tracker.perform host command state =
        ⟨(tracker.perform host command state).result, after.tracker, after.host, after.calls,
          after.trace⟩ ∧
      Course host (.start tracker state) command (tracker.perform host command state).result
        after := by
  obtain ⟨after, outcome, returned, stopped⟩ := perform_ends ends
  refine ⟨after, outcome, ?_⟩
  cases result : (tracker.perform host command state).result with
  | ok reply => exact returned reply result
  | error stop => exact stopped stop result

/-- A command to a tracker whose registry keeps its records takes its course. -/
theorem perform_course (host : Host σ C S) (command : Command C) (tracker : Tracker S) (state : σ)
    (keeps : tracker.registry.Keeps ⟨tracker.tracked, []⟩) :
    ∃ after : Scene σ C S,
      tracker.perform host command state =
        ⟨(tracker.perform host command state).result, after.tracker, after.host, after.calls,
          after.trace⟩ ∧
      Course host (.start tracker state) command (tracker.perform host command state).result
        after :=
  perform_course_of_ends (operation_course host command keeps)

end Tracker

end ClassLiveness

import ClassLiveness.Proofs.Tracker.Poison
import Mathlib.Data.List.DropRight

/-!
# Announced unloads

An announcement says that classes were unloaded, not which, so all that can be lost of it is
that it was made.  The count of announcements is written in three places: an announcement
adds to it, a completed pass and a reset begin it anew.  Between the two, a pass can fail or
abort at many points.

After a command the count is what it was and what the command announces, or it is zero if
the command has served the announcements so far (`Tracker.Sound.pendingUnloads_perform`).
Over a whole history it is the number of announcements since they were last served
(`Tracker.pendingUnloads_eq`).  A pass that depends on an announcement is the pass that does
not, as soon as there is one (`Tracker.perform_pending`), and before that it does nothing
(`Tracker.perform_nothing_pending`).  Either way the guards come first: a tracker
that is poisoned or has no session refuses the one pass as it refuses the other, whatever the
count (`Tracker.perform_pending_of_refused`).  All of this together is
`Tracker.announcements_served`.
-/

set_option autoImplicit false

namespace ClassLiveness

variable {σ C S : Type}

/-- How many unloads a command announces. -/
def Command.announced : Command C → Nat
  | .noteUnloads times => times
  | _ => 0

namespace Tracker

open TrackerM

/-- A command that ends with a result has served the announcements so far: it is a reset,
or a pass that is completed. -/
def serves : Command C → Except Stop Reply → Bool
  | .reset, _ => true
  | .processUnloads, .ok (.report _) => true
  | .processPendingUnloads, .ok (.report _) => true
  | _, _ => false

/-- The episode has served the announcements so far. -/
def Episode.serves (lived : Episode σ C S) : Bool :=
  Tracker.serves lived.command lived.outcome.result

/-- How many unloads are announced in a list of episodes. -/
def announced : List (Episode σ C S) → Nat
  | [] => 0
  | episode :: rest => episode.command.announced + announced rest

/-- The episodes since the announcements were last served. -/
def unserved (lived : List (Episode σ C S)) : List (Episode σ C S) :=
  lived.rtakeWhile fun episode => !episode.serves

/-! ## Counting announcements -/

theorem announced_append (first second : List (Episode σ C S)) :
    announced (first ++ second) = announced first + announced second := by
  induction first with
  | nil => exact (Nat.zero_add _).symm
  | cons episode rest ih =>
      rw [List.cons_append, announced, announced, ih, Nat.add_assoc]

/-- An episode that serves the announcements leaves none, and any other one adds its own. -/
theorem announced_unserved_snoc (earlier : List (Episode σ C S)) (last : Episode σ C S) :
    announced (unserved (earlier ++ [last])) =
      if last.serves then 0 else announced (unserved earlier) + last.command.announced := by
  rw [unserved, List.rtakeWhile_concat]
  cases last.serves with
  | true => rfl
  | false => exact announced_append _ [last]

/-- There are no more unserved announcements than announcements. -/
theorem announced_unserved_le (lived : List (Episode σ C S)) :
    announced (unserved lived) ≤ announced lived := by
  have split : lived.rdropWhile (fun episode => !episode.serves) ++ unserved lived = lived :=
    List.rdropWhile_append_rtakeWhile
  have whole := congrArg announced split
  rw [announced_append] at whole
  omega

/-! ## One command -/

theorem serves_error {command : Command C} (notReset : command ≠ .reset) (stop : Stop) :
    serves command (.error stop) = false := by
  cases command with
  | reset => exact absurd rfl notReset
  | _ => rfl

theorem serves_view {command : Command C} {reply : Reply} (notReset : command ≠ .reset)
    (view : Reply.IsView reply) : serves command (.ok reply) = false := by
  cases command with
  | reset => exact absurd rfl notReset
  | _ => cases reply <;> first | rfl | cases view

section

variable {host : Host σ C S} {before after : Scene σ C S}

theorem Attempt.pendingUnloads_eq {session : S} {handle : C} {result : Except Stop Tag}
    (attempt : Attempt host session handle before result after) :
    after.tracker.pendingUnloads = before.tracker.pendingUnloads := by
  obtain ⟨_, _, same⟩ := attempt.frame
  rw [same]

theorem Population.pendingUnloads_eq {result : Except Stop Unit}
    (populated : Population host before result after) :
    after.tracker.pendingUnloads = before.tracker.pendingUnloads := by
  obtain ⟨_, _, _, same⟩ := populated.frame
  rw [same]

theorem pendingUnloads_settled (scene : Scene σ C S) (stop : Stop) :
    (scene.settled stop).tracker.pendingUnloads = scene.tracker.pendingUnloads := by
  rw [Scene.tracker_settled]

end

/-- A command that announces nothing leaves the count, unless it serves the
announcements. -/
theorem Course.pendingUnloads_eq {host : Host σ C S} {tracker : Tracker S} {state : σ}
    {command : Command C} {result : Except Stop Reply} {after : Scene σ C S}
    (silent : ∀ times, command ≠ .noteUnloads times)
    (course : Course host (.start tracker state) command result after) :
    after.tracker.pendingUnloads =
      if serves command result then 0 else tracker.pendingUnloads := by
  cases course with
  | refused refuses =>
      rw [serves_error refuses.ne_reset]
      rfl
  | viewed notReset _ view =>
      rw [serves_view notReset view]
      rfl
  | noted times => exact absurd rfl (silent times)
  | started _ _ populated => exact populated.pendingUnloads_eq
  | unstarted _ _ populated =>
      exact (pendingUnloads_settled _ _).trans populated.pendingUnloads_eq
  | added _ _ attempt => exact attempt.pendingUnloads_eq
  | unadded _ _ attempt => exact (pendingUnloads_settled _ _).trans attempt.pendingUnloads_eq
  | passed isPass _ _ inspection =>
      cases inspection with
      | completed => obtain rfl | rfl := isPass <;> rfl
  | unpassed isPass _ _ inspection =>
      rw [serves_error (by obtain rfl | rfl := isPass <;> exact nofun)]
      cases inspection with
      | overfull => rfl
      | failed => rfl
  | resetUnopened => rfl
  | resetClosed => rfl
  | resetUnclosed => rfl

/-- **After a command the count is zero if the command has served the announcements, and
else what it was and what the command announces.** -/
theorem Sound.pendingUnloads_perform {tracker : Tracker S} (sound : tracker.Sound)
    (host : Host σ C S) (command : Command C) (state : σ) :
    (tracker.perform host command state).tracker.pendingUnloads =
      if serves command (tracker.perform host command state).result then 0
      else tracker.pendingUnloads + command.announced := by
  by_cases silent : ∀ times, command ≠ .noteUnloads times
  · obtain ⟨after, outcome, course⟩ := perform_course host command tracker state sound.keeps
    have announcesNothing : command.announced = 0 := by
      cases command with
      | noteUnloads times => exact absurd rfl (silent times)
      | _ => rfl
    rw [announcesNothing, Nat.add_zero, ← course.pendingUnloads_eq silent]
    exact congrArg (fun ended => ended.tracker.pendingUnloads) outcome
  · push Not at silent
    obtain ⟨times, rfl⟩ := silent
    rw [perform_noteUnloads]
    rfl

/-- A startup, an addition and a command other than a reset that is stopped leave the
count. -/
theorem Sound.pendingUnloads_kept {tracker : Tracker S} (sound : tracker.Sound)
    (host : Host σ C S) {command : Command C} (state : σ)
    (quiet : command = .startUp ∨ (∃ handle, command = .add handle) ∨
      command ≠ .reset ∧ ∃ stop, (tracker.perform host command state).result = .error stop) :
    (tracker.perform host command state).tracker.pendingUnloads = tracker.pendingUnloads := by
  have announcesNothing : command.announced = 0 := by
    obtain rfl | ⟨handle, rfl⟩ | ⟨-, stop, stopped⟩ := quiet
    · rfl
    · rfl
    · cases command with
      | noteUnloads times =>
          rw [perform_noteUnloads] at stopped
          cases stopped
      | _ => rfl
  have servesNothing : serves command (tracker.perform host command state).result = false := by
    obtain rfl | ⟨handle, rfl⟩ | ⟨notReset, stop, stopped⟩ := quiet
    · rfl
    · rfl
    · rw [stopped]
      exact serves_error notReset stop
  rw [sound.pendingUnloads_perform, servesNothing, announcesNothing]
  rfl

/-! ## Passes that depend on an announcement -/

/-- A pass reports or fails. -/
theorem perform_processUnloads_ne_nothing (host : Host σ C S) (tracker : Tracker S) (state : σ) :
    (tracker.perform host .processUnloads state).result ≠ .ok .nothing := by
  rw [perform, run_eq, operation, bind_apply]
  intro isNothing
  cases ended : processUnloads host (Scene.start tracker state) with
  | ok report after =>
      rw [ended] at isNothing
      cases isNothing
  | error stop after =>
      rw [ended] at isNothing
      cases isNothing

variable {host : Host σ C S} {tracker : Tracker S}

/-- A usable tracker in a session makes the pass if an announcement is pending. -/
theorem processPendingUnloads_apply (host : Host σ C S) {scene : Scene σ C S} {session : S}
    (usable : scene.tracker.poisoned = false) (opened : scene.tracker.session = some session) :
    processPendingUnloads host scene =
      if scene.tracker.pendingUnloads = 0 then .ok none scene
      else (processUnloads host >>= fun report => pure (some report)) scene := by
  rw [processPendingUnloads, bind_apply, requireUsable_apply usable]
  simp only [bind_apply, requireSession_apply opened, current_apply]
  split
  · rfl
  · rw [bind_apply]

/-- A tracker without a session refuses. -/
theorem operation_of_uninitialized (host : Host σ C S) {command : Command C} {scene : Scene σ C S}
    (isPass : command = .processUnloads ∨ command = .processPendingUnloads)
    (usable : scene.tracker.poisoned = false) (closed : scene.tracker.session = none) :
    operation host command scene = .error (.error .notInitialized) scene := by
  have passes := requireUsable_apply (C := C) usable
  have refused := requireSession_of_none (C := C) closed
  obtain rfl | rfl := isPass
  · simp only [operation, processUnloads, bind_apply, passes, refused]
  · simp only [operation, processPendingUnloads, bind_apply, passes, refused]

/-- A tracker that refuses a pass refuses one that depends on an announcement for the same
reason, whether or not there is one. -/
theorem perform_pending_of_refused (host : Host σ C S)
    (refused : tracker.poisoned = true ∨ tracker.session = none) (state : σ) :
    ∃ error, tracker.perform host .processPendingUnloads state =
        ⟨.error (.error error), tracker, state, [], []⟩ ∧
      tracker.perform host .processUnloads state =
        ⟨.error (.error error), tracker, state, [], []⟩ := by
  cases poisoned : tracker.poisoned with
  | true =>
      refine ⟨.poisoned, ?_, ?_⟩
      · rw [perform, run_eq, operation_of_poisoned host rfl poisoned]
        rfl
      · rw [perform, run_eq, operation_of_poisoned host rfl poisoned]
        rfl
  | false =>
      have closed := refused.resolve_left (by rw [poisoned]; exact Bool.false_ne_true)
      refine ⟨.notInitialized, ?_, ?_⟩
      · rw [perform, run_eq, operation_of_uninitialized host (.inr rfl) poisoned closed]
        rfl
      · rw [perform, run_eq, operation_of_uninitialized host (.inl rfl) poisoned closed]
        rfl

section

variable {session : S} (usable : tracker.poisoned = false)
  (opened : tracker.session = some session) (state : σ)
include usable opened

/-- As long as no announcement is pending, no pass is due, and nothing happens. -/
theorem perform_nothing_pending (host : Host σ C S) (due : tracker.pendingUnloads = 0) :
    tracker.perform host .processPendingUnloads state =
      ⟨.ok .nothing, tracker, state, [], []⟩ := by
  have notDue : (Scene.start tracker state : Scene σ C S).tracker.pendingUnloads = 0 := due
  rw [perform, run_eq, operation, bind_apply, processPendingUnloads_apply host usable opened,
    if_pos notDue]
  rfl

/-- Once an announcement is pending, a pass that depends on one is a pass like any other. -/
theorem perform_pending (host : Host σ C S) (due : tracker.pendingUnloads ≠ 0) :
    tracker.perform host .processPendingUnloads state =
      tracker.perform host .processUnloads state := by
  have isDue : (Scene.start tracker state : Scene σ C S).tracker.pendingUnloads ≠ 0 := due
  rw [perform, perform, run_eq, run_eq, operation, operation, bind_apply, bind_apply,
    processPendingUnloads_apply host usable opened, if_neg isDue, bind_apply]
  cases processUnloads host (Scene.start tracker state) with
  | ok report after => rfl
  | error stop after => rfl

/-- No pass is due exactly as long as no announcement is pending. -/
theorem perform_pending_eq_nothing_iff (host : Host σ C S) :
    (tracker.perform host .processPendingUnloads state).result = .ok .nothing ↔
      tracker.pendingUnloads = 0 := by
  constructor
  · intro notDue
    by_contra due
    rw [perform_pending usable opened state host due] at notDue
    exact perform_processUnloads_ne_nothing host tracker state notDue
  · intro due
    rw [perform_nothing_pending usable opened state host due]

end

/-! ## Histories -/

/-- **The count is the number of announcements since they were last served.** -/
theorem pendingUnloads_eq (host : Host σ C S) (settings : Settings)
    (history : List (Command C × σ)) :
    (afterAll host (new settings) history).pendingUnloads =
      announced (unserved (episodes host (new settings) history)) := by
  induction history using List.reverseRecOn with
  | nil => rfl
  | append_singleton earlier entry ih =>
      obtain ⟨command, state⟩ := entry
      have sound : (afterAll host (new settings) earlier).Sound := Reachable.sound ⟨earlier, rfl⟩
      rw [afterAll_snoc, episodes_snoc, announced_unserved_snoc, ← ih]
      exact sound.pendingUnloads_perform host command state

/-- **No announcement is lost, and none is served twice.**  After every history the count of
announcements is the number of those made since the latest of the beginning, the last reset
and the last completed pass, and no other command lowers it.  A pass that depends on an
announcement does nothing exactly if that number is zero; else it is the pass that does not,
and it is refused where that one is. -/
theorem announcements_served (host : Host σ C S) (settings : Settings)
    (history : List (Command C × σ)) :
    let lived := episodes host (new settings) history
    let now := afterAll host (new settings) history
    now.pendingUnloads = announced (unserved lived) ∧
    announced (unserved lived) ≤ announced lived ∧
    (∀ command state,
      (command = .startUp ∨ (∃ handle, command = .add handle) ∨
        command ≠ .reset ∧ ∃ stop, (now.perform host command state).result = .error stop) →
      (now.perform host command state).tracker.pendingUnloads = now.pendingUnloads) ∧
    (now.poisoned = false → now.isInitialized = true → ∀ state,
      ((now.perform host .processPendingUnloads state).result = .ok .nothing ↔
        announced (unserved lived) = 0) ∧
      (announced (unserved lived) = 0 →
        now.perform host .processPendingUnloads state = ⟨.ok .nothing, now, state, [], []⟩) ∧
      (announced (unserved lived) ≠ 0 →
        now.perform host .processPendingUnloads state = now.perform host .processUnloads state)) ∧
    (now.poisoned = true ∨ now.isInitialized = false → ∀ state, ∃ error,
      now.perform host .processPendingUnloads state =
        ⟨.error (.error error), now, state, [], []⟩ ∧
      now.perform host .processUnloads state = ⟨.error (.error error), now, state, [], []⟩) := by
  intro lived now
  have sound : now.Sound := Reachable.sound ⟨history, rfl⟩
  have counted : now.pendingUnloads = announced (unserved lived) :=
    pendingUnloads_eq host settings history
  refine ⟨counted, announced_unserved_le lived, ?_, ?_, ?_⟩
  · intro command state quiet
    exact sound.pendingUnloads_kept host state quiet
  · intro usable initialized state
    obtain ⟨session, opened⟩ := Option.isSome_iff_exists.mp initialized
    rw [← counted]
    exact ⟨perform_pending_eq_nothing_iff usable opened state host,
      perform_nothing_pending usable opened state host, perform_pending usable opened state host⟩
  · rintro (poisoned | uninitialized) state
    · exact perform_pending_of_refused host (.inl poisoned) state
    · have closed := (isInitialized_eq_false_iff now).mp uninitialized
      exact perform_pending_of_refused host (.inr closed) state

end Tracker

end ClassLiveness

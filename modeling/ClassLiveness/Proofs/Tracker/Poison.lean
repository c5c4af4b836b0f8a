import ClassLiveness.Proofs.Tracker.Episodes

/-!
# Poison

An unrecoverable error poisons the tracker, and a poisoned tracker does nothing but refuse
until it is reset.  The flag is set in one place (`TrackerM.poisoning`) and errors leave an
operation at many, so what is to be shown is that no unrecoverable error leaves past that
place, and that nothing else sets the flag (`Tracker.Course.poisoned_iff`).

The errors of a refusal are told apart from all others by what has happened: a command that
is refused has not touched anything (`Tracker.Course.eq_start_of_isRefusal`).  Over a whole
history, a tracker is poisoned exactly if a command has failed with an unrecoverable error
since the last reset (`Tracker.poisoned_iff`); with the refusals this is
`Tracker.poison_exact`.
-/

set_option autoImplicit false

namespace ClassLiveness

variable {σ C S : Type}

namespace Tracker

open TrackerM

/-! ## Errors that are no refusals -/

/-- An operation was stopped by a refusal. -/
def IsRefused : Stop → Prop
  | .error error => IsRefusal error
  | .abort _ => False

theorem not_isRefused_host (op : HostOp) (failure : HostError) :
    ¬IsRefused (.error (.host op failure)) := by
  rintro (impossible | impossible | impossible) <;> cases impossible

theorem not_isRefused_of_isVerdict {reason : TrackingError} (verdict : Host.IsVerdict reason) :
    ¬IsRefused (.error reason) := by
  obtain ⟨failure, rfl⟩ | ⟨tag, count, rfl⟩ := verdict
  · exact not_isRefused_host _ _
  · rintro (impossible | impossible | impossible) <;> cases impossible

/-- The tracking of a class is not stopped by a refusal. -/
theorem not_isRefused_of_ofTracking {stop : Stop} (tracking : stop.OfTracking) :
    ¬IsRefused stop := by
  rcases stop with error | abort
  · cases error with
    | host => exact not_isRefused_host _ _
    | duplicateClass => rintro (impossible | impossible | impossible) <;> cases impossible
    | _ => cases tracking
  · exact id

section

variable {host : Host σ C S} {session : S} {handle : C} {before after : Scene σ C S}

/-- An attempt to track a class poisons nothing by itself. -/
theorem Attempt.poisoned_eq {result : Except Stop Tag}
    (attempt : Attempt host session handle before result after) :
    after.tracker.poisoned = before.tracker.poisoned := by
  obtain ⟨_, _, same⟩ := attempt.frame
  rw [same]

/-- A startup enumeration poisons nothing by itself. -/
theorem Population.poisoned_eq {result : Except Stop Unit}
    (populated : Population host before result after) :
    after.tracker.poisoned = before.tracker.poisoned := by
  obtain ⟨_, _, _, same⟩ := populated.frame
  rw [same]

theorem Inspection.not_isRefused {stop : Stop}
    (inspection : Inspection host session before (.error stop) after) : ¬IsRefused stop := by
  cases inspection with
  | overfull => exact id
  | failed _ failed => exact not_isRefused_of_isVerdict (isVerdict_of_inquest failed)

end

/-! ## One command -/

/-- A command has failed with an unrecoverable error. -/
def Poisons (command : Command C) (result : Except Stop Reply) : Prop :=
  command.isGuarded = true ∧
    ∃ error, result = .error (.error error) ∧ error.isUnrecoverable = true

theorem not_poisons_ok (command : Command C) (reply : Reply) : ¬Poisons command (.ok reply) := by
  rintro ⟨-, error, impossible, -⟩
  cases impossible

/-- Being stopped poisons a tracker exactly if it is by an unrecoverable error. -/
theorem poisoned_settled (command : Command C) (guarded : command.isGuarded = true)
    (scene : Scene σ C S) (stop : Stop) :
    (scene.settled stop).tracker.poisoned = true ↔
      scene.tracker.poisoned = true ∨ Poisons command (.error stop) := by
  cases stop with
  | abort abort =>
      refine ⟨.inl, ?_⟩
      rintro (poisoned | ⟨-, error, impossible, -⟩)
      · exact poisoned
      · cases impossible
  | error error =>
      rw [Scene.settled]
      split
      · rename_i unrecoverable
        exact iff_of_true rfl (.inr ⟨guarded, error, rfl, unrecoverable⟩)
      · rename_i recoverable
        refine ⟨.inl, ?_⟩
        rintro (poisoned | ⟨-, other, same, unrecoverable⟩)
        · exact poisoned
        · cases same
          exact absurd unrecoverable recoverable

section

variable {host : Host σ C S} {tracker : Tracker S} {state : σ} {command : Command C}
  {result : Except Stop Reply} {after : Scene σ C S}

/-- **A command other than a reset poisons the tracker exactly if it fails with an
unrecoverable error.** -/
theorem Course.poisoned_iff (notReset : command ≠ .reset)
    (course : Course host (.start tracker state) command result after) :
    after.tracker.poisoned = true ↔ tracker.poisoned = true ∨ Poisons command result := by
  have unchanged : ∀ reply, after.tracker.poisoned = tracker.poisoned → result = .ok reply →
      (after.tracker.poisoned = true ↔ tracker.poisoned = true ∨ Poisons command result) := by
    rintro reply same rfl
    rw [same, or_iff_left (not_poisons_ok command reply)]
  cases course with
  | refused refuses =>
      cases refuses with
      | poisoned guarded poisoned => exact iff_of_true poisoned (.inl poisoned)
      | notInitialized =>
          refine ⟨.inl, ?_⟩
          rintro (poisoned | ⟨-, error, same, unrecoverable⟩)
          · exact poisoned
          · cases same
            cases unrecoverable
      | alreadyInitialized =>
          refine ⟨.inl, ?_⟩
          rintro (poisoned | ⟨-, error, same, unrecoverable⟩)
          · exact poisoned
          · cases same
            cases unrecoverable
  | viewed => exact unchanged _ rfl rfl
  | noted => exact unchanged _ rfl rfl
  | started usable closed populated => exact unchanged _ populated.poisoned_eq rfl
  | @unstarted stop stopped usable closed populated =>
      have settles := poisoned_settled .startUp rfl stopped stop
      rwa [populated.poisoned_eq] at settles
  | added usable opened attempt => exact unchanged _ attempt.poisoned_eq rfl
  | @unadded _ handle stop stopped usable opened attempt =>
      have settles := poisoned_settled (.add handle) rfl stopped stop
      rwa [attempt.poisoned_eq] at settles
  | passed isPass usable opened inspection =>
      cases inspection with
      | completed => exact unchanged _ rfl rfl
  | unpassed isPass usable opened inspection =>
      have guarded : command.isGuarded = true := by
        obtain rfl | rfl := isPass <;> rfl
      cases inspection with
      | overfull =>
          refine ⟨.inl, ?_⟩
          rintro (poisoned | ⟨-, error, impossible, -⟩)
          · exact poisoned
          · cases impossible
      | failed fits failed =>
          have unrecoverable := (isVerdict_of_inquest failed).isUnrecoverable
          exact iff_of_true rfl (.inr ⟨guarded, _, rfl, unrecoverable⟩)
  | resetUnopened => exact absurd rfl notReset
  | resetClosed => exact absurd rfl notReset
  | resetUnclosed => exact absurd rfl notReset

/-- A reset leaves no tracker poisoned. -/
theorem Course.poisoned_of_reset
    (course : Course host (.start tracker state) .reset result after) :
    after.tracker.poisoned = false := by
  rw [course.tracker_of_reset]
  rfl

/-- **A command that fails with a refusal has done nothing.** -/
theorem Course.eq_start_of_isRefusal {error : TrackingError} (refusal : IsRefusal error)
    (course : Course host (.start tracker state) command (.error (.error error)) after) :
    after = .start tracker state := by
  have refused : IsRefused (.error error) := refusal
  cases course with
  | refused => rfl
  | unstarted _ _ populated =>
      exact absurd refused (not_isRefused_of_ofTracking populated.ofTracking)
  | unadded _ _ attempt => exact absurd refused (not_isRefused_of_ofTracking attempt.ofTracking)
  | unpassed _ _ _ inspection => exact absurd refused inspection.not_isRefused
  | resetUnclosed => exact absurd refused (not_isRefused_host _ _)

end

/-- A poisoned tracker refuses. -/
theorem operation_of_poisoned (host : Host σ C S) {command : Command C} {scene : Scene σ C S}
    (guarded : command.isGuarded = true) (poisoned : scene.tracker.poisoned = true) :
    operation host command scene = .error (.error .poisoned) scene := by
  have refused := requireUsable_of_poisoned (C := C) poisoned
  cases command with
  | startUp => simp only [operation, startUp, bind_apply, refused]
  | add => simp only [operation, add, bind_apply, refused]
  | processUnloads => simp only [operation, processUnloads, bind_apply, refused]
  | processPendingUnloads => simp only [operation, processPendingUnloads, bind_apply, refused]
  | noteUnloads | reset | isTracked | signature | tracked | metrics | settings | description =>
      cases guarded

theorem perform_of_poisoned (host : Host σ C S) {tracker : Tracker S} {command : Command C}
    (guarded : command.isGuarded = true) (poisoned : tracker.poisoned = true) (state : σ) :
    (tracker.perform host command state).result = .error (.error .poisoned) := by
  have refused : operation host command (Scene.start tracker state) = _ :=
    operation_of_poisoned host guarded poisoned
  rw [perform, run_eq, refused]
  rfl

/-! ## Histories -/

/-- One of the episodes after the last reset has a property. -/
def SinceReset (lived : List (Episode σ C S)) (Had : Episode σ C S → Prop) : Prop :=
  ∃ earlier episode later, lived = earlier ++ episode :: later ∧
    (∀ other ∈ later, other.command ≠ .reset) ∧ Had episode

theorem not_sinceReset_nil (Had : Episode σ C S → Prop) : ¬SinceReset [] Had := by
  rintro ⟨earlier, episode, later, impossible, -⟩
  have member : episode ∈ ([] : List (Episode σ C S)) := by
    rw [impossible]
    exact List.mem_append_right _ List.mem_cons_self
  cases member

/-- The last episode has the property, or one before it and it is no reset. -/
theorem sinceReset_snoc {lived : List (Episode σ C S)} {last : Episode σ C S}
    {Had : Episode σ C S → Prop} :
    SinceReset (lived ++ [last]) Had ↔
      Had last ∨ last.command ≠ .reset ∧ SinceReset lived Had := by
  constructor
  · rintro ⟨earlier, episode, later, split, quiet, had⟩
    induction later using List.reverseRecOn with
    | nil =>
        obtain ⟨-, same⟩ := List.append_inj' split rfl
        cases same
        exact .inl had
    | append_singleton before other _ =>
        rw [← List.cons_append, ← List.append_assoc] at split
        obtain ⟨rfl, same⟩ := List.append_inj' split rfl
        cases same
        refine .inr ⟨quiet last (List.mem_append_right _ (List.mem_singleton_self _)), ?_⟩
        exact ⟨earlier, episode, before, rfl,
          fun other member => quiet other (List.mem_append_left _ member), had⟩
  · rintro (had | ⟨notReset, earlier, episode, later, rfl, quiet, had⟩)
    · exact ⟨lived, last, [], rfl, fun _ member => absurd member List.not_mem_nil, had⟩
    · refine ⟨earlier, episode, later ++ [last], ?_, ?_, had⟩
      · rw [List.append_assoc, List.cons_append]
      · intro other member
        rcases List.mem_append.mp member with isLater | isLast
        · exact quiet other isLater
        · rw [List.mem_singleton.mp isLast]
          exact notReset

/-- The command of an episode has failed with an unrecoverable error. -/
def Episode.Poisons (lived : Episode σ C S) : Prop :=
  Tracker.Poisons lived.command lived.outcome.result

/-- **A tracker is poisoned exactly if a command has failed with an unrecoverable error
since the last reset.** -/
theorem poisoned_iff (host : Host σ C S) (settings : Settings) (history : List (Command C × σ)) :
    (afterAll host (new settings) history).poisoned = true ↔
      SinceReset (episodes host (new settings) history) Episode.Poisons := by
  induction history using List.reverseRecOn with
  | nil =>
      rw [afterAll, episodes]
      exact iff_of_false Bool.false_ne_true (not_sinceReset_nil _)
  | append_singleton earlier entry ih =>
      obtain ⟨command, state⟩ := entry
      have sound : (afterAll host (new settings) earlier).Sound := Reachable.sound ⟨earlier, rfl⟩
      obtain ⟨after, outcome, course⟩ := perform_course host command
        (afterAll host (new settings) earlier) state sound.keeps
      rw [afterAll_snoc, episodes_snoc, sinceReset_snoc, ← ih]
      have remaining := congrArg Outcome.tracker outcome
      rw [remaining]
      by_cases isReset : command = .reset
      · subst isReset
        rw [course.poisoned_of_reset]
        refine iff_of_false Bool.false_ne_true ?_
        rintro (⟨guarded, -⟩ | ⟨notReset, -⟩)
        · cases guarded
        · exact notReset rfl
      · rw [course.poisoned_iff isReset, or_comm]
        exact or_congr_right (and_iff_right isReset).symm

/-- A poisoned tracker stays poisoned, and refuses every guarded command, until it is
reset. -/
theorem Sound.stays_poisoned {tracker : Tracker S} (sound : tracker.Sound) (host : Host σ C S)
    (poisoned : tracker.poisoned = true) (further : List (Command C × σ))
    (noReset : ∀ entry ∈ further, entry.1 ≠ .reset) :
    ∀ episode ∈ episodes host tracker further, episode.command.isGuarded = true →
      episode.outcome.result = .error (.error .poisoned) := by
  induction further generalizing tracker with
  | nil =>
      rw [episodes]
      exact fun _ member => absurd member List.not_mem_nil
  | cons entry rest ih =>
      obtain ⟨command, state⟩ := entry
      have notReset := noReset _ List.mem_cons_self
      obtain ⟨after, outcome, course⟩ := perform_course host command tracker state sound.keeps
      have stillPoisoned : (tracker.perform host command state).tracker.poisoned = true := by
        rw [outcome]
        exact (course.poisoned_iff notReset).mpr (.inl poisoned)
      have soundAfter := (sound.perform host command state).1
      intro episode member guarded
      rcases List.mem_cons.mp member with rfl | later
      · exact perform_of_poisoned host guarded poisoned state
      · exact ih soundAfter stillPoisoned (fun other isLater =>
          noReset other (List.mem_cons_of_mem _ isLater)) episode later guarded

/-- **Poison is exact and absorbing, and refusals do nothing.**  After every history the
tracker is poisoned exactly if, since the last reset, a startup, an addition or a pass has
failed with an unrecoverable error.  A reset leaves it unpoisoned, also if the host fails
to close the session.  While it is poisoned and not reset, every startup, addition and
pass is refused for that reason.  And a command that fails with a refusal has made no call,
has written nothing into the trace, and has left the tracker and the host as they were. -/
theorem poison_exact (host : Host σ C S) (settings : Settings) (history : List (Command C × σ)) :
    let now := afterAll host (new settings) history
    (now.poisoned = true ↔
      SinceReset (episodes host (new settings) history) Episode.Poisons) ∧
    (∀ state, (now.perform host .reset state).tracker.poisoned = false) ∧
    (now.poisoned = true → ∀ further : List (Command C × σ),
      (∀ entry ∈ further, entry.1 ≠ .reset) →
        ∀ episode ∈ episodes host now further, episode.command.isGuarded = true →
          episode.outcome.result = .error (.error .poisoned)) ∧
    (∀ command state error, IsRefusal error →
      (now.perform host command state).result = .error (.error error) →
        now.perform host command state = ⟨.error (.error error), now, state, [], []⟩) := by
  intro now
  have sound : now.Sound := Reachable.sound ⟨history, rfl⟩
  refine ⟨poisoned_iff host settings history, ?_, ?_, ?_⟩
  · intro state
    obtain ⟨after, outcome, course⟩ := perform_course host .reset now state sound.keeps
    rw [outcome]
    exact course.poisoned_of_reset
  · intro poisoned further noReset
    exact sound.stays_poisoned host poisoned further noReset
  · intro command state error refusal refused
    obtain ⟨after, outcome, course⟩ := perform_course host command now state sound.keeps
    rw [refused] at course outcome
    obtain rfl := course.eq_start_of_isRefusal refusal
    exact outcome

end Tracker

end ClassLiveness

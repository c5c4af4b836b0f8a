import ClassLiveness.Proofs.Tracker.Course

/-!
# Where classes come to be tracked

A class comes to be tracked when it is added, or as an entry of a startup enumeration.
`Tracker.Applied` says that a command has come to a class that it is to track, and in which
scene it has.  If the attempt is stopped there, so is the command (`Tracker.Applied.stops`),
and else it goes on with what is left to track (`Tracker.Applied.proceeds`).
-/

set_option autoImplicit false

namespace ClassLiveness

variable {σ C S : Type}

namespace Tracker

open TrackerM

/-- A command to a tracker has come to a class that it is to track, in a scene: the
class is added, or it is the next entry of a startup enumeration. -/
inductive Applied (host : Host σ C S) (tracker : Tracker S) (state : σ) :
    Command C → C → S → Scene σ C S → Prop where
  | added {handle : C} {session : S} :
      tracker.poisoned = false → tracker.session = some session →
        Applied host tracker state (.add handle) handle session (.start tracker state)
  | enumerated {handle : C} {session : S} {entries : List (LoadedClass C)}
      {earlier later : List C} {afterOpening afterListing : σ} {scene : Scene σ C S} :
      tracker.poisoned = false → tracker.session = none →
      host.answer .openSession state = (.ok session, afterOpening) →
      host.answer .loadedClasses afterOpening = (.ok entries, afterListing) →
      wanted tracker.settings.wantedStatus entries = earlier ++ handle :: later →
      trackAll host earlier (((Scene.start tracker state).written (.entered .startup)).listed
        session afterOpening afterListing) = .ok () scene →
        Applied host tracker state .startUp handle session scene

section

variable {host : Host σ C S} {tracker : Tracker S} {state : σ} {handle : C} {session : S}
  {command : Command C} {scene after : Scene σ C S} {stop : Stop} {tag : Tag}

theorem Applied.opened (applied : Applied host tracker state command handle session scene) :
    scene.tracker.session = some session := by
  cases applied with
  | added _ opened => exact opened
  | enumerated _ _ _ _ _ tracked => exact (trackAll_session _ rfl).ok tracked

/-- An enumeration that is stopped among its classes has come to the class that it is
stopped at. -/
theorem Applied.of_halted {entries : List (LoadedClass C)} {afterOpening afterListing : σ}
    (usable : tracker.poisoned = false) (closed : tracker.session = none)
    (opening : host.answer .openSession state = (.ok session, afterOpening))
    (listing : host.answer .loadedClasses afterOpening = (.ok entries, afterListing))
    (halted : trackAll host (wanted tracker.settings.wantedStatus entries)
      ((startupScene tracker state).listed session afterOpening afterListing) =
        .error stop after) :
    ∃ handle scene, Applied host tracker state .startUp handle session scene ∧
      Attempt host session handle scene (.error stop) after := by
  obtain ⟨earlier, handle, later, scene, isNext, tracked, failed⟩ := trackAll_error halted
  have applied : Applied host tracker state .startUp handle session scene :=
    .enumerated usable closed opening listing isNext tracked
  exact ⟨handle, scene, applied, (track_ends applied.opened).error failed⟩

/-- **A command that comes to a class that cannot be tracked ends with this.** -/
theorem Applied.stops (applied : Applied host tracker state command handle session scene)
    (stopped : track host handle scene = .error stop after) :
    (tracker.perform host command state).result = .error stop ∧
      (tracker.perform host command state).calls = after.calls ∧
      (tracker.perform host command state).tracker = (after.settled stop).tracker := by
  have sameCalls : (after.settled stop).calls = after.calls :=
    congrArg Dialogue.calls (Scene.dialogue_settled after stop)
  cases applied with
  | added usable opened =>
      rw [perform_add_of_error usable opened stopped]
      exact ⟨rfl, sameCalls, rfl⟩
  | @enumerated _ _ _ earlier later _ _ _ usable closed opening listing isNext tracked =>
      -- The enumeration comes to the class after the earlier entries, and stops there.
      have halted := trackAll_append earlier (handle :: later) tracked
      rw [← isNext, trackAll_cons, bind_of_error stopped] at halted
      rw [perform_startUp_of_error usable closed (.halted opening listing halted)]
      exact ⟨rfl, sameCalls, rfl⟩

/-- How a command goes on from a scene in which it has tracked a class. -/
inductive Proceeds (host : Host σ C S) (tracker : Tracker S) (state : σ) (handle : C) (session : S)
    (tag : Tag) (after : Scene σ C S) : Command C → Prop where
  /-- An addition is through. -/
  | added :
      tracker.perform host (.add handle) state =
          ⟨.ok (.tag tag), after.tracker, after.host, after.calls, after.trace⟩ →
        Proceeds host tracker state handle session tag after (.add handle)
  /-- An enumeration tracks the classes that are left, of which the first is next. -/
  | enumerated (later : List C) :
      (∀ next rest, later = next :: rest →
        Applied host tracker state .startUp next session after) →
      (trackAll host later).Ends after
        (fun _ last =>
          (tracker.perform host .startUp state).result = .ok .done ∧
            (tracker.perform host .startUp state).calls = last.calls ∧
            (tracker.perform host .startUp state).tracker = last.tracker)
        (fun stop last =>
          (tracker.perform host .startUp state).result = .error stop ∧
            (tracker.perform host .startUp state).calls = last.calls ∧
            (tracker.perform host .startUp state).tracker = (last.settled stop).tracker) →
        Proceeds host tracker state handle session tag after .startUp

/-- **A command that has tracked the class that it came to goes on from there.** -/
theorem Applied.proceeds (applied : Applied host tracker state command handle session scene)
    (tracked : track host handle scene = .ok tag after) :
    Proceeds host tracker state handle session tag after command := by
  cases applied with
  | added usable opened => exact .added (perform_add_of_ok usable opened tracked)
  | @enumerated _ _ entries earlier later afterOpening afterListing _ usable closed opening
      listing isNext reached =>
      have onwards : trackAll host (wanted tracker.settings.wantedStatus entries)
          ((startupScene tracker state).listed session afterOpening afterListing) =
            trackAll host later after := by
        rw [isNext, trackAll_append earlier (handle :: later) reached, trackAll_cons,
          bind_of_ok tracked]
      refine .enumerated later ?_ ?_
      · rintro next rest rfl
        have reachedNext := trackAll_append earlier [handle] reached
        rw [trackAll_cons, bind_of_ok tracked] at reachedNext
        have isNextNow : wanted tracker.settings.wantedStatus entries =
            (earlier ++ [handle]) ++ next :: rest := by
          rw [isNext, List.append_assoc, List.singleton_append]
        exact .enumerated usable closed opening listing isNextNow reachedNext
      · cases ended : trackAll host later after with
        | ok value last =>
            rw [ended] at onwards
            have performed := perform_startUp_of_ok usable closed
              (.complete opening listing onwards)
            rw [performed]
            exact Ends.of_ok ended ⟨rfl, rfl, rfl⟩
        | error stop last =>
            rw [ended] at onwards
            rw [perform_startUp_of_error usable closed (.halted opening listing onwards)]
            exact Ends.of_error ended
              ⟨rfl, congrArg Dialogue.calls (Scene.dialogue_settled last stop), rfl⟩

end

end Tracker

end ClassLiveness

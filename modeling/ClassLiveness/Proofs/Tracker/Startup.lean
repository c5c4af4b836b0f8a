import ClassLiveness.Proofs.Tracker.Attempt

/-!
# How a startup enumeration ends

A startup enumeration first makes two calls, and then tracks a list of classes.
`Tracker.Population` lists its endings with the scenes that they leave behind: a
call fails, the tracking of the list stops, or all is tracked.
-/

set_option autoImplicit false

namespace ClassLiveness

variable {σ C S : Type}

/-- The scene with a session. -/
def Scene.opened (scene : Scene σ C S) (session : S) : Scene σ C S :=
  scene.changed fun tracker => { tracker with session := some session }

/-- The scene in which the classes of an enumeration come to be tracked: the
session is open, and the loaded classes are listed. -/
def Scene.listed (scene : Scene σ C S) (session : S) (afterOpening afterListing : σ) :
    Scene σ C S :=
  (((scene.registered scene.tracker.registry.clear).called .openSession none
    afterOpening).opened session).called .loadedClasses none afterListing

namespace Tracker

open TrackerM

/-- How a startup enumeration ends. -/
inductive Population (host : Host σ C S) (before : Scene σ C S) :
    Except Stop Unit → Scene σ C S → Prop where
  /-- The host fails to open a session. -/
  | unopened {failure : HostError} {state : σ} :
      host.answer .openSession before.host = (.error failure, state) →
        Population host before (.error (.error (.host .openSession failure)))
          ((before.registered before.tracker.registry.clear).called .openSession (some failure)
            state)
  /-- The host fails to list the loaded classes. -/
  | unlisted {session : S} {failure : HostError} {afterOpening state : σ} :
      host.answer .openSession before.host = (.ok session, afterOpening) →
      host.answer .loadedClasses afterOpening = (.error failure, state) →
        Population host before (.error (.error (.host .loadedClasses failure)))
          ((((before.registered before.tracker.registry.clear).called .openSession none
            afterOpening).opened session).called .loadedClasses (some failure) state)
  /-- A class cannot be tracked. -/
  | halted {session : S} {enumerated : List (LoadedClass C)} {afterOpening afterListing : σ}
      {stop : Stop} {after : Scene σ C S} :
      host.answer .openSession before.host = (.ok session, afterOpening) →
      host.answer .loadedClasses afterOpening = (.ok enumerated, afterListing) →
      trackAll host (wanted before.tracker.settings.wantedStatus enumerated)
        (before.listed session afterOpening afterListing) = .error stop after →
        Population host before (.error stop) after
  /-- Every wanted class is tracked. -/
  | complete {session : S} {enumerated : List (LoadedClass C)} {afterOpening afterListing : σ}
      {after : Scene σ C S} :
      host.answer .openSession before.host = (.ok session, afterOpening) →
      host.answer .loadedClasses afterOpening = (.ok enumerated, afterListing) →
      trackAll host (wanted before.tracker.settings.wantedStatus enumerated)
        (before.listed session afterOpening afterListing) = .ok () after →
        Population host before (.ok ())
          (after.written (.event (.initialized enumerated.length after.tracker.len)))

/-- **A startup enumeration ends in one of the listed ways.** -/
theorem populate_ends (host : Host σ C S) (scene : Scene σ C S) :
    (populate host).Ends scene
      (fun _ => Population host scene (.ok ()))
      (fun stop => Population host scene (.error stop)) := by
  unfold populate
  refine Ends.update_bind (Ends.ask_bind (fun session afterOpening opening => ?_)
    fun failure state opening => .unopened opening)
  refine Ends.update_bind (Ends.ask_bind (fun enumerated afterListing listing => ?_)
    fun failure state listing => .unlisted opening listing)
  refine Ends.current_bind (Ends.result_bind (fun _ after tracked => ?_) fun stop after halted =>
    .halted opening listing halted)
  exact .complete opening listing tracked

section

variable {host : Host σ C S} {before after : Scene σ C S} {session : S} {afterOpening : σ}

/-- Once the host has opened a session, the classes come to be listed. -/
theorem populate_of_opened
    (opening : host.answer .openSession before.host = (.ok session, afterOpening)) :
    populate host before =
      (do
        let enumerated : List (LoadedClass C) ← ask (host.request .loadedClasses)
        let tracker ← current
        trackAll host (wanted tracker.settings.wantedStatus enumerated)
        let tracker ← current
        emit (.initialized enumerated.length tracker.len) : TrackerM σ C S Unit)
      (((before.registered before.tracker.registry.clear).called .openSession none
        afterOpening).opened session) := by
  have opened := ask_ok (before.registered before.tracker.registry.clear) opening
  unfold populate
  refine (bind_of_ok rfl).trans ?_
  refine (bind_of_ok opened).trans ?_
  exact bind_of_ok rfl

/-- What the endings say of a startup enumeration that returns, it comes to. -/
theorem Population.populate_eq_ok (populated : Population host before (.ok ()) after) :
    populate host before = .ok () after := by
  cases populated with
  | complete opening listing tracked =>
      rw [populate_of_opened opening, bind_of_ok (ask_ok _ listing)]
      refine (bind_of_ok rfl).trans ?_
      refine (bind_of_ok tracked).trans ?_
      rfl

/-- What they say of one that is stopped, it comes to. -/
theorem Population.populate_eq_error {stop : Stop}
    (halted : Population host before (.error stop) after) :
    populate host before = .error stop after := by
  cases halted with
  | unopened opening =>
      have unopened := ask_error (before.registered before.tracker.registry.clear) opening
      unfold populate
      refine (bind_of_ok rfl).trans ?_
      exact bind_of_error unopened
  | unlisted opening listing =>
      rw [populate_of_opened opening, bind_of_error (ask_error _ listing)]
      rfl
  | halted opening listing stopped =>
      rw [populate_of_opened opening, bind_of_ok (ask_ok _ listing)]
      refine (bind_of_ok rfl).trans ?_
      exact bind_of_error stopped

end

/-- A startup enumeration is stopped as the tracking of a class is. -/
theorem Population.ofTracking {host : Host σ C S} {before after : Scene σ C S} {stop : Stop}
    (populated : Population host before (.error stop) after) : stop.OfTracking := by
  cases populated with
  | unopened => trivial
  | unlisted => trivial
  | halted _ _ stopped => exact ((trackAll_session _ rfl).error stopped).2

/-- A startup enumeration changes the session, the registry and the tags at most. -/
theorem Population.frame {host : Host σ C S} {before after : Scene σ C S}
    {result : Except Stop Unit} (populated : Population host before result after) :
    ∃ session registry tags, after.tracker =
      { before.tracker with session := session, registry := registry, tags := tags } := by
  cases populated with
  | unopened => exact ⟨_, _, _, rfl⟩
  | unlisted => exact ⟨_, _, _, rfl⟩
  | halted _ _ stopped =>
      obtain ⟨registry, tags, same⟩ := (trackAll_frame _ rfl).error stopped
      exact ⟨_, registry, tags, same⟩
  | complete _ _ tracked =>
      obtain ⟨registry, tags, same⟩ := (trackAll_frame _ rfl).ok tracked
      exact ⟨_, registry, tags, same⟩

end Tracker

end ClassLiveness

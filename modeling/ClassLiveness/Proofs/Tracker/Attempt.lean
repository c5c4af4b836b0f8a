import ClassLiveness.Proofs.Tracker.Scenes

/-!
# How an attempt to track a class ends

Tracking a class is the one operation that touches the host, the supply of tags
and the registry together, and it can stop after every step.  `Tracker.Attempt`
lists its endings, each with the scene that it leaves behind, and there are no
others (`Tracker.track_ends`).  Whatever is to be known of tracking is read off
this list; for a list of classes it follows by induction (`Tracker.trackAll_ends`).
-/

set_option autoImplicit false

namespace ClassLiveness

variable {σ C S : Type}

/-- The tracking of a class is stopped in one of these ways: the host fails a call, the
class has a tag already, or the operation aborts. -/
def Stop.OfTracking : Stop → Prop
  | .error (.host ..) | .error (.duplicateClass _) | .abort _ => True
  | .error _ => False

/-- The scene with another supply of tags. -/
def Scene.supplied (scene : Scene σ C S) (tags : TagSupply) : Scene σ C S :=
  scene.changed fun tracker => { tracker with tags := tags }

/-- The scene with another registry. -/
def Scene.registered (scene : Scene σ C S) (registry : Registry) : Scene σ C S :=
  scene.changed fun tracker => { tracker with registry := registry }

namespace Tracker

open TrackerM

/-! ## The endings -/

/-- The check for duplicates lets a class pass, and leaves a scene. -/
inductive Screened (host : Host σ C S) (session : S) (handle : C) (before : Scene σ C S) :
    Scene σ C S → Prop where
  | unchecked : before.tracker.settings.checkDuplicates = false →
      Screened host session handle before before
  | untagged {state : σ} : before.tracker.settings.checkDuplicates = true →
      host.answer (.tagOf session handle) before.host = (.ok none, state) →
        Screened host session handle before (before.called (.tagOf session handle) none state)

/-- How an attempt to track a class ends, from a scene in which the tracker has a
session. -/
inductive Attempt (host : Host σ C S) (session : S) (handle : C) (before : Scene σ C S) :
    Except Stop Tag → Scene σ C S → Prop where
  /-- The host fails to say whether the class has a tag. -/
  | unscreened {failure : HostError} {state : σ} :
      before.tracker.settings.checkDuplicates = true →
      host.answer (.tagOf session handle) before.host = (.error failure, state) →
        Attempt host session handle before (.error (.error (.host .getTag failure)))
          (before.called (.tagOf session handle) (some failure) state)
  /-- The class has a tag already. -/
  | duplicate {tag : Tag} {state : σ} :
      before.tracker.settings.checkDuplicates = true →
      host.answer (.tagOf session handle) before.host = (.ok (some tag), state) →
        Attempt host session handle before (.error (.error (.duplicateClass tag)))
          (before.called (.tagOf session handle) none state)
  /-- There is no tag left. -/
  | exhausted {screened : Scene σ C S} {abort : Abort} :
      Screened host session handle before screened →
      screened.tracker.tags.allocate = .error abort →
        Attempt host session handle before (.error (.abort abort)) screened
  /-- The host fails to give the signature, and the tag is spent. -/
  | unnamed {screened : Scene σ C S} {tag : Tag} {tags : TagSupply} {failure : HostError}
      {state : σ} :
      Screened host session handle before screened →
      screened.tracker.tags.allocate = .ok (tag, tags) →
      host.answer (.signatureOf handle) screened.host = (.error failure, state) →
        Attempt host session handle before (.error (.error (.host .signature failure)))
          ((screened.supplied tags).called (.signatureOf handle) (some failure) state)
  /-- The host fails to hang the tag on the class, and the tag is spent. -/
  | untagged {screened : Scene σ C S} {tag : Tag} {tags : TagSupply} {signature : String}
      {named : σ} {failure : HostError} {state : σ} :
      Screened host session handle before screened →
      screened.tracker.tags.allocate = .ok (tag, tags) →
      host.answer (.signatureOf handle) screened.host = (.ok signature, named) →
      host.answer (.setTag session handle tag) named = (.error failure, state) →
        Attempt host session handle before (.error (.error (.host .setTag failure)))
          (((screened.supplied tags).called (.signatureOf handle) none named).called
            (.setTag session handle tag) (some failure) state)
  /-- The registry has a record with the tag already. -/
  | clash {screened : Scene σ C S} {tag : Tag} {tags : TagSupply} {signature : String}
      {named state : σ} {abort : Abort} :
      Screened host session handle before screened →
      screened.tracker.tags.allocate = .ok (tag, tags) →
      host.answer (.signatureOf handle) screened.host = (.ok signature, named) →
      host.answer (.setTag session handle tag) named = (.ok (), state) →
      screened.tracker.registry.push ⟨tag, signature⟩ = .error abort →
        Attempt host session handle before (.error (.abort abort))
          ((((screened.supplied tags).called (.signatureOf handle) none named).called
            (.setTag session handle tag) none state).written
              (.event (.classTracked tag signature)))
  /-- The class is tracked. -/
  | tracked {screened : Scene σ C S} {tag : Tag} {tags : TagSupply} {signature : String}
      {named state : σ} {registry : Registry} :
      Screened host session handle before screened →
      screened.tracker.tags.allocate = .ok (tag, tags) →
      host.answer (.signatureOf handle) screened.host = (.ok signature, named) →
      host.answer (.setTag session handle tag) named = (.ok (), state) →
      screened.tracker.registry.push ⟨tag, signature⟩ = .ok registry →
        Attempt host session handle before (.ok tag)
          (((((screened.supplied tags).called (.signatureOf handle) none named).called
            (.setTag session handle tag) none state).written
              (.event (.classTracked tag signature))).registered registry)

variable {host : Host σ C S} {session : S} {handle : C}

/-- The check for duplicates does nothing to the tracker. -/
theorem Screened.tracker_eq {before screened : Scene σ C S}
    (passed : Screened host session handle before screened) :
    screened.tracker = before.tracker := by
  cases passed <;> rfl

/-! ## There are no other endings -/

/-- Tracking a class, past the check for duplicates. -/
def trackScreened (host : Host σ C S) (session : S) (handle : C) : TrackerM σ C S Tag := do
  let tag ← takeTag
  let signature : String ← ask (host.request (.signatureOf handle))
  ask (host.request (.setTag session handle tag))
  emit (.classTracked tag signature)
  remember ⟨tag, signature⟩
  return tag

theorem track_apply {scene : Scene σ C S} (opened : scene.tracker.session = some session) :
    track host handle scene =
      (refuseDuplicate host session handle >>= fun _ => trackScreened host session handle)
        scene := by
  rw [track, bind_apply, requireSession_apply opened]
  rfl

/-- A scene passes the check for duplicates, or the attempt ends in it. -/
theorem refuseDuplicate_ends (host : Host σ C S) (session : S) (handle : C)
    (scene : Scene σ C S) :
    (refuseDuplicate host session handle).Ends scene
      (fun _ => Screened host session handle scene)
      (fun stop => Attempt host session handle scene (.error stop)) := by
  unfold refuseDuplicate
  refine Ends.current_bind ?_
  cases checked : scene.tracker.settings.checkDuplicates with
  | false =>
      exact .unchecked checked
  | true =>
      refine Ends.ask_bind (fun carried state told => ?_) fun failure state told =>
        .unscreened checked told
      cases carried with
      | none => exact .untagged checked told
      | some tag => exact .duplicate checked told

theorem takeTag_bind {α : Type} {scene : Scene σ C S} {second : Tag → TrackerM σ C S α}
    {returned : α → Scene σ C S → Prop} {stopped : Stop → Scene σ C S → Prop}
    (taken : ∀ tag tags, scene.tracker.tags.allocate = .ok (tag, tags) →
      (second tag).Ends (scene.supplied tags) returned stopped)
    (exhausted : ∀ abort, scene.tracker.tags.allocate = .error abort →
      stopped (.abort abort) scene) :
    (takeTag >>= second).Ends scene returned stopped := by
  have supplies : (takeTag).Ends scene
      (fun tag after => ∃ tags, scene.tracker.tags.allocate = .ok (tag, tags) ∧
        after = scene.supplied tags) stopped :=
    Ends.current_bind (Ends.orAbort_bind
      (fun allocated some => Ends.update_bind ⟨allocated.2, some, rfl⟩) exhausted)
  refine supplies.bind ?_
  rintro tag _ ⟨tags, some, rfl⟩
  exact taken tag tags some

theorem remember_bind {α : Type} {record : ClassRecord} {scene : Scene σ C S}
    {second : Unit → TrackerM σ C S α}
    {returned : α → Scene σ C S → Prop} {stopped : Stop → Scene σ C S → Prop}
    (pushed : ∀ registry, scene.tracker.registry.push record = .ok registry →
      (second ()).Ends (scene.registered registry) returned stopped)
    (refused : ∀ abort, scene.tracker.registry.push record = .error abort →
      stopped (.abort abort) scene) :
    (remember record >>= second).Ends scene returned stopped := by
  have registers : (remember record).Ends scene
      (fun _ after => ∃ registry, scene.tracker.registry.push record = .ok registry ∧
        after = scene.registered registry) stopped :=
    Ends.current_bind (Ends.orAbort_bind (fun registry some => ⟨registry, some, rfl⟩) refused)
  refine registers.bind ?_
  rintro _ _ ⟨registry, some, rfl⟩
  exact pushed registry some

/-- An attempt that has passed the check for duplicates ends in one of the later
ways. -/
theorem trackScreened_ends {before screened : Scene σ C S}
    (passed : Screened host session handle before screened) :
    (trackScreened host session handle).Ends screened
      (fun tag => Attempt host session handle before (.ok tag))
      (fun stop => Attempt host session handle before (.error stop)) := by
  unfold trackScreened
  refine takeTag_bind (fun tag tags taken => ?_) fun abort taken => .exhausted passed taken
  refine Ends.ask_bind (fun signature afterName named => ?_) fun failure state named =>
    .unnamed passed taken named
  refine Ends.ask_bind (fun _ afterTag tagged => ?_) fun failure state tagged =>
    .untagged passed taken named tagged
  refine Ends.emit_bind (remember_bind (fun registry pushed => ?_) fun abort pushed =>
    .clash passed taken named tagged pushed)
  exact .tracked passed taken named tagged pushed

/-- **An attempt to track a class ends in one of the listed ways.** -/
theorem track_ends {scene : Scene σ C S} (opened : scene.tracker.session = some session) :
    (track host handle).Ends scene
      (fun tag => Attempt host session handle scene (.ok tag))
      (fun stop => Attempt host session handle scene (.error stop)) :=
  Ends.congr (track_apply opened)
    ((refuseDuplicate_ends host session handle scene).bind fun _ _ passed =>
      trackScreened_ends passed)

/-! ## What no attempt changes -/

/-- An attempt to track a class changes the registry and the tags at most. -/
theorem Attempt.frame {before after : Scene σ C S} {result : Except Stop Tag}
    (attempt : Attempt host session handle before result after) :
    ∃ registry tags,
      after.tracker = { before.tracker with registry := registry, tags := tags } := by
  cases attempt with
  | unscreened => exact ⟨_, _, rfl⟩
  | duplicate => exact ⟨_, _, rfl⟩
  | exhausted passed | unnamed passed | untagged passed | clash passed | tracked passed =>
      rw [← passed.tracker_eq]
      exact ⟨_, _, rfl⟩

theorem Attempt.session_eq {before after : Scene σ C S} {result : Except Stop Tag}
    (attempt : Attempt host session handle before result after) :
    after.tracker.session = before.tracker.session := by
  obtain ⟨_, _, same⟩ := attempt.frame
  rw [same]

theorem Attempt.ofTracking {before after : Scene σ C S} {stop : Stop}
    (attempt : Attempt host session handle before (.error stop) after) : stop.OfTracking := by
  cases attempt <;> trivial

/-! ## A list of classes -/

theorem trackAll_cons (host : Host σ C S) (handle : C) (rest : List C) (scene : Scene σ C S) :
    trackAll host (handle :: rest) scene =
      (track host handle >>= fun _ => trackAll host rest) scene := rfl

/-- A list of classes is tracked one part after the other. -/
theorem trackAll_append (earlier later : List C) {scene middle : Scene σ C S}
    (tracked : trackAll host earlier scene = .ok () middle) :
    trackAll host (earlier ++ later) scene = trackAll host later middle := by
  induction earlier generalizing scene with
  | nil =>
      cases tracked
      rfl
  | cons handle rest ih =>
      rw [trackAll_cons, bind_apply] at tracked
      rw [List.cons_append, trackAll_cons, bind_apply]
      cases first : track host handle scene with
      | ok tag after =>
          rw [first] at tracked
          exact ih tracked
      | error stop after =>
          rw [first] at tracked
          cases tracked

/-- If the tracking of a list is stopped, it is stopped at one of the classes, after those
before it have been tracked. -/
theorem trackAll_error {handles : List C} {scene after : Scene σ C S} {stop : Stop}
    (stopped : trackAll host handles scene = .error stop after) :
    ∃ earlier handle later middle, handles = earlier ++ handle :: later ∧
      trackAll host earlier scene = .ok () middle ∧
      track host handle middle = .error stop after := by
  induction handles generalizing scene with
  | nil => cases stopped
  | cons handle rest ih =>
      rw [trackAll_cons, bind_apply] at stopped
      cases first : track host handle scene with
      | ok tag next =>
          rw [first] at stopped
          obtain ⟨earlier, failing, later, middle, rfl, tracked, failed⟩ := ih stopped
          refine ⟨handle :: earlier, failing, later, middle, rfl, ?_, failed⟩
          rw [trackAll_cons, bind_apply, first]
          exact tracked
      | error reason last =>
          rw [first] at stopped
          cases stopped
          exact ⟨[], handle, rest, scene, rfl, rfl, first⟩

/-- What every attempt that succeeds keeps, tracking a list of classes keeps; and
how an attempt may stop, so may the tracking of a list. -/
theorem trackAll_ends (Kept : Scene σ C S → Prop) (stopped : Stop → Scene σ C S → Prop)
    (keeps : ∀ scene handle tag after, scene.tracker.session = some session →
      Kept scene → Attempt host session handle scene (.ok tag) after → Kept after)
    (stops : ∀ scene handle stop after, scene.tracker.session = some session →
      Kept scene → Attempt host session handle scene (.error stop) after → stopped stop after)
    (handles : List C) {scene : Scene σ C S} (opened : scene.tracker.session = some session)
    (kept : Kept scene) :
    (trackAll host handles).Ends scene
      (fun _ after => after.tracker.session = some session ∧ Kept after) stopped := by
  induction handles generalizing scene with
  | nil => exact ⟨opened, kept⟩
  | cons handle rest ih =>
      have first : (track host handle).Ends scene
          (fun _ after => after.tracker.session = some session ∧ Kept after) stopped := by
        refine (track_ends opened).mono ?_ ?_
        · intro tag after attempt
          exact ⟨attempt.session_eq.trans opened, keeps scene handle tag after opened kept attempt⟩
        · intro stop after attempt
          exact stops scene handle stop after opened kept attempt
      exact first.bind fun _ _ keptAfter => ih keptAfter.1 keptAfter.2

/-- What every attempt keeps, however it ends, tracking a list of classes keeps, however it
ends. -/
theorem trackAll_keeps (Kept : Scene σ C S → Prop)
    (keeps : ∀ scene handle (result : Except Stop Tag) after,
      scene.tracker.session = some session → Kept scene →
        Attempt host session handle scene result after → Kept after)
    (handles : List C) {scene : Scene σ C S} (opened : scene.tracker.session = some session)
    (kept : Kept scene) :
    (trackAll host handles).Ends scene (fun _ after => Kept after) (fun _ after => Kept after) := by
  refine (trackAll_ends Kept (fun _ after => Kept after) ?_ ?_ handles opened kept).mono
    (fun _ _ both => both.2) (fun _ _ stopped => stopped)
  · intro now handle tag after openedNow keptNow attempt
    exact keeps now handle (.ok tag) after openedNow keptNow attempt
  · intro now handle stop after openedNow keptNow attempt
    exact keeps now handle (.error stop) after openedNow keptNow attempt

/-- Tracking a list of classes changes the registry and the tags at most. -/
theorem trackAll_frame (handles : List C) {scene : Scene σ C S}
    (opened : scene.tracker.session = some session) :
    (trackAll host handles).Ends scene
      (fun _ after => ∃ registry tags,
        after.tracker = { scene.tracker with registry := registry, tags := tags })
      (fun _ after => ∃ registry tags,
        after.tracker = { scene.tracker with registry := registry, tags := tags }) := by
  refine trackAll_keeps (fun now => ∃ registry tags,
    now.tracker = { scene.tracker with registry := registry, tags := tags }) ?_ handles opened
      ⟨_, _, rfl⟩
  rintro _ _ _ _ _ ⟨_, _, framed⟩ attempt
  obtain ⟨registry, tags, same⟩ := attempt.frame
  exact ⟨registry, tags, by rw [same, framed]⟩

/-- Tracking a list of classes stays in its session, and is stopped as an attempt is. -/
theorem trackAll_session (handles : List C) {scene : Scene σ C S}
    (opened : scene.tracker.session = some session) :
    (trackAll host handles).Ends scene
      (fun _ after => after.tracker.session = some session)
      (fun stop after => after.tracker.session = some session ∧ stop.OfTracking) := by
  refine (trackAll_ends (fun _ => True)
    (fun stop after => after.tracker.session = some session ∧ stop.OfTracking) ?_ ?_ handles opened
      trivial).mono (fun _ _ both => both.1) (fun _ _ stopped => stopped)
  · exact fun _ _ _ _ _ _ _ => trivial
  · intro _ _ _ _ openedNow _ attempt
    exact ⟨attempt.session_eq.trans openedNow, attempt.ofTracking⟩

end Tracker

end ClassLiveness

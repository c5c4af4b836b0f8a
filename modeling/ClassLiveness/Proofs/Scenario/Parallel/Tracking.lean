import ClassLiveness.Proofs.Scenario.Abreast
import ClassLiveness.Proofs.Tracker.Honesty

/-!
# Two trackers track classes

Tracking a class keeps two runs abreast (`Tracker.track_abreast`), and so does tracking a list
of them (`Tracker.trackAll_abreast`).  Each tracker takes the next tag of its own supply, and
the one is read as the other as long as it can be shifted without passing the limit
(`Tracker.trackScreened_abreast`).
-/

set_option autoImplicit false

namespace ClassLiveness

namespace Reading

variable {reading : Reading}

/-- Trackers stay alike if both take a tag. -/
theorem Trackers.supplied {first second : Tracker Nat} {tag tag' : Tag}
    {tags tags' : TagSupply} (alike : reading.Trackers first second)
    (taken : first.tags.allocate = .ok (tag, tags))
    (takenOther : second.tags.allocate = .ok (tag', tags')) :
    reading.Trackers { first with tags := tags } { second with tags := tags' } := by
  have count := (TagSupply.allocate_ok taken).2
  have countOther := (TagSupply.allocate_ok takenOther).2
  have before := alike.allocated
  refine ⟨alike.sound.spend taken, alike.soundOther.spend takenOther, alike.session,
    alike.tracked, ?_, alike.settings, alike.passes, alike.pendingUnloads, alike.poisoned⟩
  simp only
  omega

theorem Scenes.registered {first second : Scene Machine Nat Nat}
    (alike : reading.Scenes first second) {registry registry' : Registry}
    (trackers : reading.Trackers { first.tracker with registry := registry }
      { second.tracker with registry := registry' }) :
    reading.Scenes (first.registered registry) (second.registered registry') :=
  alike.changed trackers (.inl rfl)

end Reading

namespace Tracker

open Reading TrackerM

variable {reading : Reading} {first second : Scene Machine Nat Nat} {session : Nat}

/-! ## Tags and records -/

theorem takeTag_ok {σ C S : Type} {scene : Scene σ C S} {tag : Tag} {tags : TagSupply}
    (taken : scene.tracker.tags.allocate = .ok (tag, tags)) :
    (takeTag : TrackerM σ C S Tag) scene = .ok tag (scene.supplied tags) := by
  simp only [takeTag, bind_apply, current_apply, taken, orAbort, pure_apply, update,
    Scene.supplied, Scene.changed]

theorem takeTag_error {σ C S : Type} {scene : Scene σ C S} {abort : Abort}
    (exhausted : scene.tracker.tags.allocate = .error abort) :
    (takeTag : TrackerM σ C S Tag) scene = .error (.abort abort) scene := by
  simp only [takeTag, bind_apply, current_apply, exhausted, orAbort]
  rfl

theorem remember_ok {σ C S : Type} {scene : Scene σ C S} {record : ClassRecord}
    {registry : Registry} (pushed : scene.tracker.registry.push record = .ok registry) :
    (remember record : TrackerM σ C S Unit) scene = .ok () (scene.registered registry) := by
  simp only [remember, bind_apply, current_apply, pushed, orAbort, pure_apply, update,
    Scene.registered, Scene.changed]

/-- Tracking a class under a tag that has been taken. -/
def enrol {σ C S : Type} (host : Host σ C S) (session : S) (handle : C) (tag : Tag) :
    TrackerM σ C S Tag := do
  let signature : String ← ask (host.request (.signatureOf handle))
  ask (host.request (.setTag session handle tag))
  emit (.classTracked tag signature)
  remember ⟨tag, signature⟩
  return tag

theorem trackScreened_eq {σ C S : Type} (host : Host σ C S) (session : S) (handle : C) :
    trackScreened host session handle = takeTag >>= enrol host session handle := rfl

/-- No other tag is taken. -/
theorem enrol_tags {σ C S : Type} (host : Host σ C S) (session : S) (handle : C) (tag : Tag)
    (scene : Scene σ C S) :
    ((enrol host session handle tag).left scene).tracker.tags = scene.tracker.tags := by
  have ends : (enrol host session handle tag).Ends scene
      (fun _ after => after.tracker.tags = scene.tracker.tags)
      (fun _ after => after.tracker.tags = scene.tracker.tags) := by
    refine Ends.ask_bind (fun signature named _ => ?_) fun _ _ _ => rfl
    refine Ends.ask_bind (fun _ tagged _ => ?_) fun _ _ _ => rfl
    exact Ends.emit_bind (remember_bind (fun registry _ => rfl) fun _ _ => rfl)
  exact ends.left

/-! ## The steps of tracking a class -/

/-- The check for duplicates. -/
theorem refuseDuplicate_abreast (alike : reading.Scenes first second)
    (opened : first.tracker.session = some session) (handle : Nat) :
    Abreast reading (refuseDuplicate Machine.host session handle)
      (refuseDuplicate Machine.host (reading.session session) handle) first second
      (fun _ _ => True) := by
  unfold refuseDuplicate
  refine Abreast.current_bind ?_
  rw [alike.tracker.settings]
  cases first.tracker.settings.checkDuplicates with
  | false => exact .of_ok rfl rfl trivial alike
  | true =>
      refine Abreast.ask_bind rfl (alike.machine.looking opened handle) ?_ ?_
      · rintro carried _ machine machine' ⟨rfl, machines⟩
        have told := alike.called machines (.tagOf session handle) none
        cases carried with
        | none => exact .of_ok rfl rfl trivial told
        | some tag => exact .of_error (.error (.duplicateClass tag)) rfl rfl told
      · intro failure machine machine' machines
        exact alike.called machines (.tagOf session handle) (some failure)

/-- Both registries take a record. -/
theorem remember_bind_abreast {α : Type} {agree : α → α → Prop} {record record' : ClassRecord}
    {registry registry' : Registry} {next next' : Unit → TrackerM Machine Nat Nat α}
    (pushed : first.tracker.registry.push record = .ok registry)
    (pushedOther : second.tracker.registry.push record' = .ok registry')
    (onwards : Abreast reading (next ()) (next' ()) (first.registered registry)
      (second.registered registry') agree) :
    Abreast reading (remember record >>= next) (remember record' >>= next') first second agree := by
  refine .congr ?_ ?_ onwards
  · rw [bind_apply, remember_ok pushed]
  · rw [bind_apply, remember_ok pushedOther]

/-- The registry of a tracker takes a record of a tag. -/
def Accepts (tracker : Tracker Nat) (tag : Tag) : Prop :=
  ∀ signature, ∃ registry, tracker.registry.push ⟨tag, signature⟩ = .ok registry ∧
    registry.records = ⟨tag, signature⟩ :: tracker.tracked ∧
    ({ tracker with registry := registry } : Tracker Nat).Sound

/-- A class is tracked alike under a tag that both trackers have taken. -/
theorem enrol_abreast (alike : reading.Scenes first second)
    (opened : first.tracker.session = some session) (handle : Nat) {tag : Tag}
    (fits : reading.Fits tag) (accepts : Accepts first.tracker tag)
    (acceptsOther : Accepts second.tracker (reading.tag tag)) :
    Abreast reading (enrol Machine.host session handle tag)
      (enrol Machine.host (reading.session session) handle (reading.tag tag)) first second
      (fun tag tag' => tag' = reading.tag tag) := by
  unfold enrol
  refine Abreast.ask_bind rfl (alike.machine.naming handle) ?_ fun failure _ _ machines =>
    alike.called machines (.signatureOf handle) (some failure)
  rintro _ signature machine machine' ⟨rfl, machines⟩
  have named := alike.called machines (.signatureOf handle) none
  refine Abreast.ask_bind rfl (named.machine.tagging opened handle fits) ?_
    fun failure _ _ machines => named.called machines (.setTag session handle tag) (some failure)
  intro _ _ machine machine' machines
  have tagged := named.called machines (.setTag session handle tag) none
  have emitted := tagged.written (.event (.classTracked tag signature))
  refine Abreast.emit_bind ?_
  obtain ⟨registry, pushed, records, sound⟩ := accepts signature
  obtain ⟨registry', pushed', records', sound'⟩ := acceptsOther signature
  have before := alike.tracker
  have trackers : reading.Trackers { first.tracker with registry := registry }
      { second.tracker with registry := registry' } := by
    refine ⟨sound, sound', before.session, ?_, before.allocated, before.settings, before.passes,
      before.pendingUnloads, before.poisoned⟩
    change registry'.records = registry.records.map reading.record
    rw [records, records', before.tracked]
    rfl
  refine remember_bind_abreast pushed pushed' ?_
  exact .of_ok rfl rfl rfl (emitted.registered trackers)

/-! ## Tracking classes -/

theorem accepts_of_taken {tracker : Tracker Nat} {tag : Tag} {tags : TagSupply}
    (sound : tracker.Sound) (opened : tracker.session = some session)
    (taken : tracker.tags.allocate = .ok (tag, tags)) :
    Accepts { tracker with tags := tags } tag :=
  sound.push taken opened

theorem trackScreened_abreast (alike : reading.Scenes first second)
    (opened : first.tracker.session = some session) (handle : Nat) :
    Abreast reading (trackScreened Machine.host session handle)
      (trackScreened Machine.host (reading.session session) handle) first second
      (fun tag tag' => tag' = reading.tag tag) := by
  rw [trackScreened_eq, trackScreened_eq]
  have before := alike.tracker
  have allocated := before.allocated
  have bound := second.tracker.tags.allocated_le_limit
  have openedOther : second.tracker.session = some (reading.session session) := by
    rw [before.session, opened, Option.map_some]
  cases taken : first.tracker.tags.allocate with
  | error abort =>
      -- The first supply is at the limit, so nothing is shifted, and the second is there, too.
      obtain ⟨atLimit, rfl⟩ := TagSupply.allocate_error taken
      have notShifted : reading.shift = 0 := by omega
      have spent : second.tracker.tags.allocated = Tag.limit := by omega
      refine .of_error (.abort (.tagsExhausted first.tracker.tags.allocated)) ?_ ?_ alike
      · rw [bind_apply, takeTag_error taken]
      · rw [bind_apply, takeTag_error (second.tracker.tags.allocate_of_limit spent), ← spent,
          allocated]
        rfl
  | ok supplied =>
      obtain ⟨tag, tags⟩ := supplied
      obtain ⟨number, count⟩ := TagSupply.allocate_ok taken
      intro room
      have left : ((takeTag >>= enrol Machine.host session handle).left first).allocated =
          tags.allocated := by
        rw [left_bind (takeTag_ok taken)]
        exact congrArg TagSupply.allocated (enrol_tags Machine.host session handle tag _)
      rw [left] at room
      have fits : reading.Fits tag := by
        rw [Fits]
        omega
      have takenOther := second.tracker.tags.allocate_of_lt (by omega)
      have sameTag : (⟨second.tracker.tags.allocated + 1, Nat.succ_pos _, by omega⟩ : Tag) =
          reading.tag tag := by
        refine Tag.ext ?_
        rw [number_tag fits]
        simp only
        omega
      rw [sameTag] at takenOther
      have supplied : reading.Scenes (first.supplied tags) (second.supplied _) :=
        alike.changed (before.supplied taken takenOther) (.inl rfl)
      have enrolled := enrol_abreast supplied opened handle fits
        (accepts_of_taken before.sound opened taken)
        (accepts_of_taken before.soundOther openedOther takenOther)
      refine (enrolled.congr ?_ ?_) (by rwa [left])
      · rw [bind_apply, takeTag_ok taken]
      · rw [bind_apply, takeTag_ok takenOther]

/-- **Tracking a class keeps two runs abreast.** -/
theorem track_abreast (alike : reading.Scenes first second)
    (opened : first.tracker.session = some session) (handle : Nat) :
    Abreast reading (track Machine.host handle) (track Machine.host handle) first second
      (fun tag tag' => tag' = reading.tag tag) := by
  have openedOther : second.tracker.session = some (reading.session session) := by
    rw [alike.tracker.session, opened, Option.map_some]
  refine .congr (track_apply opened) (track_apply openedOther) ?_
  refine (refuseDuplicate_abreast alike opened handle).bind ?_ ?_
  · intro _ _ first' second' passed _ _ alike
    have screened := (refuseDuplicate_ends Machine.host session handle first).ok passed
    refine trackScreened_abreast alike ?_ handle
    rw [screened.tracker_eq]
    exact opened
  · intro _ first' _
    rw [trackScreened_eq]
    cases taken : first'.tracker.tags.allocate with
    | ok supplied =>
        rw [left_bind (takeTag_ok taken)]
        have left := enrol_tags Machine.host session handle supplied.1 (first'.supplied supplied.2)
        have count := (TagSupply.allocate_ok taken).2
        rw [Scene.allocated, Scene.allocated, left]
        change _ ≤ supplied.2.allocated
        omega
    | error abort =>
        rw [TrackerM.left, bind_apply, takeTag_error taken]

/-- The tags that are allocated stay allocated while classes are tracked. -/
theorem trackAll_left {scene : Scene Machine Nat Nat} (sound : scene.tracker.Sound)
    (opened : scene.tracker.session = some session) (handles : List Nat) :
    scene.allocated ≤ ((trackAll Machine.host handles).left scene).allocated := by
  have grows : (trackAll Machine.host handles).Ends scene
      (fun _ after => scene.allocated ≤ after.allocated)
      (fun _ after => scene.allocated ≤ after.allocated) := by
    refine (trackAll_grows Machine.host handles sound opened).mono ?_ ?_
    all_goals
      rintro _ after ⟨-, fresh, grown⟩
      have allocated := grown.allocated
      rw [Scene.allocated, Scene.allocated]
      omega
  exact grows.left

/-- **Tracking a list of classes keeps two runs abreast.** -/
theorem trackAll_abreast (handles : List Nat) (alike : reading.Scenes first second)
    (opened : first.tracker.session = some session) :
    Abreast reading (trackAll Machine.host handles) (trackAll Machine.host handles) first second
      (fun _ _ => True) := by
  induction handles generalizing first second with
  | nil => exact .of_ok rfl rfl trivial alike
  | cons handle rest ih =>
      refine .congr (trackAll_cons _ _ _ _) (trackAll_cons _ _ _ _) ?_
      refine (track_abreast alike opened handle).bind ?_ ?_
      · intro tag _ first' _ tracked _ _ alike
        exact ih alike (((track_ends opened).ok tracked).session_eq.trans opened)
      · intro tag first' tracked
        have attempt := (track_ends opened).ok tracked
        exact trackAll_left (attempt.bookkeeping alike.tracker.sound opened).2
          (attempt.session_eq.trans opened) rest

end Tracker

end ClassLiveness

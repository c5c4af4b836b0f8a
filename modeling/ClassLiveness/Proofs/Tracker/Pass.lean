import ClassLiveness.Proofs.Registry.Keeping
import ClassLiveness.Proofs.Tracker.Scenes

/-!
# How an unload pass ends

A pass asks the host about the tracked classes, and `Tracker.inquest` is what the
questions come to.  `Tracker.Inspection` lists the endings of a pass with the
scenes that they leave behind: there is no room for the report, a question fails,
or every question is answered and the dead are reported.  A registry that keeps
its records knows no other ending (`Tracker.pass_ends`).
-/

set_option autoImplicit false

namespace ClassLiveness

variable {σ C S : Type}

namespace Scene

/-- The scene after a sweep, with the registry that it leaves. -/
def swept (scene : Scene σ C S) (registry : Registry) (dialogue : Dialogue σ C S) :
    Scene σ C S :=
  { scene with
    tracker := { scene.tracker with registry := registry }
    dialogue := dialogue }

/-- The scene after dead records are put into a report. -/
def reported (scene : Scene σ C S) (records : List ClassRecord) : Scene σ C S :=
  { scene with
    trace := scene.trace ++
      records.map fun record => .event (.classUnloaded record.signature) }

/-- The scene after a pass is counted. -/
def concluded (scene : Scene σ C S) (pass : PassStats) : Scene σ C S :=
  (scene.changed fun tracker =>
    { tracker with pendingUnloads := 0, passes := tracker.passes.record pass }).written
      (.event (.passEnd pass.examined pass.unloaded))

end Scene

namespace Host

variable {host : Host σ C S} {session : S} {tag : Tag} {dialogue after : Dialogue σ C S}

/-- A question about a tag is answered by the number of its live holders. -/
theorem isLive_apply (host : Host σ C S) (session : S) (tag : Tag) (dialogue : Dialogue σ C S) :
    host.isLive session tag dialogue =
      match host.answer (.liveCount session tag) dialogue.host with
      | (.error failure, state) =>
          .error (.host .liveCount failure)
            ⟨state, dialogue.calls ++ [⟨.liveCount session tag, some failure⟩]⟩
      | (.ok 0, state) => .ok false ⟨state, dialogue.calls ++ [⟨.liveCount session tag, none⟩]⟩
      | (.ok 1, state) => .ok true ⟨state, dialogue.calls ++ [⟨.liveCount session tag, none⟩]⟩
      | (.ok extra, state) =>
          .error (.inconsistentTags tag extra)
            ⟨state, dialogue.calls ++ [⟨.liveCount session tag, none⟩]⟩ := by
  change (EStateM.bind (host.request (.liveCount session tag)) _ :
    HostM σ C S Bool) dialogue = _
  unfold EStateM.bind Host.request
  rcases host.answer (.liveCount session tag) dialogue.host with ⟨failure | _ | _ | extra, state⟩
  all_goals rfl

/-- A question is answered if there is at most one live holder. -/
theorem isLive_ok {live : Bool} (told : host.isLive session tag dialogue = .ok live after) :
    ∃ count, host.answer (.liveCount session tag) dialogue.host = (.ok count, after.host) ∧
      after.calls = dialogue.calls ++ [⟨.liveCount session tag, none⟩] ∧ count = live.toNat := by
  rw [isLive_apply] at told
  split at told
  · cases told
  · rename_i counted
    cases told
    exact ⟨0, counted, rfl, rfl⟩
  · rename_i counted
    cases told
    exact ⟨1, counted, rfl, rfl⟩
  · cases told

/-- A question that fails is one call, too. -/
theorem isLive_error {reason : TrackingError}
    (told : host.isLive session tag dialogue = .error reason after) :
    ∃ answer failure?,
      host.answer (.liveCount session tag) dialogue.host = (answer, after.host) ∧
      after.calls = dialogue.calls ++ [⟨.liveCount session tag, failure?⟩] := by
  rw [isLive_apply] at told
  split at told
  · rename_i counted
    cases told
    exact ⟨_, _, counted, rfl⟩
  · cases told
  · cases told
  · rename_i counted
    cases told
    exact ⟨_, _, counted, rfl⟩

/-- The error of a question that fails. -/
def IsVerdict (reason : TrackingError) : Prop :=
  (∃ failure, reason = .host .liveCount failure) ∨ ∃ tag count, reason = .inconsistentTags tag count

theorem isVerdict_of_isLive {reason : TrackingError}
    (failed : host.isLive session tag dialogue = .error reason after) : IsVerdict reason := by
  rw [isLive_apply] at failed
  split at failed
  · cases failed
    exact .inl ⟨_, rfl⟩
  · cases failed
  · cases failed
  · cases failed
    exact .inr ⟨_, _, rfl⟩

theorem IsVerdict.isUnrecoverable {reason : TrackingError} (verdict : IsVerdict reason) :
    reason.isUnrecoverable = true := by
  obtain ⟨failure, rfl⟩ | ⟨tag, count, rfl⟩ := verdict
  · rfl
  · rfl

end Host

namespace Tracker

open TrackerM Registry

/-- What the questions of a pass come to. -/
def inquest (tracker : Tracker S) (host : Host σ C S) (session : S) (dialogue : Dialogue σ C S) :
    Inquest TrackingError (Dialogue σ C S) :=
  inquire (host.isLive session) tracker.tracked dialogue

/-- How an unload pass ends. -/
inductive Inspection (host : Host σ C S) (session : S) (before : Scene σ C S) :
    Except Stop UnloadReport → Scene σ C S → Prop where
  /-- There is no room for the report. -/
  | overfull : UnloadReport.greatestCapacity < before.tracker.settings.outputCapacity →
      Inspection host session before (.error (.abort .capacityOverflow)) before
  /-- A question fails. -/
  | failed {reason : TrackingError} {registry : Registry} :
      before.tracker.settings.outputCapacity ≤ UnloadReport.greatestCapacity →
      (before.tracker.inquest host session before.dialogue).failure? = some reason →
      registry.Keeps ⟨(before.tracker.inquest host session before.dialogue).kept, []⟩ →
        Inspection host session before (.error (.error reason))
          ((before.swept registry
            (before.tracker.inquest host session before.dialogue).state).poisoned reason)
  /-- Every question is answered. -/
  | completed {registry : Registry} :
      before.tracker.settings.outputCapacity ≤ UnloadReport.greatestCapacity →
      (before.tracker.inquest host session before.dialogue).failure? = none →
      registry.Keeps ⟨(before.tracker.inquest host session before.dialogue).kept, []⟩ →
        Inspection host session before
          (.ok ⟨(before.tracker.inquest host session before.dialogue).dead.reverse.map
            ClassRecord.signature⟩)
          (((before.swept registry
            (before.tracker.inquest host session before.dialogue).state).reported
              (before.tracker.inquest host session before.dialogue).dead.reverse).concluded
                ⟨before.tracker.len,
                  (before.tracker.inquest host session before.dialogue).dead.length⟩)

theorem reportAll_apply (records : List ClassRecord) (report : UnloadReport)
    (scene : Scene σ C S) :
    (reportAll records report : TrackerM σ C S UnloadReport) scene =
      .ok ⟨report.signatures ++ records.map ClassRecord.signature⟩ (scene.reported records) := by
  induction records generalizing report scene with
  | nil =>
      rw [List.map_nil, List.append_nil, Scene.reported, List.map_nil, List.append_nil]
      rfl
  | cons record rest ih =>
      rw [reportAll, bind_apply, emit_apply]
      simp only [ih, UnloadReport.push, Scene.reported, Scene.written, List.map_cons,
        List.append_assoc, List.singleton_append]

/-- A sweep leaves the registry as the questions say. -/
theorem sweepDead_ends (host : Host σ C S) (session : S) {scene : Scene σ C S}
    (keeps : scene.tracker.registry.Keeps ⟨scene.tracker.tracked, []⟩) :
    (sweepDead host session).Ends scene
      (fun dead after => ∃ registry,
        (scene.tracker.inquest host session scene.dialogue).failure? = none ∧
        dead = (scene.tracker.inquest host session scene.dialogue).dead.reverse ∧
        registry.Keeps ⟨(scene.tracker.inquest host session scene.dialogue).kept, []⟩ ∧
        after = scene.swept registry (scene.tracker.inquest host session scene.dialogue).state)
      (fun stop after => ∃ reason registry,
        (scene.tracker.inquest host session scene.dialogue).failure? = some reason ∧
        stop = .error reason ∧
        registry.Keeps ⟨(scene.tracker.inquest host session scene.dialogue).kept, []⟩ ∧
        after = scene.swept registry
          (scene.tracker.inquest host session scene.dialogue).state) := by
  have swept := keeps.sweep (host.isLive session) scene.dialogue
  rw [inquest]
  cases failed : (inquire (host.isLive session) scene.tracker.tracked scene.dialogue).failure? with
  | none =>
      simp only [failed] at swept
      obtain ⟨drain, ended, keepsDrain⟩ := swept
      obtain ⟨registry, taken, keepsAfter⟩ := keepsDrain.takeAll
      rw [← kept_of_answered failed] at keepsAfter
      refine Ends.of_ok ?_ ⟨registry, rfl, rfl, keepsAfter, rfl⟩
      simp only [sweepDead, ended, taken, Scene.swept]
  | some reason =>
      simp only [failed] at swept
      obtain ⟨registry, ended, keepsAfter⟩ := swept
      refine Ends.of_error ?_ ⟨reason, registry, rfl, rfl, keepsAfter, rfl⟩
      simp only [sweepDead, ended, Scene.swept]

theorem isVerdict_of_inquest {host : Host σ C S} {session : S} {tracker : Tracker S}
    {dialogue : Dialogue σ C S} {reason : TrackingError}
    (failed : (tracker.inquest host session dialogue).failure? = some reason) :
    Host.IsVerdict reason := by
  have ends := inquire_ends (host.isLive session) tracker.tracked dialogue
    (fun _ => True) (fun reason _ => Host.IsVerdict reason) (fun _ _ _ _ _ _ => trivial)
    (fun _ _ _ _ _ failed => Host.isVerdict_of_isLive failed) trivial
  exact ends.2 reason failed

/-- The records that the questions of a pass leave were tracked before. -/
theorem sublist_of_inquest {host : Host σ C S} {session : S} {tracker : Tracker S}
    {dialogue : Dialogue σ C S} {registry : Registry}
    (keeps : registry.Keeps ⟨(tracker.inquest host session dialogue).kept, []⟩) :
    registry.records.Sublist tracker.tracked := by
  rw [keeps.records_eq]
  exact kept_sublist _ _ _

theorem withCapacity_ok {capacity : Nat} {room : UnloadReport}
    (made : UnloadReport.withCapacity capacity = .ok room) :
    capacity ≤ UnloadReport.greatestCapacity ∧ room = .empty := by
  unfold UnloadReport.withCapacity at made
  split at made
  · rename_i fits
    cases made
    exact ⟨fits, rfl⟩
  · cases made

theorem withCapacity_error {capacity : Nat} {abort : Abort}
    (refused : UnloadReport.withCapacity capacity = .error abort) :
    UnloadReport.greatestCapacity < capacity ∧ abort = .capacityOverflow := by
  unfold UnloadReport.withCapacity at refused
  split at refused
  · cases refused
  · rename_i full
    cases refused
    exact ⟨Nat.lt_of_not_le full, rfl⟩

theorem len_reverse (records : List ClassRecord) :
    (⟨records.reverse.map ClassRecord.signature⟩ : UnloadReport).len = records.length := by
  rw [UnloadReport.len, List.length_map, List.length_reverse]

/-- **A pass ends in one of the listed ways**, if the registry keeps the tracked
records. -/
theorem pass_ends (host : Host σ C S) (session : S) {scene : Scene σ C S}
    (keeps : scene.tracker.registry.Keeps ⟨scene.tracker.tracked, []⟩) :
    (pass host session).Ends scene
      (fun report => Inspection host session scene (.ok report))
      (fun stop => Inspection host session scene (.error stop)) := by
  unfold pass
  refine Ends.current_bind (Ends.orAbort_bind (fun room made => ?_) fun abort refused => ?_)
  · obtain ⟨fits, rfl⟩ := withCapacity_ok made
    have sweeps : (poisoning (sweepDead host session)).Ends scene
        (fun dead after => ∃ registry,
          (scene.tracker.inquest host session scene.dialogue).failure? = none ∧
          dead = (scene.tracker.inquest host session scene.dialogue).dead.reverse ∧
          registry.Keeps ⟨(scene.tracker.inquest host session scene.dialogue).kept, []⟩ ∧
          after = scene.swept registry (scene.tracker.inquest host session scene.dialogue).state)
        (fun stop => Inspection host session scene (.error stop)) := by
      refine Ends.poisoning ((sweepDead_ends host session keeps).mono (fun _ _ swept => swept) ?_)
      rintro _ _ ⟨reason, registry, failed, rfl, keepsAfter, rfl⟩
      simp only [Scene.settled, (isVerdict_of_inquest failed).isUnrecoverable, if_true]
      exact .failed fits failed keepsAfter
    refine sweeps.bind ?_
    rintro _ _ ⟨registry, answered, rfl, keepsAfter, rfl⟩
    refine Ends.result_bind (fun report after told => ?_) fun stop after told => ?_
    · rw [reportAll_apply] at told
      cases told
      have completed := Inspection.completed fits answered keepsAfter
      rw [← len_reverse] at completed
      exact Ends.update_bind (Ends.emit_bind completed)
    · rw [reportAll_apply] at told
      cases told
  · obtain ⟨full, rfl⟩ := withCapacity_error refused
    exact .overfull full

end Tracker

end ClassLiveness

import ClassLiveness.Proofs.Scenario.Abreast
import ClassLiveness.Proofs.Tracker.Pass

/-!
# Two trackers make passes

A pass keeps two runs abreast (`Tracker.pass_abreast`): the questions it asks come to the same
(`Reading.inquire`), so it finds the same records without a live holder, or fails in the same
place.  The slots of the registries play no part in this, as both keep the records in the
same order.
-/

set_option autoImplicit false

namespace ClassLiveness

/-! ## Questions -/

namespace Reading

open Registry

variable {reading : Reading} {held : Option Nat} {session : Nat}

/-- Two dialogues are alike to a tracker that is in a session. -/
structure Dialogues (reading : Reading) (held : Option Nat)
    (first second : Dialogue Machine Nat Nat) : Prop where
  machine : reading.Machines held first.host second.host
  calls : second.calls = first.calls.map reading.callRecord

/-- Two series of questions come to the same. -/
structure Inquests (reading : Reading) (held : Option Nat)
    (first second : Inquest TrackingError (Dialogue Machine Nat Nat)) : Prop where
  alive : second.alive = first.alive.map reading.record
  dead : second.dead = first.dead.map reading.record
  failure : second.failure? = first.failure?.map reading.error
  unexamined : second.unexamined = first.unexamined.map reading.record
  dialogue : reading.Dialogues held first.state second.state

theorem Inquests.kept {first second : Inquest TrackingError (Dialogue Machine Nat Nat)}
    (alike : reading.Inquests held first second) :
    second.kept = first.kept.map reading.record := by
  rw [Inquest.kept, Inquest.kept, List.map_append, alike.alive, alike.unexamined]

theorem Dialogues.counted {first second : Dialogue Machine Nat Nat}
    (alike : reading.Dialogues held first second) {machine machine' : Machine}
    (machines : reading.Machines held machine machine') (session : Nat) (tag : Tag)
    (failure? : Option HostError) :
    reading.Dialogues held ⟨machine, first.calls ++ [⟨.liveCount session tag, failure?⟩]⟩
      ⟨machine', second.calls ++
        [⟨.liveCount (reading.session session) (reading.tag tag), failure?⟩]⟩ := by
  refine ⟨machines, ?_⟩
  rw [alike.calls, List.map_append]
  rfl

/-- **The questions of two passes come to the same.** -/
theorem inquire (isHeld : held = some session) (records : List ClassRecord)
    (fits : ∀ record ∈ records, reading.Fits record.tag)
    {first second : Dialogue Machine Nat Nat} (alike : reading.Dialogues held first second) :
    reading.Inquests held (Registry.inquire (Machine.host.isLive session) records first)
      (Registry.inquire (Machine.host.isLive (reading.session session))
        (records.map reading.record) second) := by
  induction records generalizing first second with
  | nil => exact ⟨rfl, rfl, rfl, rfl, alike⟩
  | cons record rest ih =>
      have echo := alike.machine.counting isHeld (fits record List.mem_cons_self)
      have fitsRest : ∀ other ∈ rest, reading.Fits other.tag :=
        fun other member => fits other (List.mem_cons_of_mem _ member)
      simp only [Registry.inquire, List.map_cons, Reading.record, Host.isLive_apply]
      generalize Machine.host.answer (.liveCount session record.tag) first.host = answer at echo ⊢
      generalize Machine.host.answer (.liveCount (reading.session session)
        (reading.tag record.tag)) second.host = answer' at echo ⊢
      cases echo with
      | error machines => exact ⟨rfl, rfl, rfl, rfl, alike.counted machines _ _ _⟩
      | @ok _ count machine machine' answered =>
          obtain ⟨rfl, machines⟩ := answered
          have told := alike.counted machines session record.tag none
          have after := ih fitsRest told
          rcases count with _ | _ | extra
          · exact ⟨after.alive, congrArg (List.cons _) after.dead, after.failure, after.unexamined,
              after.dialogue⟩
          · exact ⟨congrArg (List.cons _) after.alive, after.dead, after.failure, after.unexamined,
              after.dialogue⟩
          · exact ⟨rfl, rfl, rfl, rfl, told⟩

end Reading

namespace Tracker

open Reading TrackerM

variable {reading : Reading} {first second : Scene Machine Nat Nat} {session : Nat}

/-! ## Passes -/

theorem inquest_alike (alike : reading.Scenes first second)
    (opened : first.tracker.session = some session) :
    reading.Inquests first.tracker.session
      (first.tracker.inquest Machine.host session first.dialogue)
      (second.tracker.inquest Machine.host (reading.session session) second.dialogue) := by
  rw [inquest, inquest, alike.tracker.tracked]
  exact inquire opened first.tracker.tracked (fun _ tracked => alike.tracker.fits tracked)
    ⟨alike.machine, alike.calls⟩

/-- Trackers stay alike with the registries that a sweep leaves. -/
theorem swept_alike (alike : reading.Scenes first second)
    (opened : first.tracker.session = some session) {registry registry' : Registry}
    (keeps : registry.Keeps
      ⟨(first.tracker.inquest Machine.host session first.dialogue).kept, []⟩)
    (keepsOther : registry'.Keeps
      ⟨(second.tracker.inquest Machine.host (reading.session session) second.dialogue).kept, []⟩) :
    reading.Scenes
      (first.swept registry (first.tracker.inquest Machine.host session first.dialogue).state)
      (second.swept registry'
        (second.tracker.inquest Machine.host (reading.session session) second.dialogue).state) := by
  have before := alike.tracker
  have inquests := inquest_alike alike opened
  refine ⟨⟨?_, ?_, before.session, ?_, before.allocated, before.settings, before.passes,
    before.pendingUnloads, before.poisoned⟩, inquests.dialogue.machine, inquests.dialogue.calls,
    alike.trace⟩
  · exact before.sound.shrink keeps (Registry.kept_sublist _ _ _) (Nat.le_refl _)
  · exact before.soundOther.shrink keepsOther (Registry.kept_sublist _ _ _) (Nat.le_refl _)
  · change registry'.records = registry.records.map reading.record
    rw [keeps.records_eq, keepsOther.records_eq, inquests.kept]

/-- The signatures of records are the same however they are read. -/
theorem signatures_read (reading : Reading) (records : List ClassRecord) :
    (records.map reading.record).map ClassRecord.signature =
      records.map ClassRecord.signature := by
  rw [List.map_map]
  rfl

theorem reported_alike (alike : reading.Scenes first second) (records : List ClassRecord) :
    reading.Scenes (first.reported records) (second.reported (records.map reading.record)) := by
  refine ⟨alike.tracker, alike.machine, alike.calls, ?_⟩
  simp only [Scene.reported, alike.trace, List.map_append, List.map_map]
  rfl

theorem concluded_alike (alike : reading.Scenes first second) (pass : PassStats) :
    reading.Scenes (first.concluded pass) (second.concluded pass) := by
  have before := alike.tracker
  have counted : reading.Scenes
      (first.changed fun tracker =>
        { tracker with pendingUnloads := 0, passes := tracker.passes.record pass })
      (second.changed fun tracker =>
        { tracker with pendingUnloads := 0, passes := tracker.passes.record pass }) := by
    refine alike.changed ⟨before.sound.congr rfl rfl rfl, before.soundOther.congr rfl rfl rfl,
      before.session, before.tracked, before.allocated, before.settings, ?_, rfl,
      before.poisoned⟩ (.inl rfl)
    simp only [before.passes, reading.passes_record]
  exact counted.written (.event (.passEnd pass.examined pass.unloaded))

/-- **Two passes end alike.** -/
theorem Inspection.alike {result result' : Except Stop UnloadReport}
    {after after' : Scene Machine Nat Nat} (alike : reading.Scenes first second)
    (opened : first.tracker.session = some session)
    (one : Inspection Machine.host session first result after)
    (other : Inspection Machine.host (reading.session session) second result' after') :
    result' = result.mapError reading.stop ∧ reading.Scenes after after' := by
  have inquests := inquest_alike alike opened
  have settings := alike.tracker.settings
  have failure := inquests.failure
  cases one with
  | overfull full =>
      rw [← settings] at full
      cases other with
      | overfull => exact ⟨rfl, alike⟩
      | failed fits => exact absurd fits (Nat.not_le_of_lt full)
      | completed fits => exact absurd fits (Nat.not_le_of_lt full)
  | @failed reason registry fits failed keeps =>
      rw [← settings] at fits
      rw [failed] at failure
      cases other with
      | overfull full => exact absurd fits (Nat.not_le_of_lt full)
      | @failed reason' registry' _ failed' keeps' =>
          obtain rfl : reason' = reading.error reason :=
            Option.some.inj (failed'.symm.trans failure)
          have swept := swept_alike alike opened keeps keeps'
          have unrecoverable := (isVerdict_of_inquest failed).isUnrecoverable
          have settled := swept.settled (.error reason)
          simp only [Reading.stop, Scene.settled, isUnrecoverable_error, unrecoverable, if_true]
            at settled
          exact ⟨rfl, settled⟩
      | completed _ answered => cases answered.symm.trans failure
  | @completed registry fits answered keeps =>
      rw [← settings] at fits
      rw [answered] at failure
      cases other with
      | overfull full => exact absurd fits (Nat.not_le_of_lt full)
      | failed _ failed => cases failed.symm.trans failure
      | @completed registry' _ _ keeps' =>
          have dead := inquests.dead
          have swept := swept_alike alike opened keeps keeps'
          refine ⟨?_, ?_⟩
          · rw [dead, ← List.map_reverse, signatures_read]
            rfl
          · rw [alike.tracker.len, dead, ← List.map_reverse, List.length_map]
            exact concluded_alike (reported_alike swept _) _

/-- **A pass keeps two runs abreast.** -/
theorem pass_abreast (alike : reading.Scenes first second)
    (opened : first.tracker.session = some session) :
    Abreast reading (pass Machine.host session) (pass Machine.host (reading.session session))
      first second (fun report report' => report' = report) := by
  have one : (pass Machine.host session).Ends first _ _ :=
    pass_ends Machine.host session alike.tracker.sound.keeps
  have other : (pass Machine.host (reading.session session)).Ends second _ _ :=
    pass_ends Machine.host (reading.session session) alike.tracker.soundOther.keeps
  intro _
  cases result : pass Machine.host session first with
  | ok report after =>
      cases resultOther : pass Machine.host (reading.session session) second with
      | ok report' after' =>
          obtain ⟨same, alikeAfter⟩ :=
            (one.ok result).alike alike opened (other.ok resultOther)
          exact .ok (Except.ok.inj same) alikeAfter
      | error stop' after' =>
          cases ((one.ok result).alike alike opened (other.error resultOther)).1
  | error stop after =>
      cases resultOther : pass Machine.host (reading.session session) second with
      | ok report' after' =>
          cases ((one.error result).alike alike opened (other.ok resultOther)).1
      | error stop' after' =>
          obtain ⟨same, alikeAfter⟩ :=
            (one.error result).alike alike opened (other.error resultOther)
          cases same
          exact .error alikeAfter

/-- The span of a pass counts the passes before it. -/
theorem passSpan_read (alike : reading.Scenes first second) :
    second.passSpan = reading.span first.passSpan := by
  rw [Scene.passSpan, Scene.passSpan, alike.tracker.passes, reading.completed_passes,
    alike.tracker.len, Reading.span]
  congr 1
  omega

theorem processUnloads_abreast (alike : reading.Scenes first second) :
    Abreast reading (processUnloads Machine.host) (processUnloads Machine.host) first second
      (fun report report' => report' = report) := by
  unfold processUnloads
  refine Abreast.requireUsable_bind alike (Abreast.requireSession_bind alike ?_)
  intro session opened _
  refine Abreast.current_bind ?_
  change Abreast reading (TrackerM.within first.passSpan _) (TrackerM.within second.passSpan _)
    first second _
  rw [passSpan_read alike]
  exact Abreast.within (pass_abreast (alike.written (.entered first.passSpan)) opened)

theorem processPendingUnloads_abreast (alike : reading.Scenes first second) :
    Abreast reading (processPendingUnloads Machine.host) (processPendingUnloads Machine.host)
      first second (fun report? report?' => report?' = report?) := by
  unfold processPendingUnloads
  refine Abreast.requireUsable_bind alike (Abreast.requireSession_bind alike ?_)
  intro session opened _
  refine Abreast.current_bind ?_
  rw [alike.tracker.pendingUnloads]
  split
  · exact .of_ok rfl rfl rfl alike
  · exact (processUnloads_abreast alike).map fun _ _ same => congrArg some same

end Tracker

end ClassLiveness

import ClassLiveness.Proofs.Scenario.Parallel.Passes
import ClassLiveness.Proofs.Scenario.Parallel.Tracking

/-!
# Commands to two trackers

Starting up, giving up and looking at a tracker keep two runs abreast as tracking and passes
do, and with them all commands (`Tracker.operation_abreast`).  The replies are read as one
another, save for the description, which is that of either tracker.
-/

set_option autoImplicit false

namespace ClassLiveness

namespace Tracker

open Reading TrackerM

variable {reading : Reading} {first second : Scene Machine Nat Nat}

/-! ## Starting up and giving up -/

/-- A tracker was emptied: nothing is tracked any more, and the tags, the settings and the
history of the passes are what they were. -/
structure Emptied (before after : Tracker Nat) : Prop where
  registry : after.registry = .empty
  tags : after.tags = before.tags
  settings : after.settings = before.settings
  passes : after.passes = before.passes

/-- Clearing the registry empties a tracker, whatever else is set. -/
theorem emptied_clear (tracker : Tracker Nat) (session : Option Nat) (pendingUnloads : Nat)
    (poisoned : Bool) :
    Emptied tracker
      { tracker with
        session := session
        registry := tracker.registry.clear
        pendingUnloads := pendingUnloads
        poisoned := poisoned } where
  registry := rfl
  tags := rfl
  settings := rfl
  passes := rfl

/-- Trackers that were alike and were emptied are alike if the rest is. -/
theorem emptied_alike {one other left right : Tracker Nat} (alike : reading.Trackers one other)
    (emptied : Emptied one left) (emptiedOther : Emptied other right)
    (session : right.session = left.session.map reading.session)
    (pendingUnloads : right.pendingUnloads = left.pendingUnloads)
    (poisoned : right.poisoned = left.poisoned) : reading.Trackers left right := by
  refine ⟨.of_empty emptied.registry, .of_empty emptiedOther.registry, session, ?_, ?_, ?_, ?_,
    pendingUnloads, poisoned⟩
  · rw [tracked_of_empty emptied.registry, tracked_of_empty emptiedOther.registry, List.map_nil]
  · rw [emptied.tags, emptiedOther.tags, alike.allocated]
  · rw [emptied.settings, emptiedOther.settings, alike.settings]
  · rw [emptied.passes, emptiedOther.passes, alike.passes]

theorem populate_abreast (alike : reading.Scenes first second)
    (closed : first.tracker.session = none) :
    Abreast reading (populate Machine.host) (populate Machine.host) first second
      (fun _ _ => True) := by
  have before := alike.tracker
  have machines := alike.machine
  rw [closed] at machines
  unfold populate
  refine Abreast.update_bind ?_
  have cleared : reading.Scenes
      (first.changed fun tracker => { tracker with registry := tracker.registry.clear })
      (second.changed fun tracker => { tracker with registry := tracker.registry.clear }) :=
    alike.changed (emptied_alike before (emptied_clear _ _ _ _) (emptied_clear _ _ _ _)
      before.session before.pendingUnloads before.poisoned) (.inl rfl)
  refine Abreast.ask_bind rfl machines.opening ?_ fun failure _ _ machines =>
    cleared.called (by rwa [Scene.changed, closed]) .openSession (some failure)
  rintro session _ machine machine' ⟨rfl, machines⟩
  refine Abreast.update_bind ?_
  have called := cleared.called (by rw [Scene.changed, closed]; exact machines.leave)
    .openSession none
  have opened : reading.Scenes
      (((first.changed fun tracker => { tracker with registry := tracker.registry.clear }).called
        .openSession none machine).opened session)
      (((second.changed fun tracker => { tracker with registry := tracker.registry.clear }).called
        .openSession none machine').opened (reading.session session)) :=
    ⟨emptied_alike before (emptied_clear _ _ _ _) (emptied_clear _ _ _ _) rfl
      before.pendingUnloads before.poisoned, machines, called.calls, called.trace⟩
  refine Abreast.ask_bind rfl machines.listing ?_ fun failure _ _ machines =>
    opened.called machines .loadedClasses (some failure)
  rintro _ enumerated listed listed' ⟨rfl, machines⟩
  have atListed := opened.called machines .loadedClasses none
  refine Abreast.current_bind ?_
  change Abreast reading
    (trackAll Machine.host (wanted first.tracker.settings.wantedStatus enumerated) >>= _)
    (trackAll Machine.host (wanted second.tracker.settings.wantedStatus enumerated) >>= _) _ _ _
  rw [before.settings]
  refine (trackAll_abreast _ atListed rfl).bind ?_ fun _ _ _ => Nat.le_refl _
  intro _ _ first' second' _ _ _ tracked
  refine Abreast.current_bind ?_
  rw [tracked.tracker.len]
  exact .of_ok rfl rfl trivial
    (tracked.written (.event (.initialized enumerated.length first'.tracker.len)))

theorem startUp_abreast (alike : reading.Scenes first second) :
    Abreast reading (startUp Machine.host) (startUp Machine.host) first second
      (fun _ _ => True) := by
  unfold startUp
  refine Abreast.requireUsable_bind alike (Abreast.current_bind ?_)
  rw [alike.tracker.isInitialized]
  cases initialized : first.tracker.isInitialized with
  | true => exact .of_error (.error .alreadyInitialized) rfl rfl alike
  | false =>
      have closed : first.tracker.session = none := Option.isSome_eq_false_iff.mp initialized |>
        Option.isNone_iff_eq_none.mp
      exact Abreast.within (Abreast.poisoning
        (populate_abreast (alike.written (.entered .startup)) closed))

theorem add_abreast (alike : reading.Scenes first second) (handle : Nat) :
    Abreast reading (add Machine.host handle) (add Machine.host handle) first second
      (fun tag tag' => tag' = reading.tag tag) := by
  unfold add
  refine Abreast.requireUsable_bind alike (Abreast.requireSession_bind alike ?_)
  intro session opened _
  exact Abreast.poisoning (track_abreast alike opened handle)

theorem noteUnloads_abreast (alike : reading.Scenes first second) (times : Nat) :
    Abreast reading (noteUnloads times) (noteUnloads times) first second
      (fun count count' => count' = count) := by
  have before := alike.tracker
  refine .of_ok (noteUnloads_apply times first) (noteUnloads_apply times second) ?_ ?_
  · rw [before.pendingUnloads]
  · refine alike.changed ⟨before.sound.congr rfl rfl rfl, before.soundOther.congr rfl rfl rfl,
      before.session, before.tracked, before.allocated, before.settings, before.passes, ?_,
      before.poisoned⟩ (.inl rfl)
    simp only [before.pendingUnloads]

theorem released_alike (alike : reading.Scenes first second) :
    reading.Scenes first.released second.released := by
  have emitted := alike.written (.event (.reset first.tracker.len))
  rw [Scene.released, Scene.released, alike.tracker.len]
  exact emitted.changed (emptied_alike alike.tracker (emptied_clear _ _ _ _)
    (emptied_clear _ _ _ _) rfl rfl rfl) (.inr rfl)

theorem reset_abreast (alike : reading.Scenes first second) :
    Abreast reading (reset Machine.host) (reset Machine.host) first second (fun _ _ => True) := by
  have released := released_alike alike
  unfold reset
  refine Abreast.current_bind (Abreast.emit_bind (Abreast.update_bind ?_))
  rw [alike.tracker.session]
  cases first.tracker.session with
  | none => exact .of_ok rfl rfl trivial released
  | some session =>
      refine Abreast.ask rfl (released.machine.closing session) ?_ ?_
      · intro _ _ _ _ machines
        exact ⟨trivial, released.called machines (.close session) none⟩
      · intro failure _ _ machines
        exact released.called machines (.close session) (some failure)

/-! ## Every command -/

theorem view_abreast (alike : reading.Scenes first second) {look look' : Tracker Nat → Reply}
    {agree : Reply → Reply → Prop} (agreed : agree (look first.tracker) (look' second.tracker)) :
    Abreast reading (view look) (view look') first second agree :=
  .of_ok rfl rfl agreed alike

/-- The replies to a command on two trackers agree: the one is read as the other, and a
description is that of the tracker. -/
inductive Replies (reading : Reading) (first second : Tracker Nat) :
    Command Nat → Reply → Reply → Prop where
  | read {command : Command Nat} {reply : Reply} : command ≠ .description →
      Replies reading first second command reply (reading.reply reply)
  | described :
      Replies reading first second .description (.text (some first.description))
        (.text (some second.description))

theorem Replies.of_eq {one other : Tracker Nat} {command : Command Nat} {reply reply' : Reply}
    (notDescription : command ≠ .description) (same : reply' = reading.reply reply) :
    Replies reading one other command reply reply' := by
  rw [same]
  exact .read notDescription

theorem isTracked_read {one other : Tracker Nat} (alike : reading.Trackers one other)
    {number : Nat} (fits : reading.NumberFits number) :
    (match Tag.ofNat? (reading.number number) with
      | some tag => Reply.truth (other.isTracked tag)
      | none => .nothing) =
      reading.reply (match Tag.ofNat? number with
        | some tag => Reply.truth (one.isTracked tag)
        | none => .nothing) := by
  rw [ofNat?_number fits]
  cases asTag : Tag.ofNat? number with
  | none => rfl
  | some tag => exact congrArg Reply.truth (alike.isTracked (fits_of_ofNat? fits asTag))

theorem signature_read {one other : Tracker Nat} (alike : reading.Trackers one other)
    {number : Nat} (fits : reading.NumberFits number) :
    (Tag.ofNat? (reading.number number)).bind other.signature? =
      (Tag.ofNat? number).bind one.signature? := by
  rw [ofNat?_number fits]
  cases asTag : Tag.ofNat? number with
  | none => rfl
  | some tag => exact alike.signature? (fits_of_ofNat? fits asTag)

/-- **Every command keeps two runs abreast.** -/
theorem operation_abreast (alike : reading.Scenes first second) {command : Command Nat}
    (fits : reading.CommandFits command) :
    Abreast reading (operation Machine.host command)
      (operation Machine.host (reading.command command)) first second
      (Replies reading first.tracker second.tracker command) := by
  cases command with
  | startUp => exact (startUp_abreast alike).map fun _ _ _ => .read nofun
  | add handle =>
      exact (add_abreast alike handle).map fun _ _ same => same ▸ .read nofun
  | noteUnloads times =>
      exact (noteUnloads_abreast alike times).map fun _ _ same => same ▸ .read nofun
  | processUnloads =>
      exact (processUnloads_abreast alike).map fun _ _ same => same ▸ .read nofun
  | processPendingUnloads =>
      refine (processPendingUnloads_abreast alike).bind ?_ ?_
      · intro report? report?' first' second' _ _ same alike
        rw [same]
        cases report? with
        | none => exact .of_ok rfl rfl (.read nofun) alike
        | some report => exact .of_ok rfl rfl (.read nofun) alike
      · intro report? _ _
        cases report? <;> exact Nat.le_refl _
  | reset => exact (reset_abreast alike).map fun _ _ _ => .read nofun
  | isTracked number =>
      refine view_abreast alike (.of_eq nofun ?_)
      exact isTracked_read alike.tracker fits
  | signature number =>
      refine view_abreast alike (.of_eq nofun ?_)
      exact congrArg Reply.text (signature_read alike.tracker fits)
  | tracked =>
      refine view_abreast alike (.of_eq nofun ?_)
      exact congrArg Reply.records alike.tracker.tracked
  | metrics =>
      refine view_abreast alike (.of_eq nofun ?_)
      exact congrArg Reply.metrics alike.tracker.metrics
  | settings =>
      refine view_abreast alike (.of_eq nofun ?_)
      exact congrArg Reply.settings alike.tracker.settings
  | description => exact view_abreast alike .described

end Tracker

end ClassLiveness

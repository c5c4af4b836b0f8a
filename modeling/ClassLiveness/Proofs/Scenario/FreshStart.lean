import ClassLiveness.Proofs.Scenario.Counterparts

/-!
# A reset is a fresh start

A tracker that was reset goes on with its tags and with the history of its passes, and with
nothing else.  So it is to a new tracker as a run is to its reading (`Reading.after`):
the tags are shifted by those handed out before, and the completed passes are counted from
those before.

A scenario with the one and a scenario with the other are twins (`Scenario.Twins`), and
stay so step by step (`Scenario.Twins.play`, `Scenario.Twins.playAll`).  Hence whatever is done
after a reset, in whichever state the tracker was, is answered as a new tracker would
(`Scenario.fresh_start`).
-/

set_option autoImplicit false

namespace ClassLiveness

/-- A history of passes with others before it. -/
def PassHistory.followedBy (before own : PassHistory) : PassHistory where
  totalUnloaded := own.totalUnloaded + before.totalUnloaded
  completed := own.completed + before.completed
  last := if own.completed = 0 then before.last else own.last

namespace Reading

/-- How the run of a new tracker is read, if a number of tags have been handed out and some
passes have completed before. -/
def after (allocated : Nat) (before : PassHistory) : Reading where
  shift := allocated
  session := id
  passes := before.followedBy
  earlier := before.completed
  completed_passes := fun _ => rfl
  passes_record := by
    intro own pass
    simp only [PassHistory.followedBy, PassHistory.record, Nat.succ_ne_zero, if_false,
      PassHistory.mk.injEq, and_true]
    exact ⟨Nat.add_right_comm _ _ _, Nat.add_right_comm _ _ _⟩

/-- The answers to a list of steps are read one by one. -/
inductive Transcripts (reading : Reading) :
    List Scenario.Step → List Scenario.Answer → List Scenario.Answer → Prop where
  | nil : Transcripts reading [] [] []
  | cons {step : Scenario.Step} {steps : List Scenario.Step} {answer answer' : Scenario.Answer}
      {answers answers' : List Scenario.Answer} : Answers reading step answer answer' →
      Transcripts reading steps answers answers' →
      Transcripts reading (step :: steps) (answer :: answers) (answer' :: answers')

end Reading

namespace Scenario

open Machine Tracker

variable {reading : Reading} {number : Nat}

/-- The tracker with a number is sound. -/
def SoundAt (scenario : Scenario) (number : Nat) : Prop :=
  ∀ lock, scenario.locks[number]? = some lock → lock.content.Sound

/-! ## Tags are not taken back -/

theorem SoundAt.play {scenario : Scenario} (sound : scenario.SoundAt number) (step : Step) :
    (scenario.play step).2.SoundAt number ∧
      scenario.allocatedBy number ≤ (scenario.play step).2.allocatedBy number := by
  cases step with
  | change => exact ⟨sound, Nat.le_refl _⟩
  | act other action =>
      cases found : scenario.locks[other]? with
      | none =>
          rw [play_of_none found]
          exact ⟨sound, Nat.le_refl _⟩
      | some lock =>
          have locks := locks_play found action number
          by_cases same : number = other
          · subst same
            rw [if_pos rfl] at locks
            have soundBefore := sound lock found
            have kept : (Scenario.act scenario.machine lock action).2.1.content.Sound ∧
                lock.content.tags.allocated ≤
                  (Scenario.act scenario.machine lock action).2.1.content.tags.allocated := by
              cases action with
              | command command reporting =>
                  obtain ⟨soundAfter, entry⟩ :=
                    soundBefore.perform Machine.host command scenario.machine
                  exact ⟨soundAfter, entry.allocated_le⟩
              | tryLock | rewrap | describeLock => exact ⟨soundBefore, Nat.le_refl _⟩
            refine ⟨?_, ?_⟩
            · intro left isThere
              cases locks.symm.trans isThere
              exact kept.1
            · rw [allocatedBy, allocatedBy, found, locks]
              exact kept.2
          · rw [if_neg same] at locks
            refine ⟨?_, ?_⟩
            · intro left isThere
              exact sound left (locks.symm.trans isThere)
            · rw [allocatedBy, allocatedBy, locks]

theorem SoundAt.allocatedBy_le {scenario : Scenario} (sound : scenario.SoundAt number)
    (steps : List Step) :
    scenario.allocatedBy number ≤ (scenario.playAll steps).2.allocatedBy number := by
  induction steps generalizing scenario with
  | nil => exact Nat.le_refl _
  | cons step rest ih =>
      obtain ⟨soundAfter, grown⟩ := sound.play step
      exact Nat.le_trans grown (ih soundAfter)

/-! ## Twins -/

/-- Two scenarios are counterparts, and have the same sessions open. -/
structure Twins (reading : Reading) (number : Nat) (first second : Scenario) : Prop where
  counterparts : Counterparts reading number first second
  sameOpen : ∀ session,
    second.machine.IsOpen (reading.session session) ↔ first.machine.IsOpen session
  heldOpen : ∀ session, first.sessionOf number = some session → first.machine.IsOpen session

theorem unclosedIn_read (reading : Reading) (calls : List (CallRecord Nat Nat)) :
    unclosedIn (calls.map reading.callRecord) = (unclosedIn calls).map reading.session := by
  rw [unclosedIn, List.filterMap_map, unclosedIn, List.map_filterMap]
  refine List.filterMap_congr fun record _ => ?_
  obtain ⟨call, failure?⟩ := record
  cases failure? with
  | none => rfl
  | some failure => cases call <;> rfl

namespace Counterparts

variable {first second : Scenario}

theorem soundAt (alike : Counterparts reading number first second) : first.SoundAt number := by
  intro lock isThere
  obtain ⟨_, _, trackers⟩ := alike.found isThere
  exact trackers.sound

end Counterparts

/-- Commands that use sessions alike leave the same sessions open. -/
theorem sameOpen_of_use (distinct : Function.Injective reading.session)
    {machine machine' left left' : Machine} {held holds : Option Nat}
    {made : List (CallRecord Nat Nat)} (used : SessionUse machine held holds left made)
    (usedOther : SessionUse machine' (held.map reading.session) (holds.map reading.session) left'
      (made.map reading.callRecord))
    (sameOpen : ∀ session, machine'.IsOpen (reading.session session) ↔ machine.IsOpen session)
    (heldOpen : ∀ session, held = some session → machine.IsOpen session) :
    (∀ session, left'.IsOpen (reading.session session) ↔ left.IsOpen session) ∧
      ∀ session, holds = some session → left.IsOpen session := by
  have among : ∀ (session? : Option Nat) (session : Nat),
      session?.map reading.session = some (reading.session session) ↔ session? = some session := by
    intro session? session
    rw [Option.map_eq_some_iff]
    refine ⟨?_, fun isThere => ⟨session, isThere, rfl⟩⟩
    rintro ⟨other, isThere, same⟩
    rw [isThere, distinct same]
  have heldOpenOther : ∀ session, held.map reading.session = some session →
      machine'.IsOpen session := by
    intro session isHeld
    obtain ⟨own, isOwn, rfl⟩ := Option.map_eq_some_iff.mp isHeld
    exact (sameOpen own).mpr (heldOpen own isOwn)
  refine ⟨fun session => ?_, fun session isHeld =>
    (used.isOpen_iff heldOpen session).mpr (.inl isHeld)⟩
  rw [used.isOpen_iff heldOpen, usedOther.isOpen_iff heldOpenOther, sameOpen, ne_eq, ne_eq,
    among, among, unclosedIn_read, List.mem_map_of_injective distinct]

namespace Twins

variable {first second : Scenario}

theorem act (twins : Twins reading number first second)
    (distinct : Function.Injective reading.session) {action : Action}
    (fits : reading.ActionFits action)
    (room : (first.play (.act number action)).2.allocatedBy number + reading.shift ≤ Tag.limit) :
    reading.Answers (.act number action) (first.play (.act number action)).1
        (second.play (.act number (reading.action action))).1 ∧
      Twins reading number (first.play (.act number action)).2
        (second.play (.act number (reading.action action))).2 := by
  have alike := twins.counterparts
  obtain ⟨answers, after⟩ := alike.act fits room
  cases isThere : first.locks[number]? with
  | none =>
      rw [play_of_none isThere, play_of_none (alike.nobody isThere)] at answers ⊢
      exact ⟨answers, twins⟩
  | some lock =>
      obtain ⟨lock', isThereOther, trackers⟩ := alike.found isThere
      have heldOpen := twins.heldOpen
      have machines := alike.machine
      rw [sessionOf, isThere] at heldOpen machines
      obtain ⟨-, -, machine, -⟩ := play_act isThere action
      obtain ⟨-, -, machine', -⟩ := play_act isThereOther (reading.action action)
      have here := locks_play isThere action number
      rw [if_pos rfl] at here
      rw [allocatedBy, here] at room
      obtain ⟨reports, trackersAfter, -⟩ := act_alike trackers machines fits room
      obtain ⟨-, -, used⟩ := sessionUse_act first.machine trackers.sound action
      obtain ⟨-, -, usedOther⟩ :=
        sessionUse_act second.machine trackers.soundOther (reading.action action)
      rw [trackers.session, trackersAfter.session, reports.calls] at usedOther
      obtain ⟨sameOpen, heldOpenAfter⟩ :=
        sameOpen_of_use distinct used usedOther twins.sameOpen heldOpen
      refine ⟨answers, ⟨after, ?_, ?_⟩⟩
      · rw [machine, machine']
        exact sameOpen
      · rw [sessionOf, here, machine]
        exact heldOpenAfter

/-- What somebody writes into a session is answered by whether the session is open. -/
theorem answers_change (twins : Twins reading number first second)
    (distinct : Function.Injective reading.session) {happened : Machine.Change}
    (fits : reading.StepFits (.change happened)) :
    reading.Answers (.change happened) (first.play (.change happened)).1
        (second.play (.change (reading.change happened))).1 ∧
      Counterparts reading number (first.play (.change happened)).2
        (second.play (.change (reading.change happened))).2 := by
  have alike := twins.counterparts
  cases happened with
  | writeTag session handle written =>
      refine ⟨?_, alike.trackers, alike.machine.writeTag distinct session handle fits⟩
      have same : second.machine.sessions.contains (reading.session session) =
          first.machine.sessions.contains session := by
        have isOpen := twins.sameOpen session
        rw [Machine.IsOpen, Machine.IsOpen, Std.TreeMap.mem_iff_contains,
          Std.TreeMap.mem_iff_contains] at isOpen
        exact Bool.eq_iff_iff.mpr isOpen
      simp only [Scenario.play, Reading.change, Machine.apply, same]
      exact .machine _
  | _ => exact alike.change (by simp)

/-- **A step of the tracker or a change is answered alike, and leaves twins.** -/
theorem play (twins : Twins reading number first second)
    (distinct : Function.Injective reading.session) {step : Step}
    (isFor : step.isFor number = true) (fits : reading.StepFits step)
    (room : (first.play step).2.allocatedBy number + reading.shift ≤ Tag.limit) :
    reading.Answers step (first.play step).1 (second.play (reading.step step)).1 ∧
      Twins reading number (first.play step).2 (second.play (reading.step step)).2 := by
  cases step with
  | act other action =>
      obtain rfl : other = number := of_decide_eq_true isFor
      exact twins.act distinct fits room
  | change happened =>
      obtain ⟨answers, after⟩ := twins.answers_change distinct fits
      have opened := sameSessions_apply first.machine happened
      have openedOther := sameSessions_apply second.machine (reading.change happened)
      refine ⟨answers, ⟨after, fun session => ?_, fun session isHeld => ?_⟩⟩
      · exact (openedOther.isOpen_iff _).trans
          ((twins.sameOpen session).trans (opened.isOpen_iff session).symm)
      · exact (opened.isOpen_iff session).mpr (twins.heldOpen session isHeld)

/-- **All steps of the tracker and all changes are answered alike.** -/
theorem playAll (twins : Twins reading number first second)
    (distinct : Function.Injective reading.session) {steps : List Step}
    (isFor : ∀ step ∈ steps, step.isFor number = true)
    (fits : ∀ step ∈ steps, reading.StepFits step)
    (room : (first.playAll steps).2.allocatedBy number + reading.shift ≤ Tag.limit) :
    reading.Transcripts steps (first.playAll steps).1
        (second.playAll (steps.map reading.step)).1 ∧
      Twins reading number (first.playAll steps).2
        (second.playAll (steps.map reading.step)).2 := by
  induction steps generalizing first second with
  | nil => exact ⟨.nil, twins⟩
  | cons step rest ih =>
      have sound := (twins.counterparts.soundAt.play step).1
      have grown := sound.allocatedBy_le rest
      obtain ⟨answers, after⟩ := twins.play distinct (isFor step List.mem_cons_self)
        (fits step List.mem_cons_self) (Nat.le_trans (Nat.add_le_add_right grown _) room)
      obtain ⟨transcripts, last⟩ := ih after
        (fun other member => isFor other (List.mem_cons_of_mem _ member))
        (fun other member => fits other (List.mem_cons_of_mem _ member)) room
      exact ⟨.cons answers transcripts, last⟩

end Twins

/-! ## Resets -/

/-- The scenario with another tracker under a number. -/
def withTracker (scenario : Scenario) (number : Nat) (tracker : Tracker Nat) : Scenario :=
  { scenario with locks := scenario.locks.setIfInBounds number (.guarding tracker) }

/-- A reset takes one of its courses, whichever the tracker. -/
theorem perform_reset_course (tracker : Tracker Nat) (machine : Machine) :
    ∃ after : Scene Machine Nat Nat,
      tracker.perform Machine.host .reset machine =
        ⟨(tracker.perform Machine.host .reset machine).result, after.tracker, after.host,
          after.calls, after.trace⟩ ∧
      Course Machine.host (.start tracker machine) .reset
        (tracker.perform Machine.host .reset machine).result after :=
  perform_course_of_ends ((reset_course Machine.host _).bind fun _ _ course => course)

/-- A reset leaves the tracker released and the machine without an override, whatever becomes
of the session. -/
theorem perform_reset (tracker : Tracker Nat) {machine : Machine} (lawful : machine.IsLawful) :
    (tracker.perform Machine.host .reset machine).tracker =
        (Scene.start tracker machine : Scene Machine Nat Nat).released.tracker ∧
      (tracker.perform Machine.host .reset machine).host.IsLawful := by
  obtain ⟨after, outcome, course⟩ := perform_reset_course tracker machine
  rw [outcome]
  generalize (tracker.perform Machine.host .reset machine).result = result at course
  refine ⟨course.tracker_of_reset, ?_⟩
  have closing : ∀ session, (Machine.host.answer (.close session)
      (Scene.start tracker machine : Scene Machine Nat Nat).host).2.IsLawful :=
    fun session => isLawful_answer (.close session) lawful
  cases course with
  | refused refuses => exact absurd rfl refuses.ne_reset
  | viewed notReset => exact absurd rfl notReset
  | passed isPass => simp at isPass
  | unpassed isPass => simp at isPass
  | resetUnopened => exact lawful
  | @resetClosed session _ _ answered | @resetUnclosed session _ _ _ answered =>
      have after := closing session
      rw [answered] at after
      exact after

/-- A tracker that was reset is alike to a new one. -/
theorem trackers_of_reset (tracker : Tracker Nat) (machine : Machine) :
    (Reading.after tracker.tags.allocated tracker.passes).Trackers (.new tracker.settings)
      (Scene.start tracker machine : Scene Machine Nat Nat).released.tracker := by
  have none : (Tracker.new tracker.settings : Tracker Nat).tracked = [] := tracked_of_empty rfl
  have none' : (Scene.start tracker machine : Scene Machine Nat Nat).released.tracker.tracked =
    [] := tracked_of_empty rfl
  refine ⟨.of_empty rfl, .of_empty rfl, rfl, ?_, ?_, rfl, ?_, rfl, rfl⟩
  · rw [none, none', List.map_nil]
  · exact (Nat.zero_add _).symm
  · change tracker.passes = tracker.passes.followedBy .empty
    simp only [PassHistory.followedBy, PassHistory.empty, Nat.zero_add, if_true]

/-- A machine without overridden counts is alike to itself, whatever the tags are shifted by. -/
theorem machines_self {machine : Machine} (lawful : machine.IsLawful) (allocated : Nat)
    (before : PassHistory) : (Reading.after allocated before).Machines none machine machine := by
  refine ⟨rfl, rfl, rfl, fun other _ => ?_, fun _ => rfl, nofun, nofun⟩
  rw [lawful, lawful]

/-- Taking its own lock changes nothing of a scenario. -/
theorem withTracker_self {scenario : Scenario} {tracker : Tracker Nat}
    (found : scenario.locks[number]? = some (.guarding tracker)) :
    scenario.withTracker number tracker = scenario := by
  have same : scenario.locks.setIfInBounds number (.guarding tracker) = scenario.locks := by
    refine Array.ext_getElem? fun other => ?_
    rw [Array.getElem?_setIfInBounds]
    split
    · rename_i isNumber
      rw [← isNumber, found, if_pos (Array.getElem?_eq_some_iff.mp found).1]
    · rfl
  rw [withTracker, same]

/-- A reset of a tracker without a session makes no call. -/
theorem perform_reset_of_closed {tracker : Tracker Nat} (closed : tracker.session = none)
    (machine : Machine) :
    tracker.perform Machine.host .reset machine =
      ⟨.ok .done, (Scene.start tracker machine : Scene Machine Nat Nat).released.tracker, machine,
        [], [.event (.reset tracker.len)]⟩ := by
  obtain ⟨after, outcome, course⟩ := perform_reset_course tracker machine
  rw [outcome]
  generalize (tracker.perform Machine.host .reset machine).result = result at course
  cases course with
  | refused refuses => exact absurd rfl refuses.ne_reset
  | viewed notReset => exact absurd rfl notReset
  | passed isPass => simp at isPass
  | unpassed isPass => simp at isPass
  | resetUnopened => rfl
  | resetClosed held => cases closed.symm.trans held
  | resetUnclosed held => cases closed.symm.trans held

/-- The scenario with a new tracker in the place of one that was reset, and the one in which it
was reset, are twins. -/
theorem twins_of_reset {scenario : Scenario} {lock : HandlerLock (Tracker Nat)}
    (found : scenario.locks[number]? = some lock) (lawful : scenario.machine.IsLawful)
    (reporting : Bool) :
    let reset := (scenario.play (.act number (.command .reset reporting))).2
    Twins (Reading.after lock.content.tags.allocated lock.content.passes) number
      (reset.withTracker number (.new lock.content.settings)) reset := by
  intro reset
  obtain ⟨tracker, machine⟩ := perform_reset lock.content lawful
  obtain ⟨-, -, machineAfter, -⟩ := play_act found (.command .reset reporting)
  have here := locks_play found (.command .reset reporting) number
  rw [if_pos rfl] at here
  have inside : number < reset.locks.size := (Array.getElem?_eq_some_iff.mp here).1
  have hereFresh : (reset.withTracker number (.new lock.content.settings)).locks[number]? =
      some (.guarding (.new lock.content.settings)) := by
    simp only [withTracker, Array.getElem?_setIfInBounds_self_of_lt inside]
  refine ⟨⟨?_, ?_⟩, fun session => Iff.rfl, ?_⟩
  · rw [hereFresh, here]
    refine .some ?_
    change (Reading.after _ _).Trackers _
      (lock.content.perform Machine.host .reset scenario.machine).tracker
    rw [tracker]
    exact trackers_of_reset lock.content scenario.machine
  · rw [sessionOf, hereFresh]
    refine machines_self ?_ _ _
    change reset.machine.IsLawful
    rw [machineAfter]
    exact machine
  · intro session held
    rw [sessionOf, hereFresh] at held
    cases held

/-- A reset of a tracker that was reset makes no call and changes nothing. -/
theorem play_reset_of_released {scenario : Scenario} {scene : Scene Machine Nat Nat}
    (found : scenario.locks[number]? = some (.guarding scene.released.tracker))
    (reporting : Bool) :
    scenario.play (.act number (.command .reset reporting)) =
      (.tracker ⟨.value .done, [], [.event (.reset 0)], scene.released.tracker⟩, scenario) := by
  have closed : scene.released.tracker.session = none := rfl
  have performed := perform_reset_of_closed closed scenario.machine
  have kept : scenario.withTracker number scene.released.tracker = scenario :=
    withTracker_self found
  simp only [play, found, Scenario.act, HandlerLock.withLock, HandlerLock.guarding, runCommand,
    performed]
  exact congrArg (Prod.mk _) kept

/-- **After a reset a tracker behaves as a new one**, with the tags and the history of the
passes continued: whatever steps follow, with the tracker and with the machine, they are
answered as those of a new tracker in its place, read with the tags shifted by those handed
out before, and leave a twin of it.  It does not matter in which state the tracker was, or
whether the machine has closed its session.  A second reset makes no call and changes
nothing. -/
theorem fresh_start {scenario : Scenario} {lock : HandlerLock (Tracker Nat)}
    (found : scenario.locks[number]? = some lock) (lawful : scenario.machine.IsLawful)
    (reporting : Bool) (steps : List Step) :
    let reset := (scenario.play (.act number (.command .reset reporting))).2
    let fresh := reset.withTracker number (.new lock.content.settings)
    let reading := Reading.after lock.content.tags.allocated lock.content.passes
    ((∀ step ∈ steps, step.isFor number = true) → (∀ step ∈ steps, reading.StepFits step) →
      (fresh.playAll steps).2.allocatedBy number + reading.shift ≤ Tag.limit →
      reading.Transcripts steps (fresh.playAll steps).1
          (reset.playAll (steps.map reading.step)).1 ∧
        Twins reading number (fresh.playAll steps).2
          (reset.playAll (steps.map reading.step)).2) ∧
      ∃ tracker, reset.locks[number]? = some (.guarding tracker) ∧
        ∀ again, reset.play (.act number (.command .reset again)) =
          (.tracker ⟨.value .done, [], [.event (.reset 0)], tracker⟩, reset) := by
  intro reset fresh reading
  constructor
  · intro isFor fits room
    exact (twins_of_reset found lawful reporting).playAll Function.injective_id isFor fits room
  · have here := locks_play found (.command .reset reporting) number
    rw [if_pos rfl] at here
    have hereReset : reset.locks[number]? = some (.guarding
        (Scene.start lock.content scenario.machine : Scene Machine Nat Nat).released.tracker) := by
      rw [← (perform_reset lock.content lawful).1]
      exact here
    exact ⟨_, hereReset, play_reset_of_released hereReset⟩

/-- A tracker of one class, on a machine that will not close its session. -/
def unclosable : Scenario :=
  ((Scenario.new 1 .default).playAll
    [.change (.load "LFirst;" (.ofFlag .prepared)), .act 0 (.command .startUp false),
      .change (.setFault .closeSession ⟨⟨.internal, "busy"⟩, 0, none⟩)]).2

theorem isSome_unclosable : unclosable.locks[0]?.isSome = true := by decide +kernel

/-- The class is tagged and tracked again after the reset that has failed, as by a new tracker
but with the second tag. -/
theorem retracked_of_unclosed :
    let lock := unclosable.locks[0]?.get isSome_unclosable
    let steps : List Step := [.act 0 (.command .startUp false), .change (.writeTag 1 0 0)]
    let reset := (unclosable.play (.act 0 (.command .reset false))).2
    let reading := Reading.after lock.content.tags.allocated lock.content.passes
    reading.Transcripts steps ((reset.withTracker 0 (.new lock.content.settings)).playAll steps).1
        (reset.playAll (steps.map reading.step)).1 ∧
      (lock.content.perform Machine.host .reset unclosable.machine).result =
        .error (.error (.host .closeSession ⟨.internal, "busy"⟩)) ∧
      (reset.playAll (steps.map reading.step)).2.trackers.map (fun tracker => tracker.tracked) =
        [[⟨⟨2, by decide, by decide⟩, "LFirst;"⟩]] := by
  intro lock steps reset reading
  have found : unclosable.locks[0]? = some lock := (Option.some_get isSome_unclosable).symm
  have hosting : Hosting sharedContract unclosable.trackers unclosable.machine :=
    hosting_playAll (hosting_new 1 .default) _ (by decide)
  have written : reading.NumberFits 0 := fun _ => by decide +kernel
  have fits : ∀ step ∈ steps, reading.StepFits step :=
    List.forall_mem_cons.mpr ⟨trivial, List.forall_mem_singleton.mpr written⟩
  have renewed := (fresh_start found hosting.hosted.lawful.1 false steps).1 (by decide) fits
    (by decide +kernel)
  exact ⟨renewed.1, by decide +kernel, by decide +kernel⟩

end Scenario

end ClassLiveness

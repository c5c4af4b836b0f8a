import ClassLiveness.Proofs.Scenario.Beside
import ClassLiveness.Proofs.Scenario.Renumbering

/-!
# Trackers do not interfere

What one tracker does leaves the machine to the others as it was, but for the number of the
next session.  So a tracker that acts alone and one that acts among others stay counterparts,
if the sessions that the first has not opened yet are renumbered whenever another opens one
(`Scenario.Counterparts.skip`).

Hence the answers of one tracker are the same, up to the numbers of its sessions, if the others
do not act at all (`Scenario.no_interference`).
-/

set_option autoImplicit false

namespace ClassLiveness

namespace Reading.Machines

open Machine

variable {renumber : Nat → Nat} {held : Option Nat} {first second after : Machine}

/-- What happens beside a tracker on the second machine leaves the machines alike, if the
sessions that are not opened yet are renumbered anew. -/
theorem beside (alike : (renumbering renumber).Machines held first second)
    (beside : Beside (held.map renumber) second after)
    (below : ∀ session, held = some session → session < first.opened) :
    (renumbering (renumberedFrom first.opened after.opened renumber)).Machines held first
      after := by
  refine ⟨beside.classes.trans alike.classes, beside.faults.trans alike.faults,
    beside.enumeration.trans alike.enumeration, ?_, renumberedFrom_add _ _ _, ?_, ?_⟩
  · rw [beside.holders]
    exact alike.holders
  · intro session isHeld
    have same : renumberedFrom first.opened after.opened renumber session = renumber session :=
      renumberedFrom_below (below session isHeld)
    change after.given (renumberedFrom first.opened after.opened renumber session) = _
    rw [same, beside.given _ (by rw [isHeld]; rfl)]
    exact alike.given session isHeld
  · exact fun _ _ _ tag _ => tag.number_le_limit

end Reading.Machines

namespace Scenario

open Machine Reading

/-! ## Deleting the steps of the others -/

/-- A step that neither writes a tag into a session nor sets a fault that counts the calls. -/
def Step.isSteady : Step → Bool
  | .change (.writeTag ..) => false
  | .change (.setFault _ fault) => decide fault.IsSteady
  | _ => true

/-! ## A step -/

variable {renumber : Nat → Nat} {number : Nat} {first second : Scenario}
  {calls : List (CallRecord Nat Nat)}

/-- **What is done with a tracker leaves the machine to another as it was.** -/
theorem act_beside {scenario : Scenario}
    (orderly : Orderly scenario.trackers scenario.machine calls)
    (steady : scenario.machine.IsSteady) {other : Nat} {lock : HandlerLock (Tracker Nat)}
    (found : scenario.locks[other]? = some lock) (action : Action) {session? : Option Nat}
    (elsewhere : ∀ session, session? = some session →
      HeldElsewhere scenario.trackers other session) :
    Beside session? scenario.machine (scenario.play (.act other action)).2.machine := by
  obtain ⟨isThere, -, machine, -⟩ := play_act found action
  rw [machine]
  cases action with
  | command command reporting =>
      refine Tracker.perform_beside (orderly.sound _ (List.mem_of_getElem? isThere)) steady
        orderly.isNumbered (fun session held => ?_) (fun session held own => ?_) command
      · exact (orderly.isOpen_iff session).mpr
          (.inl ((held_iff isThere session).mpr (.inr (elsewhere session held))))
      · exact orderly.not_heldElsewhere isThere own (elsewhere session held)
  | tryLock | rewrap | describeLock => exact .refl _ _

/-- A steady step leaves the machine steady. -/
theorem isSteady_play {scenario : Scenario}
    (orderly : Orderly scenario.trackers scenario.machine calls)
    (steady : scenario.machine.IsSteady) {step : Step} (isSteady : step.isSteady = true) :
    (scenario.play step).2.machine.IsSteady := by
  cases step with
  | act other action =>
      cases found : scenario.locks[other]? with
      | none =>
          rw [play_of_none found]
          exact steady
      | some lock =>
          have beside : Beside none scenario.machine _ :=
            act_beside orderly steady found action nofun
          exact steady.of_faults_eq beside.faults
  | change happened =>
      change (scenario.machine.apply happened).2.IsSteady
      cases happened with
      | writeTag => cases isSteady
      | setFault op fault =>
          refine steady.withFault op (some fault) ?_
          rintro _ ⟨⟩
          exact of_decide_eq_true isSteady
      | heal op => exact steady.withFault op none nofun
      | setHolders number count => cases count <;> exact steady
      | loadMany stem count status =>
          simp only [Machine.apply]
          rw [loadMany_eq]
          exact steady
      | load | unload | reload | unloadEvery | rename | setStatus | setEnumeration => exact steady

/-- The session of a tracker is that of the tracker in the list. -/
theorem mem_trackers_of_sessionOf {scenario : Scenario} {session : Nat}
    (held : scenario.sessionOf number = some session) :
    ∃ tracker, scenario.trackers[number]? = some tracker ∧ tracker.session = some session := by
  obtain ⟨lock, found, isHeld⟩ := Option.bind_eq_some_iff.mp held
  exact ⟨lock.content, getElem?_trackers found, isHeld⟩

/-- The session of a tracker is one that was opened. -/
theorem Orderly.sessionOf_lt {scenario : Scenario}
    (orderly : Orderly scenario.trackers scenario.machine calls) {session : Nat}
    (held : scenario.sessionOf number = some session) : session < scenario.machine.opened := by
  obtain ⟨tracker, found, isHeld⟩ := mem_trackers_of_sessionOf held
  exact orderly.lt_opened ⟨tracker, List.mem_of_getElem? found, isHeld⟩

theorem Counterparts.sessionOf_eq {reading : Reading}
    (alike : Counterparts reading number first second) :
    second.sessionOf number = (first.sessionOf number).map reading.session := by
  cases isThere : first.locks[number]? with
  | none =>
      rw [sessionOf, sessionOf, isThere, alike.nobody isThere]
      rfl
  | some lock =>
      obtain ⟨lock', isThereOther, trackers⟩ := alike.found isThere
      rw [sessionOf, sessionOf, isThere, isThereOther]
      exact trackers.session

/-- What another tracker does in the second scenario only shifts the numbers of the sessions
that are not opened yet. -/
theorem Counterparts.aside (alike : Counterparts (renumbering renumber) number first second)
    (orderly : Orderly first.trackers first.machine calls) {callsOther : List (CallRecord Nat Nat)}
    (orderlyOther : Orderly second.trackers second.machine callsOther)
    (steady : second.machine.IsSteady) {other : Nat} (different : other ≠ number)
    {lock : HandlerLock (Tracker Nat)} (found : second.locks[other]? = some lock)
    (action : Action) :
    Counterparts (renumbering (renumberedFrom first.machine.opened
      (second.play (.act other action)).2.machine.opened renumber)) number first
      (second.play (.act other action)).2 := by
  have below : ∀ session, first.sessionOf number = some session →
      session < first.machine.opened := fun _ held => orderly.sessionOf_lt held
  refine ⟨?_, alike.machine.beside ?_ below⟩
  · rw [locks_play found action number, if_neg (Ne.symm different)]
    cases isThere : first.locks[number]? with
    | none =>
        rw [alike.nobody isThere]
        exact .none
    | some own =>
        obtain ⟨own', isThereOther, trackers⟩ := alike.found isThere
        rw [isThereOther]
        refine .some (trackers.renumber_congr fun session held => ?_)
        refine renumberedFrom_below (below session ?_)
        rw [sessionOf, isThere]
        exact held
  · refine act_beside orderlyOther steady found action fun session held => ?_
    have heldOther := alike.sessionOf_eq.trans held
    obtain ⟨tracker, isThere, isHeld⟩ := mem_trackers_of_sessionOf heldOther
    exact ⟨number, tracker, Ne.symm different, isThere, isHeld⟩

/-- The sessions that an answer names are opened after it. -/
theorem Orderly.lt_opened_of_names {scenario : Scenario}
    (orderly : Orderly scenario.trackers scenario.machine calls) {action : Action} {session : Nat}
    (names : (scenario.play (.act number action)).1.Names session) :
    session < (scenario.play (.act number action)).2.machine.opened := by
  have after := orderly_play orderly (.act number action)
  cases found : scenario.locks[number]? with
  | none =>
      rw [play_of_none found] at names
      cases names
  | some lock =>
      obtain ⟨isThere, answer, machine, trackers⟩ := play_act found action
      obtain ⟨-, remaining, used⟩ :=
        sessionUse_act scenario.machine (orderly.sound _ (List.mem_of_getElem? isThere)) action
      -- The session of the tracker after the action is opened, as that of any tracker is.
      have own : (act scenario.machine lock action).2.1.content.session = some session →
          session < (scenario.play (.act number action)).2.machine.opened := by
        intro holds
        refine after.lt_opened ?_
        rw [trackers]
        exact (held_set isThere _ session).mpr (.inl holds)
      rw [answer] at names
      rcases names with holds | ⟨record, made, named⟩
      · rw [remaining] at holds
        exact own holds
      · rcases used.names made named with held | ⟨-, -, holds, -⟩
        · have below := orderly.lt_opened ((held_iff isThere session).mpr (.inl held))
          have grown := used.opened_le
          rw [machine]
          omega
        · exact own holds

/-- A tag that is left allocated can be read if nothing is shifted. -/
theorem allocatedBy_le_limit (scenario : Scenario) (number : Nat) :
    scenario.allocatedBy number ≤ Tag.limit := by
  rw [allocatedBy]
  cases scenario.locks[number]? with
  | none => exact Nat.zero_le _
  | some lock => exact lock.content.tags.allocated_le_limit

theorem Step.isSteady_ne_writeTag {happened : Machine.Change}
    (isSteady : (Step.change happened).isSteady = true) (session handle written : Nat) :
    happened ≠ .writeTag session handle written := by
  rintro rfl
  cases isSteady

/-- A step of the tracker, or a change, is answered alike but for the numbers of sessions. -/
theorem Counterparts.play (alike : Counterparts (renumbering renumber) number first second)
    (orderly : Orderly first.trackers first.machine calls) {step : Step}
    (isFor : step.isFor number = true) (isSteady : step.isSteady = true) :
    (first.play step).1.Renumbered renumber (second.play step).1 ∧
      Counterparts (renumbering renumber) number (first.play step).2 (second.play step).2 ∧
      ∀ session, (first.play step).1.Names session →
        session < (first.play step).2.machine.opened := by
  cases step with
  | act other action =>
      obtain rfl : other = number := of_decide_eq_true isFor
      have acted := alike.act (actionFits_renumbering renumber action)
        (allocatedBy_le_limit (first.play (.act other action)).2 other)
      rw [action_renumbering] at acted
      exact ⟨renumbered_of_answers acted.1, acted.2,
        fun session names => orderly.lt_opened_of_names names⟩
  | change happened =>
      have notWritten := Step.isSteady_ne_writeTag isSteady
      have changed := alike.change notWritten
      rw [change_renumbering renumber notWritten] at changed
      exact ⟨renumbered_of_answers changed.1, changed.2, nofun⟩

/-- Sessions that are opened stay opened. -/
theorem Orderly.opened_le_play {scenario : Scenario}
    (orderly : Orderly scenario.trackers scenario.machine calls) (step : Step) :
    scenario.machine.opened ≤ (scenario.play step).2.machine.opened := by
  cases step with
  | change happened =>
      exact Nat.le_of_eq (sameSessions_apply scenario.machine happened).opened_eq.symm
  | act number action =>
      cases found : scenario.locks[number]? with
      | none => rw [play_of_none found]
      | some lock =>
          obtain ⟨isThere, -, machine, -⟩ := play_act found action
          rw [machine]
          exact (sessionUse_act scenario.machine
            (orderly.sound _ (List.mem_of_getElem? isThere)) action).2.2.opened_le

/-- A step of another tracker leaves counterparts, if the sessions that are not opened yet are
renumbered anew. -/
theorem Counterparts.skip (alike : Counterparts (renumbering renumber) number first second)
    (mono : StrictMono renumber) (orderly : Orderly first.trackers first.machine calls)
    {callsOther : List (CallRecord Nat Nat)}
    (orderlyOther : Orderly second.trackers second.machine callsOther)
    (steady : second.machine.IsSteady) {step : Step} (isFor : step.isFor number = false) :
    ∃ anew : Nat → Nat, StrictMono anew ∧
      (∀ session, session < first.machine.opened → anew session = renumber session) ∧
      Counterparts (renumbering anew) number first (second.play step).2 := by
  cases step with
  | change happened => cases isFor
  | act other action =>
      have different : other ≠ number := of_decide_eq_false isFor
      cases found : second.locks[other]? with
      | none =>
          rw [play_of_none found]
          exact ⟨renumber, mono, fun _ _ => rfl, alike⟩
      | some lock =>
          have next : renumber first.machine.opened = second.machine.opened := alike.machine.next 0
          have grown := orderlyOther.opened_le_play (.act other action)
          exact ⟨_, strictMono_renumberedFrom mono (by omega),
            fun session below => renumberedFrom_below below,
            alike.aside orderly orderlyOther steady different found action⟩

/-! ## A run -/

/-- **A run of a tracker alone is answered as one among others.**  The sessions are renumbered
in their order, and those that are opened keep their numbers. -/
theorem Counterparts.playAll {number : Nat} {steps : List Step}
    (steadySteps : ∀ step ∈ steps, step.isSteady = true) {renumber : Nat → Nat}
    (mono : StrictMono renumber) {first second : Scenario} {calls callsOther : List _}
    (alike : Counterparts (renumbering renumber) number first second)
    (orderly : Orderly first.trackers first.machine calls)
    (orderlyOther : Orderly second.trackers second.machine callsOther)
    (steady : second.machine.IsSteady) :
    ∃ final : Nat → Nat, StrictMono final ∧
      (∀ session, session < first.machine.opened → final session = renumber session) ∧
      List.Forall₂ (Answer.Renumbered final)
        (first.playAll (steps.filter (Step.isFor number))).1
        (second.answersTo (Step.isFor number) steps) := by
  induction steps generalizing renumber first second calls callsOther with
  | nil => exact ⟨renumber, mono, fun _ _ => rfl, .nil⟩
  | cons step rest ih =>
      obtain ⟨isSteady, steadyRest⟩ := List.forall_mem_cons.mp steadySteps
      have orderlyAfter := orderly_play orderlyOther step
      have steadyAfter := isSteady_play orderlyOther steady isSteady
      rw [answersTo_cons, List.filter_cons]
      cases isFor : step.isFor number with
      | true =>
          obtain ⟨answers, after, named⟩ := alike.play orderly isFor isSteady
          obtain ⟨final, monoFinal, agrees, others⟩ :=
            ih steadyRest mono after (orderly_play orderly step) orderlyAfter steadyAfter
          have grown := orderly.opened_le_play step
          refine ⟨final, monoFinal, fun session below => agrees session (by omega), ?_⟩
          exact .cons (answers.congr fun session names => agrees session (named session names))
            others
      | false =>
          obtain ⟨anew, monoAnew, same, after⟩ := alike.skip mono orderly orderlyOther steady isFor
          obtain ⟨final, monoFinal, agrees, others⟩ :=
            ih steadyRest monoAnew after orderly orderlyAfter steadyAfter
          exact ⟨final, monoFinal,
            fun session below => (agrees session below).trans (same session below), others⟩

/-- A scenario is its own counterpart. -/
theorem Orderly.counterparts {scenario : Scenario}
    (orderly : Orderly scenario.trackers scenario.machine calls) (number : Nat) :
    Counterparts (renumbering id) number scenario scenario := by
  refine ⟨?_, .self _ _⟩
  cases isThere : scenario.locks[number]? with
  | none => exact .none
  | some lock =>
      exact .some (.self (orderly.sound _ (List.mem_of_getElem? (getElem?_trackers isThere))))

/-- **Trackers do not interfere.**  Whatever the trackers of a machine do and whatever happens to
the machine, as long as nobody else writes tags into their sessions and the faults do not count
the calls, the steps of one tracker are answered as they are if the others do not act at all:
with the same results and errors, the same calls and trace, and the same state of the tracker.
Only the sessions have other numbers, in the same order. -/
theorem no_interference (settings : List Settings) (number : Nat) {steps : List Step}
    (steady : ∀ step ∈ steps, step.isSteady = true) :
    ∃ renumber : Nat → Nat, StrictMono renumber ∧
      List.Forall₂ (Answer.Renumbered renumber)
        ((ofSettings settings).playAll (steps.filter (Step.isFor number))).1
        ((ofSettings settings).answersTo (Step.isFor number) steps) := by
  obtain ⟨renumber, mono, -, answers⟩ :=
    ((orderly_ofSettings settings).counterparts number).playAll steady strictMono_id
      (orderly_ofSettings settings) (orderly_ofSettings settings) nofun
  exact ⟨renumber, mono, answers⟩

/-- A tracker starts up, is poisoned by a class that it cannot name, and another starts up. -/
def neighbours : List Step :=
  [.change (.load "LFirst;" (.ofFlag .prepared)), .act 0 (.command .startUp false),
    .change (.setFault .signature ⟨⟨.internal, "busy"⟩, 0, none⟩),
    .change (.load "LSecond;" (.ofFlag .prepared)), .act 0 (.command (.add 1) false),
    .change (.heal .signature), .act 1 (.command .startUp false)]

/-- The other gets another session than it would by itself, and the same answers. -/
theorem undisturbed_neighbour :
    (∃ renumber : Nat → Nat, StrictMono renumber ∧ List.Forall₂ (Answer.Renumbered renumber)
      ((ofSettings [.default, .default]).playAll (neighbours.filter (Step.isFor 1))).1
      ((ofSettings [.default, .default]).answersTo (Step.isFor 1) neighbours)) ∧
      ((ofSettings [.default, .default]).playAll neighbours).2.sessionsHeld = [0, 1] ∧
      ((ofSettings [.default, .default]).playAll
        (neighbours.filter (Step.isFor 1))).2.sessionsHeld = [0] :=
  ⟨no_interference [.default, .default] 1 (by decide), by decide +kernel, by decide +kernel⟩

end Scenario

end ClassLiveness

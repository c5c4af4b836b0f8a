import ClassLiveness.Proofs.Scenario.Discipline
import ClassLiveness.Proofs.Scenario.Likeness

/-!
# What a command leaves to others

Trackers on one machine share its classes, its faults and what it lists and counts, and the
machine gives the next number to whichever of them opens a session.  A fault that does not
count the calls is the same after each of them (`Fault.IsSteady`), and a command hangs tags in
no session but the tracker's own.  So it leaves the machine to a tracker in another session as
it was (`Machine.Beside`), but for the number of the next session (`Tracker.perform_beside`).
-/

set_option autoImplicit false

namespace ClassLiveness

/-! ## Steady faults -/

/-- A fault is steady if it does not count the calls. -/
def Fault.IsSteady (fault : Fault) : Prop := fault.strike.2 = fault

instance (fault : Fault) : Decidable fault.IsSteady :=
  inferInstanceAs (Decidable (fault.strike.2 = fault))

namespace Machine

/-- Every fault in store is the one that calls of its sort meet, and is steady. -/
def IsSteady (machine : Machine) : Prop :=
  ∀ op fault, (op, fault) ∈ machine.faults → machine.fault? op = some fault ∧ fault.IsSteady

theorem IsSteady.of_faults_eq {before after : Machine} (steady : before.IsSteady)
    (same : after.faults = before.faults) : after.IsSteady := by
  unfold IsSteady fault? at steady ⊢
  rw [same]
  exact steady

theorem IsSteady.strike_eq {machine : Machine} (steady : machine.IsSteady) (op : HostOp) :
    (machine.strike op).2 = machine := by
  unfold strike
  split
  · rfl
  · rename_i fault found
    have same : machine.faults.map (fun stored =>
        if stored.1 = op then (stored.1, fault.strike.2) else stored) = machine.faults := by
      refine (List.map_congr_left fun stored member => ?_).trans (List.map_id _)
      obtain ⟨sort, stored⟩ := stored
      obtain ⟨isFound, isSteady⟩ := steady sort stored member
      by_cases isOp : sort = op
      · rw [isOp, found] at isFound
        cases isFound
        rw [if_pos isOp, isSteady]
        rfl
      · exact if_neg isOp
    exact congrArg (fun faults => { machine with faults := faults }) same

/-- A fault of another sort is not in the way. -/
theorem fault?_withFault_of_ne (machine : Machine) {op sort : HostOp} (different : sort ≠ op)
    (fault? : Option Fault) : (machine.withFault op fault?).fault? sort = machine.fault? sort := by
  have passes : ∀ faults : List (HostOp × Fault),
      (faults.filter fun stored => stored.1 ≠ op).lookup sort = faults.lookup sort := by
    intro faults
    induction faults with
    | nil => rfl
    | cons first rest ih =>
        obtain ⟨firstSort, stored⟩ := first
        by_cases isOp : firstSort = op
        · have passed : (sort == firstSort) = false :=
            beq_eq_false_iff_ne.mpr fun same => different (same.trans isOp)
          rw [List.filter_cons_of_neg (by simpa using isOp), List.lookup_cons, passed, ih]
        · rw [List.filter_cons_of_pos (by simpa using isOp), List.lookup_cons, List.lookup_cons, ih]
  have isOther : (sort == op) = false := beq_eq_false_iff_ne.mpr different
  unfold Machine.fault? withFault
  cases fault? with
  | none => exact passes machine.faults
  | some fault =>
      change List.lookup sort ((op, fault) :: _) = _
      rw [List.lookup_cons, isOther]
      exact passes machine.faults

/-- The machine stays steady if a fault is healed, or a steady fault is set. -/
theorem IsSteady.withFault {machine : Machine} (steady : machine.IsSteady) (op : HostOp)
    (fault? : Option Fault) (also : ∀ fault, fault? = some fault → fault.IsSteady) :
    (machine.withFault op fault?).IsSteady := by
  intro sort stored member
  rcases List.mem_append.mp member with isNew | isOther
  · obtain ⟨fault, isThere, same⟩ := Option.map_eq_some_iff.mp (Option.mem_toList.mp isNew)
    cases same
    subst isThere
    refine ⟨?_, also stored rfl⟩
    change List.lookup op ((op, stored) :: _) = some stored
    rw [List.lookup_cons, beq_self_eq_true]
  · obtain ⟨isThere, different⟩ := List.mem_filter.mp isOther
    rw [fault?_withFault_of_ne machine (of_decide_eq_true different)]
    exact steady sort stored isThere

/-! ## Beside a tracker -/

/-- What happened on a machine leaves it as it was to a tracker in a session, or in none, but
for the number that the next session gets. -/
structure Beside (session? : Option Nat) (before after : Machine) : Prop where
  classes : after.classes = before.classes
  faults : after.faults = before.faults
  enumeration : after.enumeration = before.enumeration
  holders : after.holders = before.holders
  opened_le : before.opened ≤ after.opened
  given : ∀ session, session? = some session → after.given session = before.given session

namespace Beside

variable {session? : Option Nat} {before after last : Machine}

theorem refl (session? : Option Nat) (machine : Machine) : Beside session? machine machine :=
  ⟨rfl, rfl, rfl, rfl, Nat.le_refl _, fun _ _ => rfl⟩

theorem trans (one : Beside session? before after) (other : Beside session? after last) :
    Beside session? before last :=
  ⟨other.classes.trans one.classes, other.faults.trans one.faults,
    other.enumeration.trans one.enumeration, other.holders.trans one.holders,
    Nat.le_trans one.opened_le other.opened_le,
    fun session held => (other.given session held).trans (one.given session held)⟩

end Beside

/-- The machine's own answer to a call that does not touch the session. -/
theorem beside_reply {call : Call Nat Nat} {machine : Machine} {session? : Option Nat}
    (numbered : machine.IsNumbered)
    (isOpen : ∀ session, session? = some session → machine.IsOpen session)
    (touches : ∀ session, session? = some session → call.touches? ≠ some session) :
    Beside session? machine (reply call machine).2 := by
  have given : ∀ session, session? = some session →
      (reply call machine).2.given session = machine.given session := by
    intro session held
    obtain ⟨tags, found⟩ := Option.isSome_iff_exists.mp
      (isOpen_iff_isSome.mp (isOpen session held))
    have isGiven : machine.given session = some fun handle => tags[handle]? := by
      rw [Machine.given, found, Option.map_some]
    rw [given_reply numbered isGiven (touches session held), isGiven]
  cases call with
  | openSession => exact ⟨rfl, rfl, rfl, rfl, Nat.le_succ _, given⟩
  | loadedClasses | tagOf | liveCount | close => exact ⟨rfl, rfl, rfl, rfl, Nat.le_refl _, given⟩
  | signatureOf handle =>
      simp only [reply] at given ⊢
      split
      · split <;> exact .refl _ _
      · exact .refl _ _
  | setTag session handle tag =>
      simp only [reply] at given ⊢
      rw [changeTags_eq] at given ⊢
      exact ⟨rfl, rfl, rfl, rfl, Nat.le_refl _, given⟩

/-- A call that does not touch the session. -/
theorem beside_answer {call : Call Nat Nat} {machine : Machine} {session? : Option Nat}
    (steady : machine.IsSteady) (numbered : machine.IsNumbered)
    (isOpen : ∀ session, session? = some session → machine.IsOpen session)
    (touches : ∀ session, session? = some session → call.touches? ≠ some session) :
    Beside session? machine (host.answer call machine).2 := by
  have left := answer_snd call machine
  rw [steady.strike_eq] at left
  rcases left with same | same
  · rw [same]
    exact .refl _ _
  · rw [same]
    exact beside_reply numbered isOpen touches

end Machine

namespace Tracker

open Machine

/-- The calls of a command touch no open session but the tracker's own. -/
theorem MayMake.touches_ne_of_numbered {tracker : Tracker Nat} {machine : Machine}
    {command : Command Nat} {call : Call Nat Nat} {session : Nat}
    (mayMake : MayMake Machine.host tracker machine command call) (numbered : machine.IsNumbered)
    (isOpen : machine.IsOpen session) (different : tracker.session ≠ some session) :
    call.touches? ≠ some session := by
  intro touches
  cases mayMake with
  | opening | listing | counting => cases touches
  | enumerating _ opening tracks =>
      cases tracks with
      | looking | naming => cases touches
      | tagging =>
          cases touches
          have isNext := (openSession_ok opening).1
          have below := numbered.lt_opened isOpen
          omega
  | adding _ opened tracks =>
      cases tracks with
      | looking | naming => cases touches
      | tagging =>
          cases touches
          exact different opened
  | closing opened =>
      cases touches
      exact different opened

/-- A dialogue goes on beside a tracker, on a machine that numbers its sessions. -/
structure GoesOnBeside (session? : Option Nat) (machine : Machine)
    (dialogue : Dialogue Machine Nat Nat) : Prop where
  numbered : dialogue.host.IsNumbered
  beside : Beside session? machine dialogue.host

/-- **A command leaves the machine to a tracker in another session as it was.** -/
theorem perform_beside {tracker : Tracker Nat} (sound : tracker.Sound) {machine : Machine}
    (steady : machine.IsSteady) (numbered : machine.IsNumbered) {session? : Option Nat}
    (isOpen : ∀ session, session? = some session → machine.IsOpen session)
    (different : ∀ session, session? = some session → tracker.session ≠ some session)
    (command : Command Nat) :
    Beside session? machine (tracker.perform Machine.host command machine).host := by
  have goesOn : GoesOnBeside session? machine ⟨_, _⟩ :=
    perform_carries Machine.host command machine sound.keeps (GoesOnBeside session? machine) ?_
      ⟨numbered, .refl _ _⟩
  · exact goesOn.beside
  · rintro call mayMake dialogue ⟨numberedNow, beside⟩
    have steadyNow := steady.of_faults_eq beside.faults
    have isOpenNow : ∀ session, session? = some session → dialogue.host.IsOpen session := by
      intro session held
      have wasOpen := isOpen session held
      rw [isOpen_iff_isSome] at wasOpen ⊢
      have same := congrArg Option.isSome (beside.given session held)
      rw [Machine.given, Machine.given, Option.isSome_map, Option.isSome_map] at same
      rw [same]
      exact wasOpen
    have touches := fun session held =>
      mayMake.touches_ne_of_numbered numbered (isOpen session held) (different session held)
    refine ⟨?_, beside.trans (beside_answer steadyNow numberedNow isOpenNow touches)⟩
    exact keeps_answer IsNumbered call (fun _ _ kept => kept) (fun _ => isNumbered_reply call)
      numberedNow

end Tracker

end ClassLiveness

import ClassLiveness.Proofs.Scenario.Ageing

/-!
# A tracker that was relieved of records

Of two trackers in one session, the second has made more passes, and has reported some of the
records that the first still has (`Tracker.Relieved`).  As all of these are without a live
holder, a pass of the second (`Tracker.Relieved.pass`), a class added to both
(`Tracker.Relieved.added`) and whatever happens as the machine ages (`Tracker.Relieved.aged`)
leave them so, and sorted by whether there is a live holder they have the same records
(`Tracker.Relieved.sorted`).
-/

set_option autoImplicit false

namespace ClassLiveness

namespace Tracker

open Machine

variable {machine : Machine} {session start : Nat} {reported : List ClassRecord}
  {full thin : Tracker Nat}

/-- Of two trackers in one session, the second has reported some of the records that the first
has, which are without a live holder. -/
structure Relieved (machine : Machine) (session start : Nat) (reported : List ClassRecord)
    (full thin : Tracker Nat) : Prop where
  placed : Placed sharedContract full machine
  sound : thin.Sound
  tended : machine.Tended session
  opened : full.session = some session
  together : thin.session = full.session
  usable : full.poisoned = false
  usableToo : thin.poisoned = false
  tags : thin.tags = full.tags
  settings : thin.settings = full.settings
  fits : full.settings.outputCapacity ≤ UnloadReport.greatestCapacity
  fewer : thin.tracked.Sublist full.tracked
  split : (thin.tracked ++ reported).Perm full.tracked
  gone : ∀ record ∈ reported, machine.isHeld session record.tag = false
  total : thin.passes.totalUnloaded = start + reported.length

namespace Relieved

/-- A tracker that has reported nothing. -/
theorem self (placed : Placed sharedContract full machine) (tended : machine.Tended session)
    (opened : full.session = some session) (usable : full.poisoned = false)
    (fits : full.settings.outputCapacity ≤ UnloadReport.greatestCapacity) :
    Relieved machine session full.passes.totalUnloaded [] full full :=
  ⟨placed, placed.sound, tended, opened, rfl, usable, usable, rfl, rfl, fits, .refl _,
    .of_eq (List.append_nil _), nofun, rfl⟩

theorem placedToo (relieved : Relieved machine session start reported full thin) :
    Placed sharedContract thin machine := by
  refine ⟨relieved.sound, fun other opened => ?_⟩
  rw [relieved.together] at opened
  obtain ⟨given, isOpen, uncrowded⟩ := relieved.placed.isOpen other opened
  refine ⟨given, isOpen, fun _ => ?_⟩
  rw [relieved.tags]
  exact uncrowded relieved.usable

/-- Sorted by whether there is a live holder, the records of both are the same, but that some
of the dead have been reported by the second. -/
theorem sorted (relieved : Relieved machine session start reported full thin) :
    (thin.tracked.filter fun record => machine.isHeld session record.tag) =
        full.tracked.filter (fun record => machine.isHeld session record.tag) ∧
      (reported ++ thin.tracked.filter fun record => !machine.isHeld session record.tag).Perm
        (full.tracked.filter fun record => !machine.isHeld session record.tag) := by
  have noneHeld : (reported.filter fun record => machine.isHeld session record.tag) = [] :=
    List.filter_eq_nil_iff.mpr fun record member =>
      Bool.eq_false_iff.mp (relieved.gone record member)
  have allGone : (reported.filter fun record => !machine.isHeld session record.tag) = reported :=
    List.filter_eq_self.mpr fun record member => by rw [relieved.gone record member]; rfl
  constructor
  · have held := relieved.split.filter fun record => machine.isHeld session record.tag
    rw [List.filter_append, noneHeld, List.append_nil] at held
    exact (relieved.fewer.filter _).eq_of_length held.length_eq
  · have dead := relieved.split.filter fun record => !machine.isHeld session record.tag
    rw [List.filter_append, allGone] at dead
    exact List.perm_append_comm.trans dead

/-- **A pass of the second relieves it of the dead.** -/
theorem pass (relieved : Relieved machine session start reported full thin) :
    let dead := (thin.tracked.filter fun record => !machine.isHeld session record.tag).reverse
    (thin.perform Machine.host .processUnloads machine).result =
        .ok (.report ⟨dead.map ClassRecord.signature⟩) ∧
      (thin.perform Machine.host .processUnloads machine).host = machine ∧
      (thin.perform Machine.host .processUnloads machine).tracker.tracked =
        thin.tracked.filter (fun record => machine.isHeld session record.tag) ∧
      Relieved machine session start (reported ++ dead) full
        (thin.perform Machine.host .processUnloads machine).tracker := by
  intro dead
  have fits := relieved.fits
  rw [← relieved.settings] at fits
  obtain ⟨result, sameHost, swept, total⟩ := perform_pass relieved.placedToo relieved.tended
    relieved.usableToo (relieved.together.trans relieved.opened) fits
  refine ⟨result, sameHost, swept.tracked, relieved.placed, swept.sound, relieved.tended,
    relieved.opened, swept.session.trans relieved.together, relieved.usable,
    swept.poisoned.trans relieved.usableToo, swept.tags.trans relieved.tags,
    swept.settings.trans relieved.settings, relieved.fits, ?_, ?_, ?_, ?_⟩
  · rw [swept.tracked]
    exact List.filter_sublist.trans relieved.fewer
  · rw [swept.tracked]
    have sides := (List.filter_append_perm (fun record => machine.isHeld session record.tag)
      thin.tracked).append_right reported
    rw [List.append_assoc] at sides
    have apart : (reported ++ dead).Perm
        ((thin.tracked.filter fun record => !machine.isHeld session record.tag) ++ reported) :=
      List.perm_append_comm.trans ((List.reverse_perm _).append_right reported)
    exact ((apart.append_left _).trans sides).trans relieved.split
  · intro record member
    rcases List.mem_append.mp member with earlier | isDead
    · exact relieved.gone record earlier
    · have unheld := (List.mem_filter.mp (List.mem_reverse.mp isDead)).2
      exact Bool.not_eq_true' _ |>.mp unheld
  · rw [total, relieved.total, List.length_append, List.length_reverse, Nat.add_assoc]

/-- A class that is admitted is added to both. -/
theorem admitted (relieved : Relieved machine session start reported full thin) {handle : Nat}
    {record : ClassRecord} {left : TagSupply} {last : Machine}
    (admitted : Admission Machine.host session handle full.settings.checkDuplicates full.tags
      machine record left last) :
    (full.perform Machine.host (.add handle) machine).result = .ok (.tag record.tag) ∧
      (thin.perform Machine.host (.add handle) machine).result = .ok (.tag record.tag) ∧
      (full.perform Machine.host (.add handle) machine).host = last ∧
      (thin.perform Machine.host (.add handle) machine).host = last ∧
      Relieved last session start reported (full.perform Machine.host (.add handle) machine).tracker
        (thin.perform Machine.host (.add handle) machine).tracker := by
  obtain ⟨result, sameHost, enlarged⟩ :=
    admitted.perform relieved.placed.sound relieved.usable relieved.opened
  have admittedToo := admitted
  rw [← relieved.settings, ← relieved.tags] at admittedToo
  obtain ⟨resultToo, sameHostToo, enlargedToo⟩ := admittedToo.perform relieved.sound
    relieved.usableToo (relieved.together.trans relieved.opened)
  obtain ⟨given, isOpen, -⟩ := relieved.placed.isOpen session relieved.opened
  obtain ⟨loaded, isLast⟩ := relieved.tended.admission admitted
  have placed := relieved.placed.perform relieved.tended.lawful (.add handle)
  rw [sameHost] at placed
  refine ⟨result, resultToo, sameHost, sameHostToo, placed, enlargedToo.sound, ?_,
    enlarged.session.trans relieved.opened, ?_, enlarged.poisoned.trans relieved.usable,
    enlargedToo.poisoned.trans relieved.usableToo, enlargedToo.tags.trans enlarged.tags.symm,
    ?_, ?_, ?_, ?_, ?_, ?_⟩
  · rw [isLast]
    exact relieved.tended.hang isOpen loaded record.tag
  · rw [enlargedToo.session, enlarged.session, relieved.together]
  · rw [enlargedToo.settings, enlarged.settings, relieved.settings]
  · rw [enlarged.settings]
    exact relieved.fits
  · rw [enlargedToo.tracked, enlarged.tracked]
    exact relieved.fewer.cons_cons record
  · rw [enlargedToo.tracked, enlarged.tracked]
    exact relieved.split.cons record
  · intro other member
    have wasGone := relieved.gone other member
    have tracked := relieved.split.subset (List.mem_append_right _ member)
    have older := relieved.placed.sound.bounded other tracked
    -- The tag of the new record is fresh, so it is none of those that were reported.
    have different : other.tag ≠ record.tag := by
      cases admitted with
      | @intro _ _ _ tag _ _ _ taken =>
          have fresh := (TagSupply.allocate_ok taken).1
          intro same
          rw [show other.tag = tag from same] at older
          omega
    rw [isLast, Bool.eq_false_iff]
    rw [Bool.eq_false_iff] at wasGone
    exact fun held => wasGone (Tended.isHeld_of_hang isOpen different held)
  · rw [enlargedToo.passes]
    exact relieved.total

/-- **A class is added to both under the same tag, or to none.** -/
theorem added (relieved : Relieved machine session start reported full thin) {handle : Nat}
    {reply : Reply}
    (succeeds : (full.perform Machine.host (.add handle) machine).result = .ok reply ∨
      (thin.perform Machine.host (.add handle) machine).result = .ok reply) :
    ∃ tag, (full.perform Machine.host (.add handle) machine).result = .ok (.tag tag) ∧
      (thin.perform Machine.host (.add handle) machine).result = .ok (.tag tag) ∧
      (thin.perform Machine.host (.add handle) machine).host =
        (full.perform Machine.host (.add handle) machine).host ∧
      Relieved (full.perform Machine.host (.add handle) machine).host session start reported
        (full.perform Machine.host (.add handle) machine).tracker
        (thin.perform Machine.host (.add handle) machine).tracker := by
  have isAdmitted : ∃ record left last, Admission Machine.host session handle
      full.settings.checkDuplicates full.tags machine record left last := by
    rcases succeeds with isAdded | isAdded
    · obtain ⟨other, record, left, opened, -, admitted, -⟩ :=
        admission_of_ok relieved.placed.sound isAdded
      cases relieved.opened.symm.trans opened
      exact ⟨record, left, _, admitted⟩
    · obtain ⟨other, record, left, opened, -, admitted, -⟩ :=
        admission_of_ok relieved.sound isAdded
      rw [relieved.together, relieved.opened] at opened
      cases opened
      rw [relieved.settings, relieved.tags] at admitted
      exact ⟨record, left, _, admitted⟩
  obtain ⟨record, left, last, isAdmitted⟩ := isAdmitted
  obtain ⟨result, resultToo, sameHost, sameHostToo, after⟩ := relieved.admitted isAdmitted
  rw [← sameHost] at after
  exact ⟨record.tag, result, resultToo, sameHostToo.trans sameHost.symm, after⟩

/-- Announcements make no difference. -/
theorem noted (relieved : Relieved machine session start reported full thin) (times : Nat) :
    Relieved machine session start reported
      { full with pendingUnloads := full.pendingUnloads + times }
      { thin with pendingUnloads := thin.pendingUnloads + times } := by
  have placed := relieved.placed
  exact { relieved with
    placed := ⟨placed.sound.congr rfl rfl rfl, placed.isOpen⟩
    sound := relieved.sound.congr rfl rfl rfl }

/-- Nor does what happens as the machine ages. -/
theorem aged (relieved : Relieved machine session start reported full thin) {after : Machine}
    (ages : Ages machine after) : Relieved after session start reported full thin := by
  have placed := relieved.placed
  refine { relieved with placed := ⟨placed.sound, ?_⟩, tended := ?_, gone := ?_ }
  · intro other opened
    change ∃ given, after.given other = some given ∧ _
    rw [given_congr ages.sessions]
    exact placed.isOpen other opened
  · exact ages.tended relieved.tended
  · intro record member
    have wasGone := relieved.gone record member
    rw [Bool.eq_false_iff] at wasGone ⊢
    exact fun held => wasGone (ages.isHeld_of relieved.tended held)

end Relieved

end Tracker

end ClassLiveness

import ClassLiveness.Proofs.Contract.SharedMachine
import ClassLiveness.Proofs.Scenario.Reading

/-!
# Machines that answer alike

A tracker sees a machine through the answers to its calls.  Two machines are alike to it
(`Reading.Machines`) if they have the same classes and faults, list and count the same,
number new sessions as the reading says, and have given the same tags in the session that
the tracker is in.  What the machines have besides, such as the sessions of others, is
not looked at.

Every call is answered alike then, and leaves the machines alike (`Reading.Machines.listing`
and the lemmas after it), and a change to both machines leaves them alike
(`Reading.Machines.apply`, `Reading.Machines.writeTag`).
-/

set_option autoImplicit false

namespace ClassLiveness

namespace Machine

/-! ## Tags that are given -/

theorem tagOf_eq_given (machine : Machine) (session handle : Nat) :
    machine.tagOf session handle = (machine.given session).bind fun tags => tags handle := by
  rw [tagOf, given]
  cases machine.sessions[session]? <;> rfl

/-- The machine with the tag that a class carries in a session changed, if the session is
open. -/
def hang (machine : Machine) (session handle : Nat) (carried : Option Tag) : Machine :=
  machine.changeTags session fun tags =>
    match carried with
    | some tag => tags.insert handle tag
    | none => tags.erase handle

theorem given_hang (machine : Machine) (session handle : Nat) (carried : Option Tag) :
    (machine.hang session handle carried).given session =
      (machine.given session).map fun tags => Function.update tags handle carried := by
  unfold hang changeTags given
  split
  · rename_i tags found
    simp only [Std.TreeMap.getElem?_insert_self, found, Option.map_some, Option.some.injEq]
    funext other
    cases carried with
    | some tag =>
        simp only [Std.TreeMap.getElem?_insert, Nat.compare_eq_eq, Function.update_apply]
        exact if_congr eq_comm rfl rfl
    | none =>
        simp only [Std.TreeMap.getElem?_erase, Nat.compare_eq_eq, Function.update_apply]
        exact if_congr eq_comm rfl rfl
  · rename_i closed
    simp only [closed, Option.map_none]

theorem given_changeTags_of_ne (machine : Machine) {session other : Nat}
    (different : session ≠ other) (change : SessionTags → SessionTags) :
    (machine.changeTags session change).given other = machine.given other := by
  unfold changeTags given
  split
  · simp [Std.TreeMap.getElem?_insert, different]
  · rfl

/-- The tags of a session are its own matter. -/
theorem changeTags_eq (machine : Machine) (session : Nat) (change : SessionTags → SessionTags) :
    machine.changeTags session change =
      { machine with sessions := (machine.changeTags session change).sessions } := by
  unfold changeTags
  split <;> rfl

/-- A session starts without tags. -/
theorem given_opened (machine : Machine) :
    ({ machine with
        sessions := machine.sessions.insert machine.opened ∅
        opened := machine.opened + 1 } : Machine).given machine.opened =
      some fun _ => none := by
  simp only [given, Std.TreeMap.getElem?_insert_self, Option.map_some]
  rfl

end Machine

namespace Reading

open Machine

variable {reading : Reading} {held : Option Nat} {first second : Machine}

/-- The tags that a session has given are read one by one. -/
def tags (reading : Reading) (tags : Nat → Option Tag) : Nat → Option Tag :=
  fun handle => (tags handle).map reading.tag

theorem tags_update (reading : Reading) (tags : Nat → Option Tag) (handle : Nat)
    (given : Option Tag) :
    reading.tags (Function.update tags handle given) =
      Function.update (reading.tags tags) handle (given.map reading.tag) := by
  funext other
  by_cases same : other = handle
  · subst same
    simp only [Reading.tags, Function.update_self]
  · simp only [Reading.tags, Function.update_of_ne same]

/-- Two machines are alike to a tracker that is in a session of the first, or in none. -/
structure Machines (reading : Reading) (held : Option Nat) (first second : Machine) : Prop where
  classes : second.classes = first.classes
  faults : second.faults = first.faults
  enumeration : second.enumeration = first.enumeration
  holders : ∀ number, 0 < number →
    second.holders[number + reading.shift]? = first.holders[number]?
  next : ∀ count, reading.session (first.opened + count) = second.opened + count
  given : ∀ session, held = some session →
    second.given (reading.session session) = (first.given session).map reading.tags
  fits : ∀ session, held = some session → ∀ handle tag, first.tagOf session handle = some tag →
    reading.Fits tag

/-- The answers to two calls are alike: both are failures, the same for both calls, or both
are replies of which something holds. -/
inductive Echoes (reading : Reading) (held : Option Nat) {α β : Type}
    (answered : α → β → Machine → Machine → Prop) :
    Except HostError α × Machine → Except HostError β × Machine → Prop where
  | ok {one : α} {other : β} {first second : Machine} : answered one other first second →
      Echoes reading held answered (.ok one, first) (.ok other, second)
  | error {failure : HostError} {first second : Machine} : Machines reading held first second →
      Echoes reading held answered (.error failure, first) (.error failure, second)

namespace Machines

theorem isLoaded_eq (alike : reading.Machines held first second) :
    second.isLoaded = first.isLoaded := by
  funext handle
  rw [isLoaded, isLoaded, alike.classes]

theorem tagOf_eq (alike : reading.Machines held first second) {session : Nat}
    (isHeld : held = some session) (handle : Nat) :
    second.tagOf (reading.session session) handle =
      (first.tagOf session handle).map reading.tag := by
  rw [tagOf_eq_given, tagOf_eq_given, alike.given session isHeld]
  cases first.given session <;> rfl

/-- Without a session there is less to be alike in. -/
theorem leave (alike : reading.Machines held first second) :
    reading.Machines none first second :=
  ⟨alike.classes, alike.faults, alike.enumeration, alike.holders, alike.next, nofun, nofun⟩

/-! ## Calls -/

theorem strike (alike : reading.Machines held first second) (op : HostOp) :
    (second.strike op).1 = (first.strike op).1 ∧
      reading.Machines held (first.strike op).2 (second.strike op).2 := by
  have same : (second.strike op).1 = (first.strike op).1 ∧
      (second.strike op).2.faults = (first.strike op).2.faults := by
    unfold Machine.strike Machine.fault?
    rw [alike.faults]
    split
    · exact ⟨rfl, alike.faults⟩
    · exact ⟨rfl, rfl⟩
  refine ⟨same.1, ?_⟩
  have faults := same.2
  rw [strike_eq first, strike_eq second] at faults ⊢
  exact ⟨alike.classes, faults, alike.enumeration, alike.holders, alike.next, alike.given,
    alike.fits⟩

/-- Calls of one sort are answered alike if the machines themselves reply alike. -/
theorem echo (alike : reading.Machines held first second) (one other : Call Nat Nat)
    {answered : one.Reply → other.Reply → Machine → Machine → Prop} (sameSort : other.op = one.op)
    (replies : ∀ first second, reading.Machines held first second →
      Echoes reading held answered (Machine.reply one first) (Machine.reply other second)) :
    Echoes reading held answered (host.answer one first) (host.answer other second) := by
  obtain ⟨struck, after⟩ := alike.strike one.op
  simp only [host, sameSort]
  generalize first.strike one.op = firstStruck at struck after
  generalize second.strike one.op = secondStruck at struck after
  obtain ⟨firstFailure, firstLeft⟩ := firstStruck
  obtain ⟨secondFailure, secondLeft⟩ := secondStruck
  obtain rfl : secondFailure = firstFailure := struck
  cases secondFailure with
  | none => exact replies firstLeft secondLeft after
  | some failure => exact .error after

/-- The classes are listed alike. -/
theorem listing (alike : reading.Machines held first second) :
    Echoes reading held (fun one other left left' => other = one ∧
        reading.Machines held left left')
      (host.answer .loadedClasses first) (host.answer .loadedClasses second) := by
  refine alike.echo .loadedClasses .loadedClasses rfl fun first second alike => .ok ⟨?_, alike⟩
  rw [alike.enumeration, loadedClasses, loadedClasses, alike.classes]

/-- A class has the same signature. -/
theorem naming (alike : reading.Machines held first second) (handle : Nat) :
    Echoes reading held (fun one other left left' => other = one ∧
        reading.Machines held left left')
      (host.answer (.signatureOf handle) first) (host.answer (.signatureOf handle) second) := by
  refine alike.echo (.signatureOf handle) (.signatureOf handle) rfl fun first second alike => ?_
  simp only [Machine.reply, alike.classes]
  split
  · split
    · exact .ok ⟨rfl, alike⟩
    · exact .error alike
  · exact .error alike

/-- A class has the tag that is read. -/
theorem looking (alike : reading.Machines held first second) {session : Nat}
    (isHeld : held = some session) (handle : Nat) :
    Echoes reading held (fun one other left left' => other = one.map reading.tag ∧
        reading.Machines held left left')
      (host.answer (.tagOf session handle) first)
      (host.answer (.tagOf (reading.session session) handle) second) :=
  alike.echo (.tagOf session handle) (.tagOf (reading.session session) handle) rfl fun _ _ alike =>
    .ok ⟨alike.tagOf_eq isHeld handle, alike⟩

/-- Hanging tags that fit on a class leaves the machines alike. -/
theorem hang (alike : reading.Machines held first second) {session : Nat}
    (distinct : ∀ own, held = some own → reading.session session = reading.session own →
      session = own)
    (handle : Nat) (carried : Option Tag) (fits : ∀ tag, carried = some tag → reading.Fits tag) :
    reading.Machines held (first.hang session handle carried)
      (second.hang (reading.session session) handle (carried.map reading.tag)) := by
  have givenAfter := first.given_hang session handle carried
  have givenAfter' := second.given_hang (reading.session session) handle (carried.map reading.tag)
  have elsewhere : ∀ own, held = some own → session ≠ own →
      (first.hang session handle carried).given own = first.given own ∧
        (second.hang (reading.session session) handle (carried.map reading.tag)).given
          (reading.session own) = second.given (reading.session own) :=
    fun own isOwn different => ⟨first.given_changeTags_of_ne different _,
      second.given_changeTags_of_ne (fun same => different (distinct own isOwn same)) _⟩
  unfold Machine.hang at givenAfter givenAfter' elsewhere ⊢
  rw [changeTags_eq first] at givenAfter elsewhere ⊢
  rw [changeTags_eq second] at givenAfter' elsewhere ⊢
  refine ⟨alike.classes, alike.faults, alike.enumeration, alike.holders, alike.next, ?_, ?_⟩
  · intro own isOwn
    by_cases same : session = own
    · subst same
      rw [givenAfter, givenAfter', alike.given session isOwn]
      cases first.given session with
      | none => rfl
      | some tags => simp only [Option.map_some, tags_update]
    · rw [(elsewhere own isOwn same).1, (elsewhere own isOwn same).2]
      exact alike.given own isOwn
  · intro own isOwn other tag
    have before := alike.fits own isOwn other tag
    rw [tagOf_eq_given] at before ⊢
    by_cases same : session = own
    · subst same
      rw [givenAfter]
      cases given : first.given session with
      | none => nofun
      | some tags =>
          rw [given] at before
          simp only [Option.map_some, Option.bind_some, Function.update_apply] at before ⊢
          split
          · exact fits tag
          · exact before
    · rw [(elsewhere own isOwn same).1]
      exact before

/-- A tag that fits is hung on a class alike. -/
theorem tagging (alike : reading.Machines held first second) {session : Nat}
    (isHeld : held = some session) (handle : Nat) {tag : Tag} (fits : reading.Fits tag) :
    Echoes reading held (fun _ _ left left' => reading.Machines held left left')
      (host.answer (.setTag session handle tag) first)
      (host.answer (.setTag (reading.session session) handle (reading.tag tag)) second) := by
  refine alike.echo (.setTag session handle tag)
    (.setTag (reading.session session) handle (reading.tag tag)) rfl fun _ _ alike => .ok ?_
  refine alike.hang ?_ handle (some tag) ?_
  · rintro own isOwn -
    exact Option.some.inj (isHeld.symm.trans isOwn)
  · rintro _ ⟨⟩
    exact fits

/-- The live holders of a tag that fits are counted alike. -/
theorem counting (alike : reading.Machines held first second) {session : Nat}
    (isHeld : held = some session) {tag : Tag} (fits : reading.Fits tag) :
    Echoes reading held (fun one other left left' => other = one ∧
        reading.Machines held left left')
      (host.answer (.liveCount session tag) first)
      (host.answer (.liveCount (reading.session session) (reading.tag tag)) second) := by
  refine alike.echo (.liveCount session tag)
    (.liveCount (reading.session session) (reading.tag tag)) rfl fun first second alike => ?_
  have sameCount : second.holderCount (reading.session session) (reading.tag tag) =
      first.holderCount session tag := by
    rw [holderCount, holderCount, alike.classes]
    refine List.countP_congr fun handle _ => ?_
    simp only [alike.isLoaded_eq, alike.tagOf_eq isHeld, Bool.and_eq_true, beq_iff_eq,
      Option.map_eq_some_iff]
    refine and_congr_right fun _ => ⟨?_, fun carries => ⟨tag, carries, rfl⟩⟩
    rintro ⟨carried, isCarried, same⟩
    have fitsCarried := alike.fits session isHeld handle carried isCarried
    rw [isCarried, (tag_inj fitsCarried fits).mp same]
  refine .ok ⟨?_, alike⟩
  rw [number_tag fits, alike.holders tag.number tag.number_pos, sameCount]

/-- A session is closed alike. -/
theorem closing (alike : reading.Machines none first second) (session : Nat) :
    Echoes reading none (fun _ _ left left' => reading.Machines none left left')
      (host.answer (.close session) first)
      (host.answer (.close (reading.session session)) second) :=
  alike.echo (.close session) (.close (reading.session session)) rfl fun _ _ alike =>
    .ok ⟨alike.classes, alike.faults, alike.enumeration, alike.holders, alike.next, nofun, nofun⟩

/-- The session that is opened is the next one of both machines. -/
theorem opening (alike : reading.Machines none first second) :
    Echoes reading none (fun one other left left' => other = reading.session one ∧
        reading.Machines (some one) left left')
      (host.answer .openSession first) (host.answer .openSession second) := by
  refine alike.echo .openSession .openSession rfl fun first second alike => ?_
  have sameNext : second.opened = reading.session first.opened := (alike.next 0).symm
  refine .ok ⟨sameNext, alike.classes, alike.faults, alike.enumeration, alike.holders, ?_, ?_, ?_⟩
  · intro count
    have next := alike.next (1 + count)
    rwa [← Nat.add_assoc, ← Nat.add_assoc] at next
  · rintro session ⟨⟩
    rw [← sameNext, given_opened first, given_opened second]
    rfl
  · rintro session ⟨⟩ handle tag
    rw [tagOf_eq_given, given_opened first]
    nofun

/-! ## Changes -/

theorem withClasses (alike : reading.Machines held first second) (classes : Array MachineClass) :
    reading.Machines held { first with classes := classes } { second with classes := classes } :=
  ⟨rfl, alike.faults, alike.enumeration, alike.holders, alike.next, alike.given, alike.fits⟩

theorem withFaults (alike : reading.Machines held first second) (faults : List (HostOp × Fault)) :
    reading.Machines held { first with faults := faults } { second with faults := faults } :=
  ⟨alike.classes, rfl, alike.enumeration, alike.holders, alike.next, alike.given, alike.fits⟩

theorem withHolders (alike : reading.Machines held first second)
    {holders holders' : Std.TreeMap Nat Nat}
    (same : ∀ number, 0 < number → holders'[number + reading.shift]? = holders[number]?) :
    reading.Machines held { first with holders := holders } { second with holders := holders' } :=
  ⟨alike.classes, alike.faults, alike.enumeration, same, alike.next, alike.given, alike.fits⟩

/-- The key under which a number of holders is put is met at the same time. -/
theorem number_eq_add_iff (reading : Reading) {number other : Nat} (positive : 0 < other) :
    reading.number number = other + reading.shift ↔ number = other := by
  unfold Reading.number
  split <;> omega

theorem setHolders (alike : reading.Machines held first second) (number : Nat)
    (count : Option Nat) :
    reading.Machines held (first.apply (.setHolders number count)).2
      (second.apply (.setHolders (reading.number number) count)).2 := by
  cases count with
  | none =>
      refine alike.withHolders fun other positive => ?_
      simp only [Std.TreeMap.getElem?_erase, Nat.compare_eq_eq, number_eq_add_iff reading positive,
        alike.holders other positive]
  | some count =>
      refine alike.withHolders fun other positive => ?_
      simp only [Std.TreeMap.getElem?_insert, Nat.compare_eq_eq, number_eq_add_iff reading positive,
        alike.holders other positive]

theorem load (alike : reading.Machines held first second) (signature : String)
    (status : ClassStatus) :
    reading.Machines held (first.load signature status) (second.load signature status) := by
  simp only [Machine.load, alike.classes]
  exact alike.withClasses _

theorem loadMany (alike : reading.Machines held first second) (stem : String)
    (status : ClassStatus) (count number : Nat) :
    reading.Machines held (Machine.loadMany stem status count number first)
      (Machine.loadMany stem status count number second) := by
  induction count generalizing number first second with
  | zero => exact alike
  | succ count ih => exact ih (alike.load _ _) (number + 1)

/-- **A change to both machines leaves them alike**, and has the same answer. -/
theorem apply (alike : reading.Machines held first second) {change : Change}
    (notWritten : ∀ session handle number, change ≠ .writeTag session handle number) :
    (second.apply (reading.change change)).1 = (first.apply change).1 ∧
      reading.Machines held (first.apply change).2 (second.apply (reading.change change)).2 := by
  cases change with
  | load signature status =>
      refine ⟨?_, alike.load signature status⟩
      simp only [Reading.change, Machine.apply, alike.classes]
  | loadMany stem count status =>
      have after := alike.loadMany stem status count 0
      refine ⟨?_, after⟩
      simp only [Reading.change, Machine.apply, after.classes]
  | unload | reload | unloadEvery | rename | setStatus =>
      simp only [Reading.change, Machine.apply, Machine.setLoaded, Machine.changeClass,
        alike.classes]
      exact ⟨trivial, alike.withClasses _⟩
  | setFault | heal =>
      simp only [Reading.change, Machine.apply, Machine.withFault, alike.faults]
      exact ⟨trivial, alike.withFaults _⟩
  | setEnumeration enumeration =>
      exact ⟨rfl, alike.classes, alike.faults, rfl, alike.holders, alike.next, alike.given,
        alike.fits⟩
  | setHolders number count =>
      have after := alike.setHolders number count
      cases count with
      | none => exact ⟨rfl, after⟩
      | some count => exact ⟨rfl, after⟩
  | writeTag session handle number => exact absurd rfl (notWritten session handle number)

/-- A tag that fits may be written into a session of both machines, or taken away. -/
theorem writeTag (alike : reading.Machines held first second)
    (distinct : Function.Injective reading.session) (session handle : Nat) {number : Nat}
    (fits : reading.NumberFits number) :
    reading.Machines held (first.apply (.writeTag session handle number)).2
      (second.apply (.writeTag (reading.session session) handle (reading.number number))).2 := by
  have after : reading.Machines held (first.hang session handle (Tag.ofNat? number)) _ :=
    alike.hang (fun _ _ same => distinct same) handle (Tag.ofNat? number)
      fun _ asTag => fits_of_ofNat? fits asTag
  rw [← ofNat?_number fits] at after
  exact after

end Machines

end Reading

end ClassLiveness

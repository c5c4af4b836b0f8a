import ClassLiveness.Proofs.Contract.Alarms
import ClassLiveness.Proofs.Scenario.Likeness
import ClassLiveness.Proofs.Tracker.Admission

/-!
# A machine that ages

As long as no class is loaded again, a tag that has lost its live holder does not get one
back: classes are unloaded for good (`Machine.Ages`), a class that is loaded is new and carries
no tag (`Machine.Tended`), and a tag that is hung on a class is fresh.  So what a pass would
report stays to be reported (`Machine.Ages.isHeld_of`, `Machine.Tended.isHeld_of_hang`).

On such a machine a pass over the classes of a session asks about each of them, reports those
without a live holder, and leaves the machine as it is (`Tracker.perform_pass`).
-/

set_option autoImplicit false

namespace ClassLiveness

namespace Machine

/-! ## Tags with a live holder -/

/-- A tag has a live holder in a session. -/
def isHeld (machine : Machine) (session : Nat) (tag : Tag) : Bool :=
  machine.holderCount session tag != 0

theorem isHeld_iff {machine : Machine} {session : Nat} {tag : Tag} :
    machine.isHeld session tag = true ↔
      ∃ handle, machine.isLoaded handle = true ∧ machine.tagOf session handle = some tag := by
  rw [isHeld, bne_iff_ne, ← length_holderList, ne_eq, List.length_eq_zero_iff]
  constructor
  · intro some
    obtain ⟨handle, member⟩ := List.exists_mem_of_ne_nil _ some
    exact ⟨handle, mem_holderList.mp member⟩
  · rintro ⟨handle, holds⟩ none
    have member := mem_holderList.mpr holds
    rw [none] at member
    cases member

/-- In a session that is not crowded a tag has one live holder or none. -/
theorem holderCount_eq {machine : Machine} {session bound : Nat} {tags : Nat → Option Tag}
    (isOpen : machine.given session = some tags) (uncrowded : Uncrowded tags bound) (tag : Tag) :
    machine.holderCount session tag = (machine.isHeld session tag).toNat := by
  have carry : ∀ handle ∈ machine.holderList session tag, tags handle = some tag := by
    intro handle member
    rw [← tagOf_eq isOpen]
    exact (mem_holderList.mp member).2
  have distinct : (machine.holderList session tag).Nodup := List.nodup_range.filter _
  have atMost := uncrowded.count_le_one distinct carry
  rw [length_holderList] at atMost
  unfold isHeld
  generalize machine.holderCount session tag = count at atMost ⊢
  match count with
  | 0 => rfl
  | 1 => rfl

/-- The tags of an open session after a change to one of them. -/
theorem tagOf_hang {machine : Machine} {session : Nat} {tags : Nat → Option Tag}
    (isOpen : machine.given session = some tags) (handle : Nat) (carried : Option Tag)
    (other : Nat) :
    (machine.hang session handle carried).tagOf session other =
      Function.update tags handle carried other := by
  refine tagOf_eq ?_ other
  rw [given_hang, isOpen, Option.map_some]

/-! ## A session that is looked after -/

/-- No call on the machine fails, the live holders are counted, and in a session only classes
of the machine carry tags. -/
structure Tended (machine : Machine) (session : Nat) : Prop where
  faultless : machine.faults = []
  lawful : sharedContract.lawful machine
  known : ∀ handle tag, machine.tagOf session handle = some tag → handle < machine.classes.size

theorem answer_of_faultless {machine : Machine} (faultless : machine.faults = [])
    (call : Call Nat Nat) : host.answer call machine = reply call machine := by
  have unstruck : machine.strike call.op = (none, machine) := by
    simp only [strike, fault?, faultless, List.lookup_nil]
  simp only [host, unstruck]

/-- A class whose signature is given is loaded. -/
theorem isLoaded_of_reply {machine after : Machine} {handle : Nat} {signature : String}
    (named : reply (.signatureOf handle) machine = (.ok signature, after)) :
    machine.isLoaded handle = true ∧ after = machine := by
  simp only [reply] at named
  split at named
  · rename_i found isThere
    split at named
    · rename_i loaded
      cases named
      refine ⟨?_, rfl⟩
      rw [isLoaded, isThere]
      exact loaded
    · cases named
  · cases named

theorem lt_size_of_isLoaded {machine : Machine} {handle : Nat}
    (loaded : machine.isLoaded handle = true) : handle < machine.classes.size := by
  by_contra outside
  rw [Machine.isLoaded, Array.getElem?_eq_none (Nat.le_of_not_lt outside)] at loaded
  cases loaded

namespace Tended

variable {machine : Machine} {session : Nat}

/-- The live holders of a tag are counted, and nothing else is done. -/
theorem liveCount (tended : machine.Tended session) (tag : Tag) :
    host.answer (.liveCount session tag) machine =
      (.ok (machine.holderCount session tag), machine) := by
  rw [answer_of_faultless tended.faultless]
  have counted : machine.holders[tag.number]? = none := tended.lawful.1 tag.number
  simp only [reply, counted, Option.getD_none]

/-- A class that is admitted is loaded, and carries its tag in the session. -/
theorem admission {after : Machine} {handle : Nat} {checked : Bool} {tags left : TagSupply}
    {record : ClassRecord} (tended : machine.Tended session)
    (admitted : Tracker.Admission host session handle checked tags machine record left after) :
    machine.isLoaded handle = true ∧ after = machine.hang session handle (some record.tag) := by
  cases admitted with
  | @intro screened named _ tag _ signature passes _ naming tagging =>
      have unscreened : screened = machine := by
        cases passes with
        | unchecked => rfl
        | untagged told =>
            rw [answer_of_faultless tended.faultless] at told
            exact (congrArg Prod.snd told).symm
      rw [unscreened, answer_of_faultless tended.faultless] at naming
      obtain ⟨loaded, rfl⟩ := isLoaded_of_reply naming
      rw [answer_of_faultless tended.faultless] at tagging
      cases tagging
      exact ⟨loaded, rfl⟩

/-- A session is looked after as before when a tag is hung on a class that is loaded. -/
theorem hang (tended : machine.Tended session) {tags : Nat → Option Tag}
    (isOpen : machine.given session = some tags) {handle : Nat}
    (loaded : machine.isLoaded handle = true) (tag : Tag) :
    (machine.hang session handle (some tag)).Tended session := by
  have lawful := sharedContract.lawful_after (.setTag session handle tag) machine tended.lawful
  rw [answer_of_faultless tended.faultless] at lawful
  have frame : machine.hang session handle (some tag) =
      { machine with sessions := (machine.hang session handle (some tag)).sessions } :=
    changeTags_eq machine session _
  refine ⟨?_, lawful, fun other carried carries => ?_⟩
  · rw [frame]
    exact tended.faultless
  · have sameSize : (machine.hang session handle (some tag)).classes.size =
        machine.classes.size := by rw [frame]
    rw [sameSize]
    rw [tagOf_hang isOpen] at carries
    by_cases same : other = handle
    · rw [same]
      exact lt_size_of_isLoaded loaded
    · rw [Function.update_of_ne same] at carries
      exact tended.known other carried ((tagOf_eq isOpen other).trans carries)

/-- A tag that is hung on a class gives no live holder to another tag. -/
theorem isHeld_of_hang {tags : Nat → Option Tag} (isOpen : machine.given session = some tags)
    {handle : Nat} {tag other : Tag} (different : other ≠ tag)
    (held : (machine.hang session handle (some tag)).isHeld session other = true) :
    machine.isHeld session other = true := by
  have frame : machine.hang session handle (some tag) =
      { machine with sessions := (machine.hang session handle (some tag)).sessions } :=
    changeTags_eq machine session _
  obtain ⟨holder, loaded, carries⟩ := isHeld_iff.mp held
  have wasLoaded : machine.isLoaded holder = true := by
    rw [frame] at loaded
    exact loaded
  rw [tagOf_hang isOpen] at carries
  by_cases same : holder = handle
  · rw [same, Function.update_self] at carries
    cases carries
    exact absurd rfl different
  · rw [Function.update_of_ne same] at carries
    exact isHeld_iff.mpr ⟨holder, wasLoaded, (tagOf_eq isOpen holder).trans carries⟩

end Tended

/-! ## Ageing -/

/-- Classes may come to be loaded, but only new ones, and nothing happens to the sessions, the
faults and the counts. -/
structure Ages (before after : Machine) : Prop where
  sessions : after.sessions = before.sessions
  opened : after.opened = before.opened
  faults : after.faults = before.faults
  holders : after.holders = before.holders
  size_le : before.classes.size ≤ after.classes.size
  loaded_of : ∀ handle, handle < before.classes.size → after.isLoaded handle = true →
    before.isLoaded handle = true

namespace Ages

variable {before after last : Machine} {session : Nat}

theorem refl (machine : Machine) : Ages machine machine :=
  ⟨rfl, rfl, rfl, rfl, Nat.le_refl _, fun _ _ loaded => loaded⟩

theorem trans (one : Ages before after) (other : Ages after last) : Ages before last := by
  refine ⟨other.sessions.trans one.sessions, other.opened.trans one.opened,
    other.faults.trans one.faults, other.holders.trans one.holders,
    Nat.le_trans one.size_le other.size_le, fun handle inside loaded => ?_⟩
  exact one.loaded_of handle inside
    (other.loaded_of handle (Nat.lt_of_lt_of_le inside one.size_le) loaded)

theorem tagOf_eq (ages : Ages before after) (session handle : Nat) :
    after.tagOf session handle = before.tagOf session handle := by
  rw [tagOf, tagOf, ages.sessions]

/-- A session is looked after as before on a machine that has aged. -/
theorem tended (ages : Ages before after) (tended : before.Tended session) :
    after.Tended session := by
  obtain ⟨lawful, numbered⟩ := tended.lawful
  refine ⟨ages.faults.trans tended.faultless, ⟨fun number => ?_, fun other above => ?_⟩,
    fun handle tag carries => ?_⟩
  · rw [ages.holders]
    exact lawful number
  · rw [ages.opened] at above
    rw [ages.sessions]
    exact numbered other above
  · rw [ages.tagOf_eq] at carries
    exact Nat.lt_of_lt_of_le (tended.known handle tag carries) ages.size_le

/-- **A tag without a live holder does not get one as the machine ages.** -/
theorem isHeld_of (ages : Ages before after) (tended : before.Tended session) {tag : Tag}
    (held : after.isHeld session tag = true) : before.isHeld session tag = true := by
  obtain ⟨handle, loaded, carries⟩ := isHeld_iff.mp held
  rw [ages.tagOf_eq] at carries
  have inside := tended.known handle tag carries
  exact isHeld_iff.mpr ⟨handle, ages.loaded_of handle inside loaded, carries⟩

end Ages

/-- A change that loads new classes, unloads, renames, or gives another status. -/
def Change.ages : Change → Bool
  | .load .. | .loadMany .. | .unload _ | .unloadEvery .. | .rename .. | .setStatus .. => true
  | .reload _ | .setFault .. | .heal _ | .setEnumeration _ | .setHolders .. | .writeTag .. => false

theorem ages_load (machine : Machine) (signature : String) (status : ClassStatus) :
    Ages machine (machine.load signature status) := by
  refine ⟨rfl, rfl, rfl, rfl, ?_, fun handle inside loaded => ?_⟩
  · rw [load, Array.size_push]
    exact Nat.le_succ _
  · rw [isLoaded, load, Array.getElem?_push_lt inside] at loaded
    rw [isLoaded, Array.getElem?_eq_getElem inside]
    exact loaded

/-- A class is changed, and is not loaded by it. -/
theorem ages_changeClass (machine : Machine) (handle : Nat) {change : MachineClass → MachineClass}
    (loaded_of : ∀ found, (change found).loaded = true → found.loaded = true) :
    Ages machine (machine.changeClass handle change) := by
  refine ⟨rfl, rfl, rfl, rfl, ?_, fun other inside loaded => ?_⟩
  · exact Nat.le_of_eq (Array.size_modify ..).symm
  · rw [isLoaded, changeClass, Array.getElem?_modify] at loaded
    rw [isLoaded]
    split at loaded
    · rw [Array.getElem?_eq_getElem inside] at loaded ⊢
      exact loaded_of _ loaded
    · exact loaded

/-- **The machine ages by loads of new classes, unloads, renames and changes of status.** -/
theorem ages_apply {change : Change} (ages : change.ages = true) (machine : Machine) :
    Ages machine (machine.apply change).2 := by
  cases change with
  | load signature status => exact ages_load machine signature status
  | loadMany stem count status =>
      have loads : ∀ number (machine : Machine),
          Ages machine (loadMany stem status count number machine) := by
        induction count with
        | zero => exact fun _ machine => .refl machine
        | succ fewer ih => exact fun _ machine => (ages_load machine _ _).trans (ih ages _ _)
      exact loads 0 machine
  | unload handle => exact ages_changeClass machine handle fun _ loaded => nomatch loaded
  | unloadEvery stride first =>
      refine ⟨rfl, rfl, rfl, rfl, ?_, fun handle inside loaded => ?_⟩
      · simp only [apply, Array.size_mapIdx, Nat.le_refl]
      · simp only [apply, isLoaded, Array.getElem?_mapIdx, Array.getElem?_eq_getElem inside,
          Option.map_some, Option.getD_some] at loaded ⊢
        split at loaded
        · cases loaded
        · exact loaded
  | rename handle signature => exact ages_changeClass machine handle fun _ loaded => loaded
  | setStatus handle status => exact ages_changeClass machine handle fun _ loaded => loaded
  | _ => cases ages

end Machine

namespace Tracker

open Machine

/-! ## A pass -/

/-- What a pass over a machine that is looked after leaves of a tracker. -/
structure Swept (machine : Machine) (session : Nat) (before after : Tracker Nat) : Prop where
  sound : after.Sound
  tracked : after.tracked =
    before.tracked.filter fun record => machine.isHeld session record.tag
  tags : after.tags = before.tags
  session : after.session = before.session
  settings : after.settings = before.settings
  poisoned : after.poisoned = before.poisoned

/-- A question about a tag is answered by whether it has a live holder. -/
theorem isLive_of_tended {machine : Machine} {session bound : Nat} {tags : Nat → Option Tag}
    (tended : machine.Tended session) (isOpen : machine.given session = some tags)
    (uncrowded : Uncrowded tags bound) {dialogue : Dialogue Machine Nat Nat}
    (atHost : dialogue.host = machine) (tag : Tag) :
    Machine.host.isLive session tag dialogue = .ok (machine.isHeld session tag)
      ⟨machine, dialogue.calls ++ [⟨.liveCount session tag, none⟩]⟩ := by
  rw [Host.isLive_apply, atHost, tended.liveCount, holderCount_eq isOpen uncrowded]
  cases machine.isHeld session tag <;> rfl

/-- The questions of a pass are answered, and leave the machine as it is. -/
theorem inquest_of_tended (tracker : Tracker Nat) {machine : Machine} {session bound : Nat}
    {tags : Nat → Option Tag} (tended : machine.Tended session)
    (isOpen : machine.given session = some tags) (uncrowded : Uncrowded tags bound)
    {dialogue : Dialogue Machine Nat Nat} (atHost : dialogue.host = machine) :
    (tracker.inquest Machine.host session dialogue).failure? = none ∧
      (tracker.inquest Machine.host session dialogue).state.host = machine ∧
      (tracker.inquest Machine.host session dialogue).kept =
        tracker.tracked.filter (fun record => machine.isHeld session record.tag) ∧
      (tracker.inquest Machine.host session dialogue).dead =
        tracker.tracked.filter fun record => !machine.isHeld session record.tag := by
  have told := fun {now : Dialogue Machine Nat Nat} (kept : now.host = machine) (tag : Tag) =>
    isLive_of_tended tended isOpen uncrowded kept tag
  have ends := Registry.inquire_ends (Machine.host.isLive session) tracker.tracked dialogue
    (fun now => now.host = machine) (fun _ _ => False) ?_ ?_ atHost
  · have answered : (tracker.inquest Machine.host session dialogue).failure? = none :=
      Option.eq_none_iff_forall_ne_some.mpr fun reason failed => ends.2 reason failed
    have sorted := Registry.inquire_of_truth (Machine.host.isLive session) tracker.tracked dialogue
      (fun now => now.host = machine) (fun record => machine.isHeld session record.tag) ?_ atHost
      answered
    · exact ⟨answered, ends.1 answered, (Registry.kept_of_answered answered).trans sorted.1,
        sorted.2⟩
    · intro record _ now live later kept answer
      cases (told kept record.tag).symm.trans answer
      exact ⟨rfl, rfl⟩
  · intro tag now live later kept answer
    cases (told kept tag).symm.trans answer
    rfl
  · intro tag now reason later kept failed
    cases (told kept tag).symm.trans failed

/-- **A pass over a session that is looked after is completed**: it reports the records whose
tags have no live holder and keeps the others, and the machine stays as it is. -/
theorem perform_pass {tracker : Tracker Nat} {machine : Machine} {session : Nat}
    (placed : Placed sharedContract tracker machine) (tended : machine.Tended session)
    (usable : tracker.poisoned = false) (opened : tracker.session = some session)
    (fits : tracker.settings.outputCapacity ≤ UnloadReport.greatestCapacity) :
    let dead := tracker.tracked.filter fun record => !machine.isHeld session record.tag
    (tracker.perform Machine.host .processUnloads machine).result =
        .ok (.report ⟨dead.reverse.map ClassRecord.signature⟩) ∧
      (tracker.perform Machine.host .processUnloads machine).host = machine ∧
      Swept machine session tracker
        (tracker.perform Machine.host .processUnloads machine).tracker ∧
      (tracker.perform Machine.host .processUnloads machine).tracker.passes.totalUnloaded =
        tracker.passes.totalUnloaded + dead.length := by
  intro dead
  obtain ⟨tags, isOpen, uncrowded⟩ := placed.isOpen session opened
  obtain ⟨answered, atHost, kept, found⟩ :=
    inquest_of_tended tracker tended isOpen (uncrowded usable)
      (rfl : (⟨machine, []⟩ : Dialogue Machine Nat Nat).host = machine)
  have keeps := placed.sound.keeps
  have sound := (placed.sound.perform Machine.host .processUnloads machine).1
  have course : (operation Machine.host .processUnloads).Ends (.start tracker machine)
      (fun reply after => ∃ report, reply = .report report ∧
        Course Machine.host (.start tracker machine) .processUnloads (.ok (.report report)) after)
      (fun stop => Course Machine.host (.start tracker machine) .processUnloads (.error stop)) :=
    (processUnloads_course Machine.host (.inl rfl) keeps).bind fun report _ course =>
      ⟨report, rfl, course⟩
  obtain ⟨after, outcome, returned, stopped⟩ := perform_ends course
  rw [outcome] at sound ⊢
  cases ended : (tracker.perform Machine.host .processUnloads machine).result with
  | ok reply =>
      obtain ⟨report, rfl, course⟩ := returned reply ended
      cases course with
      | viewed _ _ view => exact view.elim
      | passed _ _ openedHere inspection =>
          cases opened.symm.trans openedHere
          cases inspection with
          | completed _ _ keepsAfter =>
              refine ⟨?_, atHost, ⟨sound, keepsAfter.records_eq.trans kept, rfl, rfl, rfl, rfl⟩, ?_⟩
              · change Except.ok (Reply.report ⟨(tracker.inquest Machine.host session
                  ⟨machine, []⟩).dead.reverse.map ClassRecord.signature⟩) = _
                rw [found]
              · change tracker.passes.totalUnloaded +
                  (tracker.inquest Machine.host session ⟨machine, []⟩).dead.length = _
                rw [found]
  | error stop =>
      cases stopped stop ended with
      | refused refuses =>
          cases refuses with
          | poisoned _ poisoned => cases usable.symm.trans poisoned
          | notInitialized _ _ _ closed => cases opened.symm.trans closed
      | unpassed _ _ openedHere inspection =>
          cases opened.symm.trans openedHere
          cases inspection with
          | overfull full => exact absurd fits (Nat.not_le_of_lt full)
          | failed _ failed => cases answered.symm.trans failed

/-! ## A startup enumeration -/

/-- A session that is looked after is being filled. -/
structure Filling (session : Nat) (scene : Scene Machine Nat Nat) : Prop where
  sound : scene.tracker.Sound
  tended : scene.host.Tended session
  isOpen : ∃ tags, scene.host.given session = some tags

theorem Attempt.filling {session handle : Nat} {tag : Tag} {before after : Scene Machine Nat Nat}
    (attempt : Attempt Machine.host session handle before (.ok tag) after)
    (filling : Filling session before) (opened : before.tracker.session = some session) :
    Filling session after := by
  obtain ⟨sound, tended, tags, isOpen⟩ := filling
  obtain ⟨record, left, -, admitted, enlarged⟩ := attempt.admission sound opened
  obtain ⟨loaded, same⟩ := tended.admission admitted
  refine ⟨enlarged.sound, ?_, Function.update tags handle (some record.tag), ?_⟩
  · rw [same]
    exact tended.hang isOpen loaded record.tag
  · rw [same, given_hang, isOpen, Option.map_some]

/-- A session that is opened on a machine without faults is looked after. -/
theorem tended_of_opening {machine after : Machine} {session : Nat}
    (faultless : machine.faults = []) (lawful : sharedContract.lawful machine)
    (opening : Machine.host.answer .openSession machine = (.ok session, after)) :
    after.Tended session ∧ after.given session = some fun _ => none := by
  have isOpen : after.given session = some fun _ => none := sharedContract.opens lawful opening
  have lawfulAfter := sharedContract.lawful_of_answer lawful opening
  rw [answer_of_faultless faultless] at opening
  refine ⟨⟨?_, lawfulAfter, fun handle tag carries => ?_⟩, isOpen⟩
  · cases opening
    exact faultless
  · rw [tagOf_eq isOpen] at carries
    cases carries

/-- The classes of a startup enumeration fill a session that is looked after. -/
theorem Population.filling {before after : Scene Machine Nat Nat}
    (populated : Population Machine.host before (.ok ()) after)
    (faultless : before.host.faults = []) (lawful : sharedContract.lawful before.host) :
    ∃ session, after.tracker.session = some session ∧ after.host.Tended session := by
  cases populated with
  | @complete session enumerated afterOpening afterListing last opening listing tracked =>
      obtain ⟨tended, isOpen⟩ := tended_of_opening faultless lawful opening
      rw [answer_of_faultless tended.faultless] at listing
      cases listing
      have filling : Filling session (before.listed session afterOpening afterOpening) :=
        ⟨.of_empty rfl, tended, _, isOpen⟩
      have filled : last.tracker.session = some session ∧ Filling session last :=
        (trackAll_ends (Filling session) (fun _ _ => True)
          (fun _ _ _ _ openedNow fillingNow attempt => attempt.filling fillingNow openedNow)
          (fun _ _ _ _ _ _ _ => trivial) _ rfl filling).ok tracked
      exact ⟨session, filled.1, filled.2.tended⟩

/-- **A tracker that is initialized is in a session that is looked after**, if no call on the
machine fails and the live holders are counted. -/
theorem tended_of_startUp {tracker : Tracker Nat} {machine : Machine} (sound : tracker.Sound)
    (faultless : machine.faults = []) (lawful : sharedContract.lawful machine)
    (initialized : (tracker.perform Machine.host .startUp machine).result = .ok .done) :
    let outcome := tracker.perform Machine.host .startUp machine
    Placed sharedContract outcome.tracker outcome.host ∧ outcome.tracker.poisoned = false ∧
      ∃ session, outcome.tracker.session = some session ∧ outcome.host.Tended session := by
  intro outcome
  obtain ⟨after, performed, course⟩ :=
    perform_course Machine.host .startUp tracker machine sound.keeps
  rw [initialized] at course
  cases course with
  | viewed _ notStart => exact absurd rfl notStart
  | @started last usable closed populated =>
      have placed : Placed sharedContract outcome.tracker outcome.host :=
        (Placed.of_closed sound closed machine).perform lawful .startUp
      have isAfter : outcome.tracker = last.tracker ∧ outcome.host = last.host :=
        ⟨congrArg Outcome.tracker performed, congrArg Outcome.host performed⟩
      rw [isAfter.1, isAfter.2] at placed ⊢
      exact ⟨placed, populated.poisoned_eq.trans usable, populated.filling faultless lawful⟩

end Tracker

end ClassLiveness

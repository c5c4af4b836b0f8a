import ClassLiveness.Proofs.Contract.Reports
import ClassLiveness.Proofs.Tracker.Checking
import Mathlib.Data.Prod.Basic

/-!
# One record for every class

While duplicates are checked for, and the host keeps its promises, a command that comes to
a class which it is to track (`Tracker.Applied`) ends there with a duplicate exactly if the
class has been tracked since the last reset, even if its record has left in the meantime.
Then the tracker has what it had when it came to the class (`Refused`).  Otherwise the class
gets a record, if there is a tag left and the host does its part (`Accepted`).

All this is said of what the command comes to: of its result and its calls, of the tracker
that it leaves, and of the roll of the tracked classes after it (`Decided`).  It holds of
every addition and of every entry of a startup enumeration, and no command fails with a
duplicate for another reason (`Lives.one_record_per_class`).
-/

set_option autoImplicit false

namespace ClassLiveness

variable {σ C S : Type}

/-! ## What a command does about a class -/

open Tracker

/-- The classes that have been tracked up to a scene: those on the roll at the start of
the command, and those that the calls in the scene tell of. -/
def Scene.known (scene : Scene σ C S) (host : Host σ C S) (state : σ)
    (roll : List (C × ClassRecord)) : List (C × ClassRecord) :=
  (listen host state roll scene.calls).roll

/-- A command ends at a class because of a record of the class: the error has the tag of
the record, and the host has only been asked for the tag of the class.  Neither the supply
of tags, nor the records, nor the roll have changed since the command came to the class. -/
structure Refused (host : Host σ C S) (outcome : Outcome σ C S Reply) (state : σ)
    (roll : List (C × ClassRecord)) (handle : C) (session : S) (scene : Scene σ C S)
    (record : ClassRecord) : Prop where
  result : outcome.result = .error (.error (.duplicateClass record.tag))
  calls : outcome.calls = scene.calls ++ [⟨.tagOf session handle, none⟩]
  tags : outcome.tracker.tags = scene.tracker.tags
  tracked : outcome.tracker.tracked = scene.tracker.tracked
  roll : (listen host state roll outcome.calls).roll = scene.known host state roll

/-- Some calls and the records after them are those of a class that comes to be tracked in
a scene with a record: the class is put on the roll, and the record in front of the others. -/
structure Enlisted (host : Host σ C S) (state : σ) (roll : List (C × ClassRecord)) (handle : C)
    (session : S) (scene : Scene σ C S) (record : ClassRecord) (calls : List (CallRecord C S))
    (tracked : List ClassRecord) : Prop where
  calls_eq : calls = scene.calls ++ trackingCalls session handle record.tag
  tracked_eq : tracked = record :: scene.tracker.tracked
  roll_eq : (listen host state roll calls).roll =
    scene.known host state roll ++ [(handle, record)]

/-- A class that a command has come to is accepted with a record, and the command goes on. -/
inductive Accepted (host : Host σ C S) (tracker : Tracker S) (state : σ)
    (roll : List (C × ClassRecord)) (handle : C) (session : S) (scene : Scene σ C S)
    (record : ClassRecord) : Command C → Prop where
  /-- The class was added. -/
  | added :
      (tracker.perform host (.add handle) state).result = .ok (.tag record.tag) →
      Enlisted host state roll handle session scene record
        (tracker.perform host (.add handle) state).calls
        (tracker.perform host (.add handle) state).tracker.tracked →
        Accepted host tracker state roll handle session scene record (.add handle)
  /-- The class was the last of an enumeration. -/
  | last :
      (tracker.perform host .startUp state).result = .ok .done →
      Enlisted host state roll handle session scene record
        (tracker.perform host .startUp state).calls
        (tracker.perform host .startUp state).tracker.tracked →
        Accepted host tracker state roll handle session scene record .startUp
  /-- The enumeration comes to the next class, and however it ends, it takes nothing back. -/
  | next {next : C} {after : Scene σ C S} :
      Applied host tracker state .startUp next session after →
      Enlisted host state roll handle session scene record after.calls after.tracker.tracked →
      after.calls <+: (tracker.perform host .startUp state).calls →
      after.tracker.tracked <:+ (tracker.perform host .startUp state).tracker.tracked →
      after.known host state roll <+:
        (listen host state roll (tracker.perform host .startUp state).calls).roll →
        Accepted host tracker state roll handle session scene record .startUp

/-- A command ends at a class for some reason.  The class is not tracked, and not on the
roll for it. -/
structure Halted (host : Host σ C S) (outcome : Outcome σ C S Reply) (state : σ)
    (roll : List (C × ClassRecord)) (scene : Scene σ C S) (stop : Stop) : Prop where
  result : outcome.result = .error stop
  tracked : outcome.tracker.tracked = scene.tracker.tracked
  roll : (listen host state roll outcome.calls).roll = scene.known host state roll

/-- What a command comes to that has come to a class in a scene, after the host has said
which tag the class has.  It ends there with a duplicate exactly if the class is among those
that have been tracked; and it puts the class on the roll or is stopped. -/
structure Decided (host : Host σ C S) (tracker : Tracker S) (state : σ)
    (roll : List (C × ClassRecord)) (command : Command C) (handle : C) (session : S)
    (scene : Scene σ C S) (told : σ) : Prop where
  duplicate_iff :
    (∃ tag,
      (tracker.perform host command state).result = .error (.error (.duplicateClass tag)) ∧
      (tracker.perform host command state).calls =
        scene.calls ++ [⟨.tagOf session handle, none⟩]) ↔
      ∃ record, (handle, record) ∈ scene.known host state roll
  refused : ∀ record, (handle, record) ∈ scene.known host state roll →
    Refused host (tracker.perform host command state) state roll handle session scene record
  accepted : (∀ record, (handle, record) ∉ scene.known host state roll) →
    ∀ tag tags signature named tagged,
      scene.tracker.tags.allocate = .ok (tag, tags) →
      host.answer (.signatureOf handle) told = (.ok signature, named) →
      host.answer (.setTag session handle tag) named = (.ok (), tagged) →
        Accepted host tracker state roll handle session scene ⟨tag, signature⟩ command
  accepted_or_halted :
    (∃ record, Accepted host tracker state roll handle session scene record command) ∨
      ∃ stop, Halted host (tracker.perform host command state) state roll scene stop

/-- A command comes to a class that has been tracked with a record, and the host says which
tag the class has. -/
def Repeats (host : Host σ C S) (tracker : Tracker S) (state : σ) (roll : List (C × ClassRecord))
    (command : Command C) (record : ClassRecord) : Prop :=
  ∃ handle session scene carried told,
    Applied host tracker state command handle session scene ∧
    host.answer (.tagOf session handle) scene.host = (.ok carried, told) ∧
    (handle, record) ∈ scene.known host state roll

/-! ## One record for every class -/

section

variable {host : Host σ C S} {contract : SessionContract host} {settings : Settings}
  {tracker : Tracker S} {state : σ} {log : List (CallRecord C S)}
  {roll : List (C × ClassRecord)} {command : Command C} {handle : C} {session : S}
  {scene : Scene σ C S}

/-- In the scene of a class that is to be tracked the records are attributed, and the
session agrees with the calls. -/
theorem Tracker.Applied.upheld (applied : Applied host tracker state command handle session scene)
    (sustained : Sustained contract settings tracker state log) :
    Upheld contract settings session log scene := by
  cases applied with
  | added usable opened => exact sustained.upheld usable opened
  | @enumerated _ _ _ _ _ afterOpening afterListing _ usable closed opening listing _ tracked =>
      have attributed : Attributed settings tracker (log ++ []) := by
        rw [List.append_nil]
        exact sustained.attributed
      have listed : Upheld contract settings session log
          (((Scene.start tracker state).written (.entered .startup)).listed session afterOpening
            afterListing) :=
        upheld_listed sustained.lawful attributed closed opening listing
      exact (trackAll_upheld _ listed).ok tracked

theorem Tracker.Applied.enrolled
    (applied : Applied host tracker state command handle session scene)
    (listed : Listed tracker log roll) : Enrolled host state roll log scene := by
  have start := listed.start host state
  cases applied with
  | added => exact start
  | enumerated _ _ opening listing _ tracked =>
      have entered : Enrolled host state roll log
          ((Scene.start tracker state).written (.entered .startup)) :=
        start.shrink rfl fun _ member => member
      have listedScene := enrolled_listed entered opening listing
      exact (trackAll_enrolled _ (.of_empty rfl) rfl listedScene).ok tracked

/-- The tag that the host has for a class is that of the record with which the class is
on the roll. -/
theorem carried_iff (upheld : Upheld contract settings session log scene)
    (enrolled : Enrolled host state roll log scene)
    (undisputed : Undisputed settings (log ++ scene.calls)) {carried : Option Tag} {told : σ}
    (answered : host.answer (.tagOf session handle) scene.host = (.ok carried, told)) (tag : Tag) :
    carried = some tag ↔
      ∃ record, (handle, record) ∈ scene.known host state roll ∧
        record.tag = tag := by
  obtain ⟨given, opened, same⟩ := upheld.agrees
  rw [contract.reads upheld.lawful opened answered, same undisputed, ← enrolled.marks_eq,
    rollMarks, List.mem_map]
  constructor
  · rintro ⟨⟨_, record⟩, onRoll, equal⟩
    cases equal
    exact ⟨record, onRoll, rfl⟩
  · rintro ⟨record, onRoll, rfl⟩
    exact ⟨(handle, record), onRoll, rfl⟩

/-- The tracked records are of different classes. -/
theorem nodup_owners (attributed : Attributed settings tracker log)
    (listed : Listed tracker log roll) (undisputed : Undisputed settings log) :
    (∀ record ∈ tracker.tracked, (owner? roll record).isSome) ∧
      (tracker.tracked.map (owner? roll)).Nodup := by
  have once := listed.once attributed.tags_nodup
  have owned : ∀ record ∈ tracker.tracked, ∃ handle, owner? roll record = some handle := by
    intro record member
    obtain ⟨handle, onRoll⟩ := listed.enrolled record member
    exact ⟨handle, (owner?_eq_some_iff once).mpr onRoll⟩
  refine ⟨?_, List.Nodup.map_on ?_ attributed.sound.nodup⟩
  · intro record member
    obtain ⟨handle, owner⟩ := owned record member
    rw [owner, Option.isSome_some]
  · intro first memberFirst second memberSecond same
    obtain ⟨handle, owner⟩ := owned first memberFirst
    have onRollFirst := (owner?_eq_some_iff once).mp owner
    have onRollSecond := (owner?_eq_some_iff once).mp (same.symm.trans owner)
    have handles : ((roll.map Prod.fst)).Nodup := by
      have distinct := attributed.handles_nodup undisputed
      rw [← listed.marks_eq, rollMarks, List.map_map] at distinct
      exact distinct
    have equal := List.inj_on_of_nodup_map handles onRollFirst onRollSecond rfl
    exact congrArg Prod.snd equal

/-- A class that comes to be tracked is enlisted. -/
theorem Tracker.Attempt.enlisted {tag : Tag} {after : Scene σ C S}
    (attempt : Attempt host session handle scene (.ok tag) after)
    (enrolled : Enrolled host state roll log scene) (sound : scene.tracker.Sound)
    (opened : scene.tracker.session = some session)
    (checked : scene.tracker.settings.checkDuplicates = true) :
    ∃ signature, Enlisted host state roll handle session scene ⟨tag, signature⟩ after.calls
      after.tracker.tracked := by
  obtain ⟨signature, tracked, onRoll⟩ := attempt.roll_of_ok enrolled sound opened
  exact ⟨signature, attempt.calls_of_ok checked, tracked, onRoll⟩

/-- A command that comes to a class which it can track accepts the class. -/
theorem Tracker.Applied.accepted {tag : Tag} {after : Scene σ C S}
    (applied : Applied host tracker state command handle session scene)
    (enrolled : Enrolled host state roll log scene) (sound : scene.tracker.Sound)
    (checked : scene.tracker.settings.checkDuplicates = true)
    (tracked : track host handle scene = .ok tag after) :
    ∃ signature, after.tracker.tracked = ⟨tag, signature⟩ :: scene.tracker.tracked ∧
      Accepted host tracker state roll handle session scene ⟨tag, signature⟩ command := by
  have attempt := (track_ends applied.opened).ok tracked
  obtain ⟨signature, enlisted⟩ := attempt.enlisted enrolled sound applied.opened checked
  refine ⟨signature, enlisted.tracked_eq, ?_⟩
  cases applied.proceeds tracked with
  | added performed =>
      refine .added ?_ ?_
      · rw [performed]
      · rw [performed]
        exact enlisted
  | enumerated later comes ends =>
      cases later with
      | nil =>
          obtain ⟨result, calls, sameTracker⟩ := ends.ok rfl
          refine .last result ?_
          rw [calls, sameTracker]
          exact enlisted
      | cons next rest =>
          have soundAfter := (attempt.bookkeeping sound applied.opened).2
          have openedAfter := attempt.session_eq.trans applied.opened
          have onwards : (trackAll host (next :: rest)).Ends after _ _ :=
            trackAll_onwards (next :: rest) soundAfter openedAfter
          have stays : after.calls <+: (tracker.perform host .startUp state).calls ∧
              after.tracker.tracked <:+
                (tracker.perform host .startUp state).tracker.tracked := by
            cases ended : trackAll host (next :: rest) after with
            | ok value last =>
                obtain ⟨-, calls, sameTracker⟩ := ends.ok ended
                rw [calls, sameTracker]
                exact onwards.ok ended
            | error stop last =>
                obtain ⟨-, calls, sameTracker⟩ := ends.error ended
                rw [calls, sameTracker, Scene.tracker_settled]
                exact onwards.error ended
          exact .next (comes next rest rfl) enlisted stays.1 stays.2
            (roll_prefix_listen host state roll stays.1)

/-- A command that accepts a class makes more calls than the one that asks for its tag. -/
theorem Accepted.calls_ne {record : ClassRecord}
    (accepted : Accepted host tracker state roll handle session scene record command) :
    (tracker.perform host command state).calls ≠
      scene.calls ++ [⟨.tagOf session handle, none⟩] := by
  have made : scene.calls ++ trackingCalls session handle record.tag <+:
      (tracker.perform host command state).calls := by
    cases accepted with
    | added _ enlisted | last _ enlisted =>
        simp only [enlisted.calls_eq, List.prefix_rfl]
    | next _ enlisted stays =>
        rw [← enlisted.calls_eq]
        exact stays
  intro same
  have longer := made.length_le
  rw [same, List.length_append, List.length_append] at longer
  have three : 3 ≤ 1 := Nat.le_of_add_le_add_left longer
  exact absurd three (by decide)

/-- A command that comes to a class which it cannot track ends there. -/
theorem Tracker.Applied.halted {stop : Stop} {after : Scene σ C S}
    (applied : Applied host tracker state command handle session scene)
    (enrolled : Enrolled host state roll log scene) (sound : scene.tracker.Sound)
    (stopped : track host handle scene = .error stop after) :
    Halted host (tracker.perform host command state) state roll scene stop := by
  have attempt := (track_ends applied.opened).error stopped
  obtain ⟨result, calls, sameTracker⟩ := applied.stops stopped
  refine ⟨result, ?_, ?_⟩
  · rw [sameTracker, Scene.tracker_settled]
    exact (attempt.bookkeeping sound applied.opened).1.of_error.1
  · rw [calls]
    exact attempt.roll_of_error enrolled sound applied.opened

section

variable {carried : Option Tag} {told : σ}

theorem Upheld.checks (upheld : Upheld contract settings session log scene)
    (checked : settings.checkDuplicates = true) :
    scene.tracker.settings.checkDuplicates = true := by
  rw [upheld.attributed.settings_eq]
  exact checked

/-- A command that comes to a class on the roll is refused because of its record. -/
theorem Tracker.Applied.refused
    (applied : Applied host tracker state command handle session scene)
    (upheld : Upheld contract settings session log scene)
    (enrolled : Enrolled host state roll log scene) (checked : settings.checkDuplicates = true)
    (answered : host.answer (.tagOf session handle) scene.host = (.ok carried, told))
    {record : ClassRecord} (known : (handle, record) ∈ scene.known host state roll) :
    Refused host (tracker.perform host command state) state roll handle session scene record := by
  have carries := carried_iff upheld enrolled (.inl checked) answered
  obtain rfl := (carries record.tag).mpr ⟨record, known, rfl⟩
  have ends := track_of_tagged upheld.opened (upheld.checks checked) answered
  obtain ⟨result, calls, sameTracker⟩ := applied.stops ends
  have halted := applied.halted enrolled upheld.attributed.sound ends
  refine ⟨result, calls, ?_, halted.tracked, halted.roll⟩
  rw [sameTracker, Scene.tracker_settled]
  rfl

/-- A command that ends with a duplicate at a class has come to one on the roll. -/
theorem Tracker.Applied.known_of_duplicate
    (applied : Applied host tracker state command handle session scene)
    (upheld : Upheld contract settings session log scene)
    (enrolled : Enrolled host state roll log scene) (checked : settings.checkDuplicates = true)
    (answered : host.answer (.tagOf session handle) scene.host = (.ok carried, told)) {tag : Tag}
    (failed : (tracker.perform host command state).result = .error (.error (.duplicateClass tag)))
    (here : (tracker.perform host command state).calls =
      scene.calls ++ [⟨.tagOf session handle, none⟩]) :
    ∃ record, (handle, record) ∈ scene.known host state roll := by
  cases carried with
  | some found =>
      obtain ⟨record, known, -⟩ :=
        (carried_iff upheld enrolled (.inl checked) answered found).mp rfl
      exact ⟨record, known⟩
  | none =>
      -- The class has no tag, so the command has gone on from it or ended for another reason.
      cases tried : track host handle scene with
      | ok other after =>
          obtain ⟨_, -, accepted⟩ :=
            applied.accepted enrolled upheld.attributed.sound (upheld.checks checked) tried
          exact absurd here accepted.calls_ne
      | error stop after =>
          obtain ⟨result, -, -⟩ := applied.stops tried
          cases result.symm.trans failed
          have attempt := (track_ends upheld.opened).error tried
          exact absurd rfl (attempt.of_untagged answered tag)

/-- A command that comes to a class that is not on the roll accepts it, if there is a tag
left and the host does its part. -/
theorem Tracker.Applied.accepts
    (applied : Applied host tracker state command handle session scene)
    (upheld : Upheld contract settings session log scene)
    (enrolled : Enrolled host state roll log scene) (checked : settings.checkDuplicates = true)
    (answered : host.answer (.tagOf session handle) scene.host = (.ok carried, told))
    (unknown : ∀ record, (handle, record) ∉ scene.known host state roll)
    {tag : Tag} {tags : TagSupply} {signature : String} {named tagged : σ}
    (left : scene.tracker.tags.allocate = .ok (tag, tags))
    (naming : host.answer (.signatureOf handle) told = (.ok signature, named))
    (tagging : host.answer (.setTag session handle tag) named = (.ok (), tagged)) :
    Accepted host tracker state roll handle session scene ⟨tag, signature⟩ command := by
  have checkedHere := upheld.checks checked
  have sound := upheld.attributed.sound
  cases carried with
  | some found =>
      obtain ⟨record, known, -⟩ :=
        (carried_iff upheld enrolled (.inl checked) answered found).mp rfl
      exact absurd known (unknown record)
  | none =>
      have admitted : Admission host session handle scene.tracker.settings.checkDuplicates
          scene.tracker.tags scene.host ⟨tag, signature⟩ tags tagged := by
        rw [checkedHere]
        exact .intro (.untagged answered) left naming tagging
      obtain ⟨after, tracked, records⟩ := admitted.track_ok sound upheld.opened
      obtain ⟨other, same, accepted⟩ := applied.accepted enrolled sound checkedHere tracked
      cases records.symm.trans same
      exact accepted

/-- The command that comes to a class is decided by whether the class has been tracked. -/
theorem Tracker.Applied.decided (applied : Applied host tracker state command handle session scene)
    (sustained : Sustained contract settings tracker state log) (listed : Listed tracker log roll)
    (checked : settings.checkDuplicates = true)
    (answered : host.answer (.tagOf session handle) scene.host = (.ok carried, told)) :
    Decided host tracker state roll command handle session scene told := by
  have upheld := applied.upheld sustained
  have enrolled := applied.enrolled listed
  refine ⟨⟨?_, ?_⟩, ?_, ?_, ?_⟩
  · rintro ⟨tag, failed, here⟩
    exact applied.known_of_duplicate upheld enrolled checked answered failed here
  · rintro ⟨record, known⟩
    have refused := applied.refused upheld enrolled checked answered known
    exact ⟨record.tag, refused.result, refused.calls⟩
  · intro record known
    exact applied.refused upheld enrolled checked answered known
  · intro unknown tag tags signature named tagged left naming tagging
    exact applied.accepts upheld enrolled checked answered unknown left naming tagging
  · have sound := upheld.attributed.sound
    cases tried : track host handle scene with
    | ok tag after =>
        obtain ⟨signature, -, accepted⟩ :=
          applied.accepted enrolled sound (upheld.checks checked) tried
        exact .inl ⟨_, accepted⟩
    | error stop after => exact .inr ⟨stop, applied.halted enrolled sound tried⟩

end

/-- A tracker without a session has nothing on its roll. -/
theorem Lives.roll_of_closed (lives : Lives contract settings tracker state log roll)
    (closed : tracker.session = none) : roll = [] := by
  have nothing := lives.sustained.attributed.unopened closed
  rw [← lives.listed.marks_eq] at nothing
  exact List.map_eq_nil_iff.mp nothing

/-- A command fails with a duplicate only if it comes to a class that has been tracked. -/
theorem Lives.repeats_of_duplicate (lives : Lives contract settings tracker state log roll)
    (checked : settings.checkDuplicates = true) {tag : Tag}
    (failed : (tracker.perform host command state).result =
      .error (.error (.duplicateClass tag))) :
    ∃ record, Repeats host tracker state roll command record ∧ record.tag = tag := by
  have sustained := lives.sustained
  obtain ⟨after, -, course⟩ :=
    perform_course host command tracker state sustained.attributed.sound.keeps
  rw [failed] at course
  obtain ⟨handle, session, scene, told, applied, answered⟩ := course.applied_of_duplicate
  have upheld := applied.upheld sustained
  have enrolled := applied.enrolled lives.listed
  obtain ⟨record, known, same⟩ :=
    (carried_iff upheld enrolled (.inl checked) answered tag).mp rfl
  exact ⟨record, ⟨handle, session, scene, _, told, applied, answered, known⟩, same⟩

/-- **A class has one record, and is refused as a duplicate exactly if it has had one.**
While a tracker checks for duplicates, on a host that keeps its promises, its records are of
different classes, and only the classes tracked since the last reset are on its roll.  A
command fails with a duplicate exactly if it comes to a class on the roll, and each class
that it comes to is decided by whether it is there. -/
theorem Lives.one_record_per_class (lives : Lives contract settings tracker state log roll)
    (checked : settings.checkDuplicates = true) :
    (∀ record ∈ tracker.tracked, (owner? roll record).isSome) ∧
      (tracker.tracked.map (owner? roll)).Nodup ∧
      (tracker.session = none → roll = []) ∧
      (∀ command tag,
        (tracker.perform host command state).result = .error (.error (.duplicateClass tag)) ↔
          ∃ record, Repeats host tracker state roll command record ∧ record.tag = tag) ∧
      ∀ command handle session scene carried told,
        Applied host tracker state command handle session scene →
        host.answer (.tagOf session handle) scene.host = (.ok carried, told) →
          Decided host tracker state roll command handle session scene told := by
  have sustained := lives.sustained
  obtain ⟨owned, different⟩ := nodup_owners sustained.attributed lives.listed (.inl checked)
  have decides : ∀ command handle session scene carried told,
      Applied host tracker state command handle session scene →
      host.answer (.tagOf session handle) scene.host = (.ok carried, told) →
        Decided host tracker state roll command handle session scene told :=
    fun _ _ _ _ _ _ applied answered => applied.decided sustained lives.listed checked answered
  refine ⟨owned, different, lives.roll_of_closed, ?_, decides⟩
  intro command tag
  constructor
  · exact lives.repeats_of_duplicate checked
  · rintro ⟨record, ⟨handle, session, scene, carried, told, applied, answered, known⟩, rfl⟩
    exact ((decides command handle session scene carried told applied answered).refused record
      known).result

end

/-! ## Once more, and again after a reset -/

namespace Machine

/-- The machine with one more class. -/
def joined : Machine := (revived.apply (.load "LThird;" (.ofFlag .prepared))).2

/-- A reset of the tracker on it. -/
def released : Outcome Machine Nat Nat Reply := swept.tracker.perform host .reset joined

/-- The scene in which the tracker comes to the first class when it starts up again. -/
def relisted : Scene Machine Nat Nat :=
  (startupScene released.tracker released.host).listed 1
    (host.answer .openSession released.host).2
    (host.answer .loadedClasses (host.answer .openSession released.host).2).2

theorem lives_joined :
    Lives contract .default swept.tracker joined (started.calls ++ swept.calls)
      (listen host aged enrolled swept.calls).roll :=
  lives_apply lives_revived (.load "LThird;" (.ofFlag .prepared)) rfl

theorem lives_released : Lives contract .default released.tracker released.host [] [] :=
  lives_joined.perform .reset

theorem applied_relisted :
    Applied host released.tracker released.host .startUp 0 1 relisted := by
  have usable : released.tracker.poisoned = false := by decide +kernel
  have closed : released.tracker.session = none := by decide +kernel
  have wantedStatus : released.tracker.settings.wantedStatus = Settings.default.wantedStatus := by
    decide +kernel
  have opening : host.answer .openSession released.host =
      (.ok 1, (host.answer .openSession released.host).2) :=
    Prod.fst_eq_iff.mp (by decide +kernel)
  have listing : host.answer .loadedClasses (host.answer .openSession released.host).2 =
      (.ok [⟨0, .ofFlag .prepared⟩, ⟨1, .ofFlag .prepared⟩, ⟨2, .ofFlag .prepared⟩],
        (host.answer .loadedClasses (host.answer .openSession released.host).2).2) :=
    Prod.fst_eq_iff.mp (by decide +kernel)
  have isNext : wanted released.tracker.settings.wantedStatus
      [⟨0, .ofFlag .prepared⟩, ⟨1, .ofFlag .prepared⟩, ⟨2, .ofFlag .prepared⟩] =
        [] ++ 0 :: [1, 2] := by
    rw [wantedStatus]
    decide +kernel
  exact .enumerated usable closed opening listing isNext rfl

/-- A class that was unloaded and loaded again is refused with the tag that it got at first,
though its record has left, and a class that is new is accepted.  After a reset the first
class is accepted again. -/
theorem duplicate_of_revived :
    Lives contract .default swept.tracker joined (started.calls ++ swept.calls)
        (listen host aged enrolled swept.calls).roll ∧
      Settings.default.checkDuplicates = true ∧
      (swept.tracker.tracked.map (owner? (listen host aged enrolled swept.calls).roll)).Nodup ∧
      (swept.tracker.perform host (.add 0) joined).result =
        .error (.error (.duplicateClass ⟨1, by decide, by decide⟩)) ∧
      Decided host swept.tracker joined (listen host aged enrolled swept.calls).roll (.add 0) 0 0
        (.start swept.tracker joined) (host.answer (.tagOf 0 0) joined).2 ∧
      (swept.tracker.perform host (.add 2) joined).result =
        .ok (.tag ⟨3, by decide, by decide⟩) ∧
      Decided host swept.tracker joined (listen host aged enrolled swept.calls).roll (.add 2) 2 0
        (.start swept.tracker joined) (host.answer (.tagOf 0 2) joined).2 ∧
      (released.tracker.perform host .startUp released.host).tracker.tracked =
        [⟨⟨5, by decide, by decide⟩, "LThird;"⟩, ⟨⟨4, by decide, by decide⟩, "LSecond;"⟩,
          ⟨⟨3, by decide, by decide⟩, "LOther;"⟩] ∧
      Decided host released.tracker released.host [] .startUp 0 1 relisted
        (host.answer (.tagOf 1 0) relisted.host).2 := by
  have usable : swept.tracker.poisoned = false := by decide +kernel
  have opened : swept.tracker.session = some 0 := by decide +kernel
  have answered : ∀ (handle : Nat) (carried : Option Tag),
      (host.answer (.tagOf 0 handle) joined).1 = .ok carried →
      host.answer (.tagOf 0 handle) (Scene.start swept.tracker joined : Scene _ Nat Nat).host =
        (.ok carried, (host.answer (.tagOf 0 handle) joined).2) := by
    intro handle carried isCarried
    rw [Scene.host_start]
    exact Prod.fst_eq_iff.mp isCarried
  have first := answered 0 (some ⟨1, by decide, by decide⟩) (by decide +kernel)
  have third := answered 2 none (by decide +kernel)
  have again : (host.answer (.tagOf 1 0) relisted.host).1 = .ok none := by decide +kernel
  obtain ⟨-, different, -, -, decided⟩ := lives_joined.one_record_per_class rfl
  obtain ⟨-, -, -, -, decidedAgain⟩ := lives_released.one_record_per_class rfl
  refine ⟨lives_joined, rfl, different, by decide +kernel, ?_, by decide +kernel, ?_,
    by decide +kernel, ?_⟩
  · exact decided (.add 0) 0 0 _ _ _ (.added usable opened) first
  · exact decided (.add 2) 2 0 _ _ _ (.added usable opened) third
  · exact decidedAgain .startUp 0 1 relisted _ _ applied_relisted (Prod.fst_eq_iff.mp again)

end Machine

end ClassLiveness

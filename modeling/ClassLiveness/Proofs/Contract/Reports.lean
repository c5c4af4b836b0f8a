import ClassLiveness.Proofs.Contract.Promises
import Mathlib.Data.Bool.Basic

/-!
# What a pass reports

On a host that keeps its promises a tag has exactly one holder while its class is
loaded, and none after, so the answers of the host sort the tracked records by
whether their classes are loaded (`truthful`).  A completed pass therefore reports the
unloaded classes, all of them and nothing else, by the signatures that they had when
they came to be tracked (`Lives.report_exact`).
-/

set_option autoImplicit false

namespace ClassLiveness

variable {σ C S : Type}

/-- The class of a record is loaded. -/
def SessionContract.isLoaded {host : Host σ C S} (contract : SessionContract host) (state : σ)
    (roll : List (C × ClassRecord)) (record : ClassRecord) : Bool :=
  (owner? roll record).any (contract.loaded state)

/-! ## The roll and the calls -/

namespace Listed

variable {tracker : Tracker S} {log : List (CallRecord C S)} {roll : List (C × ClassRecord)}
  {record : ClassRecord} {handle : C}

/-- Tags that were hung once make records that are on the roll once. -/
theorem once (listed : Listed tracker log roll) (nodup : ((marks log).map Prod.snd).Nodup) :
    (roll.map Prod.snd).Nodup := by
  rw [← listed.marks_eq, rollMarks, List.map_map] at nodup
  have sameTags : (Prod.snd ∘ fun entry : C × ClassRecord => (entry.1, entry.2.tag)) =
      ClassRecord.tag ∘ Prod.snd := rfl
  rw [sameTags, ← List.map_map] at nodup
  exact nodup.of_map _

theorem mem_marks (listed : Listed tracker log roll) (onRoll : (handle, record) ∈ roll) :
    (handle, record.tag) ∈ marks log := by
  rw [← listed.marks_eq]
  exact List.mem_map_of_mem onRoll

end Listed

/-! ## The truth about a record -/

/-- A list with one possible member. -/
theorem length_of_mem_iff {α : Type} {members : List α} (only : α) {present : Bool}
    (distinct : members.Nodup)
    (mem_iff : ∀ member, member ∈ members ↔ present = true ∧ member = only) :
    members.length = present.toNat := by
  cases present with
  | false =>
      have nothing : members = [] := List.eq_nil_iff_forall_not_mem.mpr fun member present =>
        Bool.false_ne_true ((mem_iff member).mp present).1
      rw [nothing]
      rfl
  | true =>
      have single : members.Perm [only] := by
        refine (List.perm_ext_iff_of_nodup distinct (List.nodup_singleton only)).mpr ?_
        intro member
        rw [mem_iff, List.mem_singleton]
        exact and_iff_right rfl
      rw [single.length_eq]
      rfl

section

variable {host : Host σ C S} {contract : SessionContract host} {settings : Settings}
  {tracker : Tracker S} {state : σ} {log : List (CallRecord C S)}
  {roll : List (C × ClassRecord)} {session : S}

/-- **The host tells the truth about a tracked record**: its tag has a live holder
exactly if its class is loaded. -/
theorem truthful (attributed : Attributed settings tracker log)
    (agrees : Agrees contract settings session state log) (undisputed : Undisputed settings log)
    (listed : Listed tracker log roll) {record : ClassRecord} (tracked : record ∈ tracker.tracked)
    {now later : Dialogue σ C S} (consulted : Tracker.Consulted contract ⟨state, []⟩ now)
    {live : Bool} (told : host.isLive session record.tag now = .ok live later) :
    live = contract.isLoaded state roll record := by
  obtain ⟨count, counted, -, rfl⟩ := Host.isLive_ok told
  obtain ⟨given, opened, same⟩ := agrees
  obtain ⟨holders, distinct, length, mem_iff⟩ :=
    contract.counts consulted.lawful ((congrFun consulted.tags_eq session).trans opened) counted
  obtain ⟨handle, onRoll⟩ := listed.enrolled record tracked
  have owned : owner? roll record = some handle :=
    (owner?_eq_some_iff (listed.once attributed.tags_nodup)).mpr onRoll
  -- The tag was hung on one class only, so no other class can hold it.
  have onlyHolder : ∀ other, given other = some record.tag ↔ other = handle := by
    intro other
    rw [same undisputed]
    constructor
    · intro marked
      have equal := List.inj_on_of_nodup_map attributed.tags_nodup marked
        (listed.mem_marks onRoll) rfl
      exact congrArg Prod.fst equal
    · rintro rfl
      exact listed.mem_marks onRoll
  have held : holders.length = (contract.loaded state handle).toNat := by
    refine length_of_mem_iff handle distinct fun other => ?_
    rw [mem_iff, onlyHolder, consulted.loaded_eq]
    refine and_congr_left ?_
    rintro rfl
    exact Iff.rfl
  rw [SessionContract.isLoaded, owned, Option.any_some]
  have sameNumber := congrArg Bool.ofNat (length.symm.trans held)
  rwa [Bool.ofNat_toNat, Bool.ofNat_toNat] at sameNumber

/-! ## Passes -/

open Tracker

/-- A pass that is completed has asked about every tracked class, and has been told
which of them are loaded. -/
theorem Lives.inquest (lives : Lives contract settings tracker state log roll)
    (undisputed : Undisputed settings log) (usable : tracker.poisoned = false)
    (opened : tracker.session = some session)
    (answered : (tracker.inquest host session ⟨state, []⟩).failure? = none) :
    (tracker.inquest host session ⟨state, []⟩).kept =
        tracker.tracked.filter (contract.isLoaded state roll) ∧
      (tracker.inquest host session ⟨state, []⟩).dead =
        tracker.tracked.filter fun record => !contract.isLoaded state roll record := by
  have sustained := lives.sustained
  have agrees := sustained.agrees usable session opened
  have start : Consulted contract ⟨state, []⟩ (⟨state, []⟩ : Dialogue σ C S) :=
    ⟨sustained.lawful, rfl, rfl, [], rfl, rfl⟩
  have sorted := Registry.inquire_of_truth (host.isLive session) tracker.tracked ⟨state, []⟩
    (Consulted contract ⟨state, []⟩) (contract.isLoaded state roll) ?_ start answered
  · have kept := Registry.kept_of_answered answered
    exact ⟨kept.trans sorted.1, sorted.2⟩
  · intro record member now live later consulted told
    exact ⟨truthful sustained.attributed agrees undisputed lives.listed member consulted told,
      consulted.answered told⟩

/-- **A pass reports exactly the unloaded classes.**  A tracker lives on a host that
keeps its promises, and it checks for duplicates or no class was given to it twice.
Every tracked record is then of one class, and has the signature that the host gave of
it when it came to be tracked.  A pass that is completed reports, in the ascending
order of their tags, the signatures of those records whose classes are not loaded, and
leaves those whose classes are loaded as they were. -/
theorem Lives.report_exact (lives : Lives contract settings tracker state log roll)
    (undisputed : Undisputed settings log) {command : Command C} {report : UnloadReport}
    (completed : (tracker.perform host command state).result = .ok (.report report)) :
    (∀ record ∈ tracker.tracked, ∃! handle, (handle, record) ∈ roll) ∧
      (tracker.tracked.reverse.map fun record => record.tag.number).Pairwise (· < ·) ∧
      report.signatures =
        (tracker.tracked.reverse.filter fun record =>
          !contract.isLoaded state roll record).map ClassRecord.signature ∧
      (tracker.perform host command state).tracker.tracked =
        tracker.tracked.filter (contract.isLoaded state roll) := by
  have attributed := lives.sustained.attributed
  have listed := lives.listed
  obtain ⟨after, outcome, course⟩ :=
    perform_course host command tracker state attributed.sound.keeps
  have remaining : (tracker.perform host command state).tracker = after.tracker :=
    congrArg Outcome.tracker outcome
  rw [completed] at course
  rw [remaining]
  refine ⟨?_, ?_, ?_⟩
  · intro record member
    obtain ⟨handle, onRoll⟩ := listed.enrolled record member
    refine ⟨handle, onRoll, ?_⟩
    intro other alsoOnRoll
    have equal := List.inj_on_of_nodup_map attributed.tags_nodup (listed.mem_marks alsoOnRoll)
      (listed.mem_marks onRoll) rfl
    exact congrArg Prod.fst equal
  · rw [List.pairwise_map, List.pairwise_reverse]
    exact attributed.sound.descending
  · cases course with
    | viewed _ _ view => exact view.elim
    | passed isPass usable opened inspection =>
        cases inspection with
        | completed fits answered keeps =>
            obtain ⟨kept, dead⟩ := lives.inquest undisputed usable opened answered
            refine ⟨?_, keeps.records_eq.trans kept⟩
            rw [List.filter_reverse]
            exact congrArg (fun records => records.reverse.map ClassRecord.signature) dead

end

/-- A class that was renamed and unloaded is reported by the signature that it had
when it came to be tracked. -/
theorem Machine.report_exact_of_rename :
    Lives contract .default started.tracker aged started.calls enrolled ∧
      Undisputed .default started.calls ∧
      (started.tracker.perform host .processUnloads aged).result =
        .ok (.report ⟨["LFirst;"]⟩) ∧
      (∀ record ∈ started.tracker.tracked, ∃! handle, (handle, record) ∈ enrolled) ∧
      (started.tracker.tracked.reverse.map fun record => record.tag.number).Pairwise (· < ·) ∧
      ["LFirst;"] =
        (started.tracker.tracked.reverse.filter fun record =>
          !contract.isLoaded aged enrolled record).map ClassRecord.signature ∧
      (started.tracker.perform host .processUnloads aged).tracker.tracked =
        started.tracker.tracked.filter (contract.isLoaded aged enrolled) := by
  have undisputed : Undisputed .default started.calls := .inl rfl
  have completed : (started.tracker.perform host .processUnloads aged).result =
      .ok (.report ⟨["LFirst;"]⟩) := by
    decide +kernel
  exact ⟨lives_aged, undisputed, completed, lives_aged.report_exact undisputed completed⟩

end ClassLiveness

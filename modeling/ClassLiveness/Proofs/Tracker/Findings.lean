import ClassLiveness.Proofs.Tracker.Books
import ClassLiveness.Proofs.Tracker.Transcript
import Mathlib.Data.List.TakeWhile

/-!
# A pass follows the answers of the host

The host may count the live holders of the tags as it likes: it may fail any of the calls,
contradict itself, and count more holders than there can be.  What it would answer, if it were
asked about all the records of a tracker one after the other, is a list of findings
(`Host.findings`), and any list of answers can come up in it (`Host.findings_reciting`).

The findings alone determine what becomes of a pass.  It takes them in their order and comes to
an end at the first that is not fine, and the records that are found dead before this one leave
(`Tracker.inquire_isLive`).

If all are fine, it has asked about all the records.  It reports the signatures of those found
dead, the last one first, and keeps those found alive in their order; no announcement is pending
any more, and one pass more is counted, with the numbers of the records and of the signatures.
If one is not fine, nothing is reported: the pass fails with what the host has said there, the
records found dead before it are gone, the others are tracked in their order, and the tracker is
poisoned.  All else is as it was (`Tracker.Reachable.pass_follows_findings`).
-/

set_option autoImplicit false

namespace ClassLiveness

variable {σ C S : Type}

/-! ## Findings -/

/-- A record, and what the host answers when it is asked how many live classes carry its tag. -/
structure Finding where
  record : ClassRecord
  answer : Except HostError Nat
deriving DecidableEq

namespace Finding

/-- No live class carries the tag. -/
def isDead (finding : Finding) : Bool :=
  match finding.answer with
  | .ok 0 => true
  | _ => false

/-- One live class carries the tag. -/
def isAlive (finding : Finding) : Bool :=
  match finding.answer with
  | .ok 1 => true
  | _ => false

/-- The host has counted the live classes that carry the tag, and they are at most one. -/
def isFine (finding : Finding) : Bool :=
  match finding.answer with
  | .ok count => count ≤ 1
  | .error _ => false

/-- The error that a finding comes to which is not fine. -/
def complaint (finding : Finding) : TrackingError :=
  match finding.answer with
  | .ok count => .inconsistentTags finding.record.tag count
  | .error failure => .host .liveCount failure

/-- The call with which a finding is made. -/
def call (session : S) (finding : Finding) : CallRecord C S :=
  ⟨.liveCount session finding.record.tag, failureIn finding.answer⟩

/-- A finding that is fine is made with a call that the host answers. -/
theorem call_of_isFine (session : S) {finding : Finding} (fine : finding.isFine = true) :
    (finding.call session : CallRecord C S) = ⟨.liveCount session finding.record.tag, none⟩ := by
  cases told : finding.answer with
  | ok count => rw [call, told, failureIn]
  | error failure =>
      rw [isFine, told] at fine
      cases fine

/-- A finding that is fine is that a record is dead, or that it is alive. -/
theorem isDead_of_isFine {finding : Finding} (fine : finding.isFine = true) :
    finding.isDead = !finding.isAlive := by
  rcases finding with ⟨record, failure | _ | _ | extra⟩
  · cases fine
  · rfl
  · rfl
  · simp [isFine] at fine

/-- The findings up to the first that is not fine, and this one. -/
def made (findings : List Finding) : List Finding :=
  findings.takeWhile isFine ++ (findings.dropWhile isFine).head?.toList

theorem made_of_fine {finding : Finding} (fine : finding.isFine = true) (later : List Finding) :
    made (finding :: later) = finding :: made later := by
  rw [made, List.takeWhile_cons_of_pos fine, List.dropWhile_cons_of_pos fine, List.cons_append,
    made]

theorem made_of_not_fine {finding : Finding} (fine : finding.isFine = false)
    (later : List Finding) : made (finding :: later) = [finding] := by
  simp only [made, List.takeWhile_cons, List.dropWhile_cons, fine, Bool.false_eq_true, if_false]
  rfl

end Finding

/-- What the host answers if it is asked about records one after the other, and about all of
them. -/
def Host.findings (host : Host σ C S) (session : S) : σ → List ClassRecord → List Finding
  | _, [] => []
  | state, record :: rest =>
      let told := host.answer (.liveCount session record.tag) state
      ⟨record, told.1⟩ :: findings host session told.2 rest

theorem Host.map_record_findings (host : Host σ C S) (session : S) (state : σ)
    (records : List ClassRecord) :
    (host.findings session state records).map Finding.record = records := by
  induction records generalizing state with
  | nil => rfl
  | cons record rest ih => exact congrArg (record :: ·) (ih _)

/-! ## Any answers can come up -/

/-- A host whose state is a script of answers.  It takes from the script what it says of the
live holders of a tag, and has no objection to any other call. -/
def Host.reciting : Host (List (Except HostError Nat)) Nat Nat where
  answer
    | .openSession, script => (.ok 0, script)
    | .loadedClasses, script => (.ok [], script)
    | .tagOf _ _, script => (.ok none, script)
    | .signatureOf handle, script => (.ok (numberedSignature "L" handle), script)
    | .setTag _ _ _, script => (.ok (), script)
    | .liveCount _ _, [] => (.ok 1, [])
    | .liveCount _ _, answer :: rest => (answer, rest)
    | .close _, script => (.ok (), script)

/-- The host that recites has the answers of its script for findings, whatever they are. -/
theorem Host.findings_reciting (session : Nat) (records : List ClassRecord)
    (script : List (Except HostError Nat)) (complete : script.length = records.length) :
    Host.reciting.findings session script records = List.zipWith Finding.mk records script := by
  induction records generalizing script with
  | nil => rfl
  | cons record rest ih =>
      cases script with
      | nil => cases complete
      | cons answer later =>
          exact congrArg (Finding.mk record answer :: ·) (ih later (Nat.succ.inj complete))

namespace Tracker

open Registry

/-! ## What the findings come to -/

/-- A question is answered if the finding is fine, and fails with its complaint if it is not. -/
theorem isLive_finding (host : Host σ C S) (session : S) (record : ClassRecord)
    (dialogue : Dialogue σ C S) :
    let told := host.answer (.liveCount session record.tag) dialogue.host
    let finding : Finding := ⟨record, told.1⟩
    host.isLive session record.tag dialogue =
      if finding.isFine then
        .ok finding.isAlive ⟨told.2, dialogue.calls ++ [finding.call session]⟩
      else
        .error finding.complaint ⟨told.2, dialogue.calls ++ [finding.call session]⟩ := by
  rw [Host.isLive_apply]
  rcases host.answer (.liveCount session record.tag) dialogue.host with
    ⟨failure | _ | _ | extra, next⟩
  all_goals rfl

/-- **The questions of a pass come to what the findings say.** -/
theorem inquire_isLive (host : Host σ C S) (session : S) (records : List ClassRecord)
    (dialogue : Dialogue σ C S) :
    let findings := host.findings session dialogue.host records
    let calls := (Finding.made findings).map (Finding.call session)
    inquire (host.isLive session) records dialogue =
      { alive := ((findings.takeWhile Finding.isFine).filter Finding.isAlive).map Finding.record
        dead := ((findings.takeWhile Finding.isFine).filter Finding.isDead).map Finding.record
        failure? := (findings.dropWhile Finding.isFine).head?.map Finding.complaint
        unexamined := (findings.dropWhile Finding.isFine).map Finding.record
        state := ⟨host.replay dialogue.host calls, dialogue.calls ++ calls⟩ } := by
  induction records generalizing dialogue with
  | nil =>
      simp only [inquire, Host.findings, Finding.made, List.takeWhile_nil, List.dropWhile_nil,
        List.filter_nil, List.map_nil, List.head?_nil, Option.map_none, Option.toList_none,
        List.append_nil]
      rfl
  | cons record rest ih =>
      rcases told : host.answer (.liveCount session record.tag) dialogue.host with ⟨answer, next⟩
      let finding : Finding := ⟨record, answer⟩
      have asked := isLive_finding host session record dialogue
      have listed : host.findings session dialogue.host (record :: rest) =
          finding :: host.findings session next rest := by
        rw [Host.findings, told]
      have replayed : ∀ calls, host.replay dialogue.host (finding.call session :: calls) =
          host.replay next calls :=
        fun calls => congrArg (fun state => host.replay state calls) (congrArg Prod.snd told)
      rw [told] at asked
      rw [listed]
      change _ = if finding.isFine then _ else _ at asked
      -- The pass goes on if the finding is fine, and the record is then alive or dead.
      cases fine : finding.isFine with
      | false =>
          rw [fine, if_neg Bool.false_ne_true] at asked
          simp only [inquire, asked, Finding.made_of_not_fine fine, List.takeWhile_cons,
            List.dropWhile_cons, fine, Bool.false_eq_true, if_false, List.filter_nil, List.map_nil,
            List.map_cons, host.map_record_findings, List.head?_cons, Option.map_some, replayed]
          rfl
      | true =>
          rw [fine, if_pos rfl] at asked
          have dead := Finding.isDead_of_isFine fine
          simp only [inquire, asked, Finding.made_of_fine fine, List.takeWhile_cons,
            List.dropWhile_cons, fine, if_true, List.filter_cons, dead, List.map_cons, replayed]
          cases alive : finding.isAlive with
          | true =>
            simp only [Inquest.spare, ih, Bool.not_true, Bool.false_eq_true, if_false, if_true,
              List.map_cons, List.append_assoc, List.singleton_append]
            rfl
          | false =>
            simp only [Inquest.condemn, ih, Bool.not_false, Bool.false_eq_true, if_false, if_true,
              List.map_cons, List.append_assoc, List.singleton_append]
            rfl

/-! ## What becomes of a pass -/

/-- A pass that there is room for comes to what its questions come to: the records that are
kept stay, and the dead are reported or the tracker is poisoned. -/
theorem perform_inquest (host : Host σ C S) {tracker : Tracker S} {session : S}
    (keeps : tracker.registry.Keeps ⟨tracker.tracked, []⟩) (usable : tracker.poisoned = false)
    (opened : tracker.session = some session)
    (fits : tracker.settings.outputCapacity ≤ UnloadReport.greatestCapacity) (state : σ) :
    let inquest := tracker.inquest host session ⟨state, []⟩
    let outcome := tracker.perform host .processUnloads state
    outcome.calls = inquest.state.calls ∧ outcome.tracker.tracked = inquest.kept ∧
    match inquest.failure? with
    | none =>
        outcome.result = .ok (.report ⟨inquest.dead.reverse.map ClassRecord.signature⟩) ∧
        outcome.tracker = { tracker with
          registry := outcome.tracker.registry
          pendingUnloads := 0
          passes := tracker.passes.record ⟨tracker.len, inquest.dead.length⟩ }
    | some reason =>
        outcome.result = .error (.error reason) ∧
        outcome.tracker = { tracker with
          registry := outcome.tracker.registry
          poisoned := true } := by
  intro inquest outcome
  obtain ⟨result, after, inspection, ended⟩ := perform_inspection host keeps usable opened state
  have performed : outcome = _ := ended
  rw [performed]
  cases inspection with
  | overfull full => exact absurd fits (Nat.not_le_of_lt full)
  | @failed reason registry _ failed keepsAfter =>
      have isFailed : inquest.failure? = some reason := failed
      rw [isFailed]
      exact ⟨rfl, keepsAfter.records_eq, rfl, rfl⟩
  | @completed registry _ answered keepsAfter =>
      have isAnswered : inquest.failure? = none := answered
      rw [isAnswered]
      exact ⟨rfl, keepsAfter.records_eq, rfl, rfl⟩

/-- **A pass follows the findings, whatever they are.**  A usable tracker in a session, whose
report there is room for, asks about its records in their order and once each, up to the first
finding that is not fine.  If there is none, the dead are reported and the others kept.  If
there is one, the pass fails with it, and the dead found before it are gone. -/
theorem Reachable.pass_follows_findings {host : Host σ C S} {settings : Settings}
    {tracker : Tracker S} (reached : Reachable host settings tracker) {session : S}
    (usable : tracker.poisoned = false) (opened : tracker.session = some session)
    (fits : tracker.settings.outputCapacity ≤ UnloadReport.greatestCapacity) (state : σ) :
    let findings := host.findings session state tracker.tracked
    let outcome := tracker.perform host .processUnloads state
    match findings.dropWhile Finding.isFine with
    | [] =>
        let report : UnloadReport :=
          ⟨((findings.filter Finding.isDead).map fun finding => finding.record.signature).reverse⟩
        outcome.calls = tracker.tracked.map (fun record => ⟨.liveCount session record.tag, none⟩) ∧
        outcome.result = .ok (.report report) ∧
        outcome.tracker.tracked = (findings.filter Finding.isAlive).map Finding.record ∧
        outcome.tracker = { tracker with
          registry := outcome.tracker.registry
          pendingUnloads := 0
          passes := tracker.passes.record ⟨tracker.tracked.length, report.len⟩ }
    | bad :: later =>
        let fine := findings.takeWhile Finding.isFine
        outcome.calls = (fine ++ [bad]).map (Finding.call session) ∧
        outcome.result = .error (.error bad.complaint) ∧
        outcome.tracker.tracked =
          (fine.filter Finding.isAlive ++ bad :: later).map Finding.record ∧
        outcome.tracker = { tracker with
          registry := outcome.tracker.registry
          poisoned := true } := by
  intro findings outcome
  have sound := reached.sound
  obtain ⟨calls, tracked, ended⟩ := perform_inquest host sound.keeps usable opened fits state
  have asked := inquire_isLive host session tracker.tracked ⟨state, []⟩
  have made : outcome.calls = (Finding.made findings).map (Finding.call session) :=
    calls.trans (congrArg (fun inquest => inquest.state.calls) asked)
  have stay : outcome.tracker.tracked =
      ((findings.takeWhile Finding.isFine).filter Finding.isAlive).map Finding.record ++
        (findings.dropWhile Finding.isFine).map Finding.record :=
    tracked.trans (congrArg Inquest.kept asked)
  have failure? : (tracker.inquest host session ⟨state, []⟩).failure? =
      (findings.dropWhile Finding.isFine).head?.map Finding.complaint :=
    congrArg Inquest.failure? asked
  rw [failure?] at ended
  have parted := List.takeWhile_append_dropWhile (p := Finding.isFine) (l := findings)
  cases unfine : findings.dropWhile Finding.isFine with
  | nil =>
      rw [unfine, List.append_nil] at parted
      rw [unfine, parted, List.map_nil, List.append_nil] at stay
      rw [unfine] at ended
      obtain ⟨result, after⟩ := ended
      have dead : (tracker.inquest host session ⟨state, []⟩).dead =
          ((findings.takeWhile Finding.isFine).filter Finding.isDead).map Finding.record :=
        congrArg Inquest.dead asked
      rw [parted] at dead
      have asksAll : findings.map Finding.record = tracker.tracked :=
        host.map_record_findings session state tracker.tracked
      refine ⟨?_, ?_, stay, ?_⟩
      · rw [made, Finding.made, unfine, parted, List.head?_nil, Option.toList_none,
          List.append_nil, ← asksAll, List.map_map]
        refine List.map_congr_left fun finding member => ?_
        exact Finding.call_of_isFine session (List.takeWhile_eq_self_iff.mp parted finding member)
      · rw [result, dead, List.map_reverse, List.map_map]
        rfl
      · rw [after, dead, sound.len_eq, UnloadReport.len, List.length_reverse, List.length_map,
          List.length_map]
  | cons bad later =>
      rw [unfine] at ended stay
      obtain ⟨result, after⟩ := ended
      refine ⟨?_, result, ?_, after⟩
      · rw [made, Finding.made, unfine]
        rfl
      · rw [stay, List.map_append]

/-- Four classes are tracked, and the host finds the last one dead, the third alive, and two
holders of the second tag.  The pass stops there: the fourth record is gone, and the first is
not asked about. -/
theorem pass_stops_at_second :
    let history : List (Command Nat × List (Except HostError Nat)) :=
      [.startUp, .add 1, .add 2, .add 3, .add 4].map (·, [])
    let tracker := afterAll Host.reciting (new .default) history
    let outcome := tracker.perform Host.reciting .processUnloads [.ok 0, .ok 1, .ok 2, .ok 0]
    outcome.result = .error (.error (.inconsistentTags ⟨2, by decide, by decide⟩ 2)) ∧
    outcome.calls.length = 3 ∧
    outcome.tracker.tracked.map (fun record => record.tag.number) = [3, 2, 1] ∧
    outcome.tracker.poisoned = true := by
  intro history tracker outcome
  have usable : tracker.poisoned = false := by decide +kernel
  have opened : tracker.session = some 0 := by decide +kernel
  have fits : tracker.settings.outputCapacity ≤ UnloadReport.greatestCapacity := by
    decide +kernel
  have reached : Reachable Host.reciting .default tracker := ⟨history, rfl⟩
  have follows := reached.pass_follows_findings usable opened fits [.ok 0, .ok 1, .ok 2, .ok 0]
  have unfine : (Host.reciting.findings 0 [.ok 0, .ok 1, .ok 2, .ok 0]
      tracker.tracked).dropWhile Finding.isFine =
        [⟨⟨⟨2, by decide, by decide⟩, "L2;"⟩, .ok 2⟩,
          ⟨⟨⟨1, by decide, by decide⟩, "L1;"⟩, .ok 0⟩] := by
    rw [Host.findings_reciting 0 tracker.tracked _ (by decide +kernel)]
    decide +kernel
  simp only [unfine] at follows
  obtain ⟨-, result, -, after⟩ := follows
  exact ⟨result, by decide +kernel, by decide +kernel, congrArg Tracker.poisoned after⟩

end Tracker

end ClassLiveness

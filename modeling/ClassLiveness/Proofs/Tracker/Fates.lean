import ClassLiveness.Proofs.Tracker.Episodes

/-!
# What becomes of tags in an episode

In an episode of a history tags come in from the supply, and tags leave.  The
records that leave go one of three ways: a completed pass yields them, a pass that
fails drops them, or a reset releases them (`Tracker.Episode.reported`,
`Tracker.Episode.dropped`, `Tracker.Episode.released`).  A tag may also be spent on no
record, because the host failed to give the signature of a class or to hang the tag
on it (`Tracker.Episode.spent`).

The tags that are tracked before an episode and those that come in are together
the tags that are tracked after it and those that leave
(`Tracker.Episode.Legal.balance`).
-/

set_option autoImplicit false

namespace ClassLiveness

variable {σ C S : Type}

/-- The numbers of the tags of records. -/
def numbers (records : List ClassRecord) : List Nat := records.map fun record => record.tag.number

/-- The call that gives the signature of a class or hangs its tag on it has failed. -/
def CallRecord.spends (record : CallRecord C S) : Bool :=
  record.failure?.isSome && (record.call.op == .signature || record.call.op == .setTag)

theorem Flawless.not_spends {calls : List (CallRecord C S)} (flawless : Flawless calls) :
    calls.any CallRecord.spends = false := by
  rw [List.any_eq_false]
  intro record member
  simp only [CallRecord.spends, flawless record member, Option.isSome_none, Bool.false_and,
    Bool.false_eq_true, not_false_eq_true]

namespace Tracker

namespace Episode

variable (lived : Episode σ C S)

/-- The tracker after the episode. -/
def after : Tracker S := lived.outcome.tracker

/-- The report of a pass that is completed in the episode. -/
def report? : Option UnloadReport :=
  match lived.outcome.result with
  | .ok (.report report) => some report
  | _ => none

/-- What a pass that is completed in the episode did. -/
def pass? : Option PassStats :=
  lived.report?.map fun report => ⟨lived.before.len, report.len⟩

/-- The episode is a pass that fails. -/
def passFails : Bool :=
  match lived.outcome.result with
  | .error _ => lived.command.isPass
  | .ok _ => false

/-- The records that are tracked before the episode and not after it, the oldest in
front. -/
def gone : List ClassRecord :=
  (lived.before.tracked.filter fun record => record ∉ lived.after.tracked).reverse

/-- The records that a completed pass yields. -/
def reported : List ClassRecord := if lived.report?.isSome then lived.gone else []

/-- The records that a failed pass has found dead before it failed. -/
def dropped : List ClassRecord := if lived.passFails then lived.gone else []

/-- The records that are tracked when a reset gives them up. -/
def released : List ClassRecord :=
  match lived.command with
  | .reset => lived.before.tracked
  | _ => []

/-- The tag that is spent on no record, because a call on the host failed. -/
def spent : List Nat :=
  if lived.outcome.calls.any CallRecord.spends then [lived.after.tags.allocated] else []

end Episode

/-- The tags that leave in the episode, in one way or another. -/
def Episode.left (lived : Episode σ C S) : List Nat :=
  numbers lived.reported ++ numbers lived.dropped ++ numbers lived.released ++ lived.spent

/-! ## One episode -/

/-- An episode in which a sound tracker makes an entry in its books, and is honest
about the calls on the host. -/
structure Episode.Legal (host : Host σ C S) (lived : Episode σ C S) : Prop where
  sound : lived.before.Sound
  entry : Entry host lived.before lived.state lived.command lived.outcome.result lived.after
  honest : Honest lived.outcome.result lived.outcome.calls

theorem episode_legal (host : Host σ C S) {tracker : Tracker S} (sound : tracker.Sound)
    (command : Command C) (state : σ) : (episode host tracker command state).Legal host where
  sound := sound
  entry := (sound.perform host command state).2
  honest := perform_honest host command state sound.keeps

/-- A command has spent a tag exactly if the call for a signature or the call that
hangs a tag on a class has failed. -/
theorem Honest.any_spends {result : Except Stop Reply} {calls : List (CallRecord C S)}
    (honest : Honest result calls) :
    calls.any CallRecord.spends = (tagsSpent result == 1) := by
  rcases result with (error | abort) | reply
  · cases error with
    | host op failure =>
        obtain ⟨earlier, call, rfl, sameOp, flawless⟩ := honest
        rw [List.any_append, flawless.not_spends, Bool.false_or, List.any_cons, List.any_nil,
          Bool.or_false]
        simp only [CallRecord.spends, Option.isSome_some, Bool.true_and, sameOp]
        cases op <;> rfl
    | duplicateClass tag => exact Flawless.not_spends honest
    | inconsistentTags tag count => exact Flawless.not_spends honest
    | notInitialized => exact Flawless.not_spends honest
    | alreadyInitialized => exact Flawless.not_spends honest
    | poisoned => exact Flawless.not_spends honest
  · exact Flawless.not_spends honest
  · exact Flawless.not_spends honest

theorem tagsSpent_le_one {α : Type} (result : Except Stop α) : tagsSpent result ≤ 1 := by
  rcases result with (error | abort) | value
  · cases error with
    | host op failure => cases op <;> simp only [tagsSpent, Stop.tagsSpent] <;> omega
    | _ => exact Nat.zero_le 1
  · exact Nat.zero_le 1
  · exact Nat.zero_le 1

theorem tagsSpent_of_isVerdict {α : Type} {reason : TrackingError}
    (verdict : Host.IsVerdict reason) : tagsSpent (.error (.error reason) : Except Stop α) = 0 := by
  obtain ⟨failure, rfl⟩ | ⟨tag, count, rfl⟩ := verdict
  · rfl
  · rfl

namespace Episode

variable {host : Host σ C S} {lived : Episode σ C S}

theorem spent_eq (honest : Honest lived.outcome.result lived.outcome.calls) {number : Nat}
    (last : lived.after.tags.allocated + 1 = number + tagsSpent lived.outcome.result) :
    lived.spent = List.range' number (tagsSpent lived.outcome.result) := by
  have bound := tagsSpent_le_one lived.outcome.result
  rw [spent, honest.any_spends]
  rcases Nat.le_one_iff_eq_zero_or_eq_one.mp bound with none | one
  · rw [none]
    rfl
  · rw [one] at last ⊢
    have same : lived.after.tags.allocated = number := by omega
    rw [same]
    rfl

theorem released_of_isPass (asksForPass : lived.command.isPass = true) : lived.released = [] := by
  rw [released]
  split
  · rename_i isReset
    rw [isReset] at asksForPass
    cases asksForPass
  · rfl

theorem released_of_ne (notReset : lived.command ≠ .reset) : lived.released = [] := by
  rw [released]
  split
  · rename_i isReset
    exact absurd isReset notReset
  · rfl

theorem report?_eq_none (noReport : ∀ report, lived.outcome.result ≠ .ok (.report report)) :
    lived.report? = none := by
  rw [report?]
  split
  · rename_i report isReport
    exact absurd isReport (noReport report)
  · rfl

theorem result_of_report? {report : UnloadReport} (completes : lived.report? = some report) :
    lived.outcome.result = .ok (.report report) := by
  rw [report?] at completes
  split at completes
  · rename_i returned
    cases completes
    exact returned
  · cases completes

theorem gone_of_grown {fresh : List ClassRecord}
    (grown : lived.after.tracked = fresh ++ lived.before.tracked) : lived.gone = [] := by
  rw [gone, List.reverse_eq_nil_iff, List.filter_eq_nil_iff]
  intro record member left
  refine of_decide_eq_true left ?_
  rw [grown]
  exact List.mem_append_right fresh member

theorem gone_of_kept {session : S} (sound : lived.before.Sound)
    (remaining : lived.after.tracked =
      (lived.before.inquest host session ⟨lived.state, []⟩).kept) :
    lived.gone = (lived.before.inquest host session ⟨lived.state, []⟩).dead.reverse := by
  rw [gone, remaining]
  exact congrArg List.reverse (Registry.filter_not_kept _ _ _ sound.nodup)

theorem passFails_of_isReset (isReset : lived.command = .reset) : lived.passFails = false := by
  rw [passFails, isReset]
  split <;> rfl

theorem spent_eq_nil (honest : Honest lived.outcome.result lived.outcome.calls)
    (noSpending : tagsSpent lived.outcome.result = 0) : lived.spent = [] := by
  rw [spent, honest.any_spends, noSpending]
  rfl

theorem left_of_grown {fresh : List ClassRecord}
    (honest : Honest lived.outcome.result lived.outcome.calls)
    (notReset : lived.command ≠ .reset)
    (noReport : ∀ report, lived.outcome.result ≠ .ok (.report report))
    (grown : Grown lived.before lived.after fresh (tagsSpent lived.outcome.result)) :
    lived.left = List.range' (lived.before.tags.allocated + 1 + fresh.length)
      (tagsSpent lived.outcome.result) := by
  have last : lived.after.tags.allocated + 1 =
      lived.before.tags.allocated + 1 + fresh.length + tagsSpent lived.outcome.result := by
    have allocated := grown.allocated
    omega
  rw [left, reported, dropped, report?_eq_none noReport, gone_of_grown grown.tracked, ite_self,
    ite_self, released_of_ne notReset, spent_eq honest last]
  rfl

theorem left_of_swept {report : UnloadReport}
    (honest : Honest lived.outcome.result lived.outcome.calls)
    (asksForPass : lived.command.isPass = true)
    (isReport : lived.outcome.result = .ok (.report report)) :
    lived.left = numbers lived.gone := by
  have completes : lived.report? = some report := by rw [report?, isReport]
  have passes : lived.passFails = false := by rw [passFails, isReport]
  have spendsNothing := spent_eq_nil honest (congrArg tagsSpent isReport)
  rw [left, reported, dropped, completes, passes, released_of_isPass asksForPass, spendsNothing]
  simp only [Option.isSome_some, if_true, Bool.false_eq_true, if_false, numbers, List.map_nil,
    List.append_nil]

theorem left_of_halted {reason : TrackingError}
    (honest : Honest lived.outcome.result lived.outcome.calls)
    (asksForPass : lived.command.isPass = true)
    (isError : lived.outcome.result = .error (.error reason)) (verdict : Host.IsVerdict reason) :
    lived.left = numbers lived.gone := by
  have reportsNothing : lived.report? = none := by rw [report?, isError]
  have fails : lived.passFails = true := by rw [passFails, isError, asksForPass]
  have spendsNothing := spent_eq_nil honest
    ((congrArg tagsSpent isError).trans (tagsSpent_of_isVerdict verdict))
  rw [left, reported, dropped, reportsNothing, fails, released_of_isPass asksForPass,
    spendsNothing]
  simp only [Option.isSome_none, Bool.false_eq_true, if_true, if_false, numbers, List.map_nil,
    List.nil_append, List.append_nil]

theorem left_of_emptied (honest : Honest lived.outcome.result lived.outcome.calls)
    (isReset : lived.command = .reset)
    (noReport : ∀ report, lived.outcome.result ≠ .ok (.report report))
    (noSpending : tagsSpent lived.outcome.result = 0) :
    lived.left = numbers lived.before.tracked := by
  rw [left, reported, dropped, report?_eq_none noReport, passFails_of_isReset isReset, released,
    isReset, spent_eq_nil honest noSpending]
  simp only [Option.isSome_none, Bool.false_eq_true, if_false, numbers, List.map_nil,
    List.nil_append, List.append_nil]

/-- What a pass does not keep leaves. -/
theorem balance_of_kept {session : S} (sound : lived.before.Sound)
    (remaining : lived.after.tracked =
      (lived.before.inquest host session ⟨lived.state, []⟩).kept)
    (leaves : lived.left = numbers lived.gone) :
    (numbers lived.after.tracked ++ lived.left).Perm (numbers lived.before.tracked) := by
  have sorted := Registry.inquire_perm (host.isLive session) lived.before.tracked ⟨lived.state, []⟩
  rw [leaves, gone_of_kept sound remaining, remaining, numbers, numbers, ← List.map_append]
  exact (((List.reverse_perm _).append_left _).trans sorted).map _

/-- What is handed out is tracked or spent. -/
theorem balance_of_grown {fresh : List ClassRecord} {spent : Nat}
    (grown : Grown lived.before lived.after fresh spent)
    (leaves : lived.left =
      List.range' (lived.before.tags.allocated + 1 + fresh.length) spent) :
    (numbers lived.after.tracked ++ lived.left).Perm
      (numbers lived.before.tracked ++ List.range' (lived.before.tags.allocated + 1)
        (lived.after.tags.allocated - lived.before.tags.allocated)) := by
  have handedOut : lived.after.tags.allocated - lived.before.tags.allocated =
      fresh.length + spent := by
    have allocated := grown.allocated
    omega
  have ordered : (numbers fresh).Perm
      (List.range' (lived.before.tags.allocated + 1) fresh.length) :=
    (List.reverse_perm _).symm.trans (List.Perm.of_eq grown.numbers)
  have tracked : numbers lived.after.tracked = numbers fresh ++ numbers lived.before.tracked := by
    rw [grown.tracked]
    exact List.map_append
  rw [tracked, leaves, handedOut, ← List.range'_append_1]
  refine (List.perm_append_comm.append_right _).trans ?_
  rw [List.append_assoc]
  exact (ordered.append_right _).append_left _

/-- **The tags before an episode, and those handed out in it, are those after it
and those that leave.** -/
theorem Legal.balance (legal : lived.Legal host) :
    (numbers lived.after.tracked ++ lived.left).Perm
      (numbers lived.before.tracked ++ List.range' (lived.before.tags.allocated + 1)
        (lived.after.tags.allocated - lived.before.tags.allocated)) := by
  obtain ⟨sound, entry, honest⟩ := legal
  obtain ⟨before, command, state, result, after, ends, calls, trace⟩ := lived
  have noneHandedOut : after.tags = before.tags →
      numbers before.tracked ++ List.range' (before.tags.allocated + 1)
        (after.tags.allocated - before.tags.allocated) = numbers before.tracked := by
    intro sameTags
    rw [sameTags, Nat.sub_self, List.range'_zero, List.append_nil]
  cases entry with
  | grown notReset noReport grown =>
      exact balance_of_grown grown (left_of_grown honest notReset noReport grown)
  | swept asksForPass opened answered remaining reported sameTags =>
      have leaves := left_of_swept honest asksForPass rfl
      exact (balance_of_kept sound remaining leaves).trans
        (List.Perm.of_eq (noneHandedOut sameTags).symm)
  | halted asksForPass opened verdict remaining sameTags =>
      have leaves := left_of_halted honest asksForPass rfl verdict
      exact (balance_of_kept sound remaining leaves).trans
        (List.Perm.of_eq (noneHandedOut sameTags).symm)
  | emptied noReport noSpending nothing sameTags =>
      have tracksNothing : numbers after.tracked = [] := congrArg numbers nothing
      rw [left_of_emptied honest rfl noReport noSpending]
      change (numbers after.tracked ++ _).Perm _
      rw [tracksNothing]
      exact List.Perm.of_eq (noneHandedOut sameTags).symm

/-- The report of a completed pass has the signatures of the records that it yields,
in their order. -/
theorem Legal.signatures_eq (legal : lived.Legal host) {report : UnloadReport}
    (completes : lived.report? = some report) :
    report.signatures = lived.reported.map ClassRecord.signature := by
  obtain ⟨sound, entry, -⟩ := legal
  rw [reported, completes, Option.isSome_some, if_pos rfl]
  obtain ⟨before, command, state, result, after, ends, calls, trace⟩ := lived
  cases entry with
  | grown notReset noReport =>
      rw [report?_eq_none noReport] at completes
      cases completes
  | swept asksForPass opened answered remaining signatures =>
      cases completes
      rw [gone_of_kept sound remaining]
      exact signatures
  | halted => cases completes
  | emptied noReport =>
      rw [report?_eq_none noReport] at completes
      cases completes

/-- Only a pass gives a report. -/
theorem Legal.isPass_of_report (legal : lived.Legal host) {report : UnloadReport}
    (completes : lived.report? = some report) : lived.command.isPass = true := by
  obtain ⟨sound, entry, -⟩ := legal
  obtain ⟨before, command, state, result, after, ends, calls, trace⟩ := lived
  cases entry with
  | grown notReset noReport =>
      rw [report?_eq_none noReport] at completes
      cases completes
  | swept asksForPass => exact asksForPass
  | halted => cases completes
  | emptied noReport =>
      rw [report?_eq_none noReport] at completes
      cases completes

theorem mem_gone {record : ClassRecord} (member : record ∈ lived.reported ++ lived.dropped) :
    record ∈ lived.gone := by
  rw [reported, dropped] at member
  rcases List.mem_append.mp member with yielded | lost
  · split at yielded
    · exact yielded
    · cases yielded
  · split at lost
    · exact lost
    · cases lost

/-- The records that a pass yields or drops were found dead by it. -/
theorem Legal.found_dead (legal : lived.Legal host) {record : ClassRecord}
    (member : record ∈ lived.reported ++ lived.dropped) :
    ∃ session, lived.before.session = some session ∧
      record ∈ (lived.before.inquest host session ⟨lived.state, []⟩).dead := by
  obtain ⟨sound, entry, -⟩ := legal
  have left := mem_gone member
  obtain ⟨before, command, state, result, after, ends, calls, trace⟩ := lived
  cases entry with
  | grown notReset noReport grown =>
      rw [gone_of_grown grown.tracked] at left
      cases left
  | swept asksForPass opened answered remaining =>
      rw [gone_of_kept sound remaining] at left
      exact ⟨_, opened, List.mem_reverse.mp left⟩
  | halted asksForPass opened verdict remaining =>
      rw [gone_of_kept sound remaining] at left
      exact ⟨_, opened, List.mem_reverse.mp left⟩
  | emptied noReport =>
      rw [reported, dropped, report?_eq_none noReport, passFails_of_isReset rfl] at member
      cases member

/-- A completed pass is recorded, and nothing else is. -/
theorem Legal.passes_eq (legal : lived.Legal host) :
    lived.after.passes = lived.pass?.toList.foldl PassHistory.record lived.before.passes := by
  obtain ⟨sound, entry, -⟩ := legal
  obtain ⟨before, command, state, result, after, ends, calls, trace⟩ := lived
  cases entry with
  | grown notReset noReport grown =>
      rw [pass?, report?_eq_none noReport]
      exact grown.passes
  | swept asksForPass opened answered remaining signatures sameTags recorded => exact recorded
  | halted asksForPass opened verdict remaining sameTags samePasses => exact samePasses
  | emptied noReport noSpending nothing sameTags samePasses =>
      rw [pass?, report?_eq_none noReport]
      exact samePasses

/-- An episode that is not a completed pass leaves the history of the passes. -/
theorem Legal.passes_of_quiet (legal : lived.Legal host)
    (quiet : lived.passFails = true ∨ lived.command = .reset ∨ lived.command = .startUp) :
    lived.after.passes = lived.before.passes := by
  have reportsNothing : lived.report? = none := by
    cases completes : lived.report? with
    | none => rfl
    | some report =>
        have asksForPass := legal.isPass_of_report completes
        rcases quiet with fails | isReset | isStart
        · rw [passFails, result_of_report? completes] at fails
          cases fails
        · rw [isReset] at asksForPass
          cases asksForPass
        · rw [isStart] at asksForPass
          cases asksForPass
  rw [legal.passes_eq, pass?, reportsNothing]
  rfl

end Episode

end Tracker

end ClassLiveness

import ClassLiveness.Proofs.Scenario.Counterparts

/-!
# Renumbering sessions

A machine numbers its sessions in the order in which they are opened, so what others open
shifts the numbers that a tracker gets.  A run with its sessions renumbered is a reading of
the run (`Reading.renumbering`), which leaves tags, errors and everything else as they are.
So the answers of two runs that are alike in this way are the same but for the sessions
(`Scenario.Answer.Renumbered`).

The numbers of sessions that are not yet opened may be chosen anew at any time
(`renumberedFrom`), without a loss for what has been said about the others.
-/

set_option autoImplicit false

namespace ClassLiveness

/-- The call with its session renumbered. -/
def Call.renumber (renumber : Nat → Nat) : Call Nat Nat → Call Nat Nat
  | .openSession => .openSession
  | .loadedClasses => .loadedClasses
  | .tagOf session handle => .tagOf (renumber session) handle
  | .signatureOf handle => .signatureOf handle
  | .setTag session handle tag => .setTag (renumber session) handle tag
  | .liveCount session tag => .liveCount (renumber session) tag
  | .close session => .close (renumber session)

/-- The record of a call with its session renumbered. -/
def CallRecord.renumber (renumber : Nat → Nat) (record : CallRecord Nat Nat) :
    CallRecord Nat Nat :=
  ⟨record.call.renumber renumber, record.failure?⟩

/-- Only the number of the session that is named matters. -/
theorem CallRecord.renumber_congr {first second : Nat → Nat} {record : CallRecord Nat Nat}
    (agree : ∀ session, record.call.session? = some session → first session = second session) :
    record.renumber first = record.renumber second := by
  obtain ⟨call, failure?⟩ := record
  cases call with
  | openSession | loadedClasses | signatureOf => rfl
  | tagOf session | setTag session | liveCount session | close session =>
      simp only [CallRecord.renumber, Call.renumber, agree session rfl]

/-! ## Choosing numbers anew -/

/-- Sessions from a bound on are renumbered from a start on. -/
def renumberedFrom (bound start : Nat) (renumber : Nat → Nat) (session : Nat) : Nat :=
  if session < bound then renumber session else start + (session - bound)

theorem renumberedFrom_below {bound start session : Nat} {renumber : Nat → Nat}
    (below : session < bound) : renumberedFrom bound start renumber session = renumber session :=
  if_pos below

theorem renumberedFrom_add (bound start : Nat) (renumber : Nat → Nat) (count : Nat) :
    renumberedFrom bound start renumber (bound + count) = start + count := by
  rw [renumberedFrom, if_neg (by omega), Nat.add_sub_cancel_left]

/-- The order of sessions is preserved if the start is above all the others. -/
theorem strictMono_renumberedFrom {bound start : Nat} {renumber : Nat → Nat}
    (mono : StrictMono renumber) (above : renumber bound ≤ start) :
    StrictMono (renumberedFrom bound start renumber) := by
  intro first second before
  unfold renumberedFrom
  split
  · rename_i firstBelow
    have fromFirst := mono firstBelow
    split
    · exact mono before
    · omega
  · rw [if_neg (by omega)]
    omega

namespace Reading

/-! ## The reading -/

/-- A run is read with its sessions renumbered, and nothing else. -/
def renumbering (renumber : Nat → Nat) : Reading where
  shift := 0
  session := renumber
  passes := id
  earlier := 0
  completed_passes := fun _ => rfl
  passes_record := fun _ _ => rfl

section

variable (renumber : Nat → Nat)

@[simp]
theorem tag_renumbering (tag : Tag) : (renumbering renumber).tag tag = tag :=
  Tag.ext (Nat.min_eq_left tag.number_le_limit)

@[simp]
theorem number_renumbering (number : Nat) : (renumbering renumber).number number = number :=
  ite_eq_right_iff.mpr Eq.symm

@[simp]
theorem record_renumbering (record : ClassRecord) :
    (renumbering renumber).record record = record := by
  rw [Reading.record, tag_renumbering]

@[simp]
theorem error_renumbering (error : TrackingError) :
    (renumbering renumber).error error = error := by
  cases error <;> simp only [Reading.error, tag_renumbering]

@[simp]
theorem abort_renumbering (abort : Abort) : (renumbering renumber).abort abort = abort := by
  cases abort with
  | trackedTwice tag => simp only [Reading.abort, tag_renumbering]
  | tagsExhausted | capacityOverflow | chainReachedVacant | releasedVacant => rfl

@[simp]
theorem callRecord_renumbering (record : CallRecord Nat Nat) :
    (renumbering renumber).callRecord record = record.renumber renumber := by
  obtain ⟨call, failure?⟩ := record
  cases call with
  | setTag session handle tag | liveCount session tag =>
      simp only [Reading.callRecord, Reading.call, CallRecord.renumber, Call.renumber,
        tag_renumbering]
      rfl
  | openSession | loadedClasses | tagOf | signatureOf | close => rfl

@[simp]
theorem entry_renumbering (entry : TraceEntry) : (renumbering renumber).entry entry = entry := by
  have sameSpan : ∀ span, (renumbering renumber).span span = span := fun span => by
    cases span <;> rfl
  have sameEvent : ∀ event, (renumbering renumber).event event = event := fun event => by
    cases event <;> simp only [Reading.event, tag_renumbering, error_renumbering]
  cases entry <;> simp only [Reading.entry, sameSpan, sameEvent]

@[simp]
theorem metrics_renumbering (metrics : Metrics) :
    (renumbering renumber).metrics metrics = metrics := rfl

@[simp]
theorem reply_renumbering (reply : Reply) : (renumbering renumber).reply reply = reply := by
  have sameRecord : (renumbering renumber).record = id := funext (record_renumbering renumber)
  cases reply <;>
    simp only [Reading.reply, tag_renumbering, metrics_renumbering, sameRecord, List.map_id]

@[simp]
theorem action_renumbering (action : Scenario.Action) :
    (renumbering renumber).action action = action := by
  cases action with
  | command command reporting =>
      cases command <;> simp only [Reading.action, Reading.command, number_renumbering]
  | tryLock | rewrap | describeLock => rfl

theorem numberFits_renumbering (number : Nat) : (renumbering renumber).NumberFits number := id

theorem actionFits_renumbering (action : Scenario.Action) :
    (renumbering renumber).ActionFits action := by
  cases action with
  | command command reporting =>
      cases command with
      | isTracked number | signature number => exact numberFits_renumbering renumber number
      | _ => trivial
  | tryLock | rewrap | describeLock => trivial

/-- A change that writes no tag names no session. -/
theorem change_renumbering {change : Machine.Change}
    (notWritten : ∀ session handle number, change ≠ .writeTag session handle number) :
    (renumbering renumber).change change = change := by
  cases change with
  | writeTag session handle number => exact absurd rfl (notWritten session handle number)
  | setHolders number count => simp only [Reading.change, number_renumbering]
  | _ => rfl

end

/-! ## Trackers that are alike -/

namespace Trackers

variable {renumber : Nat → Nat} {first second : Tracker Nat}

/-- The tags have been handed out alike. -/
theorem tags_eq (alike : (renumbering renumber).Trackers first second) :
    second.tags = first.tags :=
  TagSupply.ext alike.allocated

theorem description_eq (alike : (renumbering renumber).Trackers first second) :
    second.description = first.description := by
  have lastTag : second.lastTag? = first.lastTag? := congrArg TagSupply.last? alike.tags_eq
  have lastTagText : second.lastTagText = first.lastTagText := by
    rw [Tracker.lastTagText, Tracker.lastTagText, lastTag]
  unfold Tracker.description
  rw [lastTagText, alike.isInitialized, alike.len, alike.pendingUnloads, alike.poisoned]

theorem tracked_eq (alike : (renumbering renumber).Trackers first second) :
    second.tracked = first.tracked := by
  rw [alike.tracked]
  exact List.map_id'' (record_renumbering renumber) first.tracked

/-- A sound tracker is alike to itself. -/
theorem self (sound : first.Sound) : (renumbering id).Trackers first first := by
  refine ⟨sound, sound, ?_, ?_, rfl, rfl, rfl, rfl, rfl⟩
  · exact (congrFun Option.map_id first.session).symm
  · exact (List.map_id'' (record_renumbering id) first.tracked).symm

/-- Only the number of the tracker's own session matters. -/
theorem renumber_congr (alike : (renumbering renumber).Trackers first second)
    {other : Nat → Nat}
    (agree : ∀ session, first.session = some session → other session = renumber session) :
    (renumbering other).Trackers first second := by
  refine { alike with session := ?_ }
  rw [alike.session]
  exact Option.map_congr fun session held => (agree session held).symm

end Trackers

/-- A machine is alike to itself. -/
theorem Machines.self (held : Option Nat) (machine : Machine) :
    (renumbering id).Machines held machine machine := by
  have sameTags : (renumbering id).tags = id := by
    funext tags handle
    exact (Option.map_congr fun tag _ => tag_renumbering id tag).trans Option.map_id'
  refine ⟨rfl, rfl, rfl, fun _ _ => rfl, fun _ => rfl, fun session _ => ?_,
    fun _ _ _ tag _ => tag.number_le_limit⟩
  rw [sameTags, Option.map_id]
  rfl

end Reading

namespace Scenario

/-! ## Answers -/

/-- A report is that of another run, with the sessions renumbered. -/
structure Report.Renumbered (renumber : Nat → Nat) (first second : Report) : Prop where
  ending : second.ending = first.ending
  calls : second.calls = first.calls.map (CallRecord.renumber renumber)
  trace : second.trace = first.trace
  session : second.tracker.session = first.tracker.session.map renumber
  tracked : second.tracker.tracked = first.tracker.tracked
  tags : second.tracker.tags = first.tracker.tags
  metrics : second.tracker.metrics = first.tracker.metrics
  settings : second.tracker.settings = first.tracker.settings
  pendingUnloads : second.tracker.pendingUnloads = first.tracker.pendingUnloads
  poisoned : second.tracker.poisoned = first.tracker.poisoned

/-- An answer is that of another run, with the sessions renumbered. -/
inductive Answer.Renumbered (renumber : Nat → Nat) : Answer → Answer → Prop where
  | machine (notice : Machine.Notice) : Renumbered renumber (.machine notice) (.machine notice)
  | tracker {first second : Report} : first.Renumbered renumber second →
      Renumbered renumber (.tracker first) (.tracker second)
  | noTracker : Renumbered renumber .noTracker .noTracker

/-- An answer names a session. -/
def Answer.Names (answer : Answer) (session : Nat) : Prop :=
  match answer with
  | .tracker report => report.tracker.session = some session ∨
      ∃ record ∈ report.calls, record.call.session? = some session
  | .machine _ | .noTracker => False

open Reading

theorem ending_of_ends {renumber : Nat → Nat} {first second : Tracker Nat} {action : Action}
    {ending ending' : Ending Reply}
    (alike : (renumbering renumber).Trackers first second)
    (ends : (renumbering renumber).Ends first second action ending ending') : ending' = ending := by
  cases ends with
  | value => rw [reply_renumbering]
  | failed => rw [error_renumbering]
  | fatal => rw [error_renumbering]
  | aborted => rw [abort_renumbering]
  | described => rw [alike.description_eq]
  | lockDescribed =>
      unfold HandlerLock.description HandlerLock.guarding
      rw [alike.description_eq]

/-- An answer that is read with the sessions renumbered is the same but for these. -/
theorem renumbered_of_answers {renumber : Nat → Nat} {step : Step} {answer answer' : Answer}
    (answers : (renumbering renumber).Answers step answer answer') :
    answer.Renumbered renumber answer' := by
  cases answers with
  | machine notice => exact .machine notice
  | noTracker => exact .noTracker
  | @tracker _ _ first second reports =>
      have alike := reports.tracker
      refine .tracker ⟨ending_of_ends alike reports.ending, ?_, ?_, alike.session,
        alike.tracked_eq, alike.tags_eq, ?_, alike.settings, alike.pendingUnloads, alike.poisoned⟩
      · rw [reports.calls]
        exact List.map_congr_left fun record _ => callRecord_renumbering renumber record
      · rw [reports.trace]
        exact List.map_id'' (entry_renumbering renumber) first.trace
      · rw [alike.metrics, metrics_renumbering]

/-- Only the numbers of the sessions that are named matter. -/
theorem Answer.Renumbered.congr {renumber other : Nat → Nat} {answer answer' : Answer}
    (renumbered : answer.Renumbered renumber answer')
    (agree : ∀ session, answer.Names session → other session = renumber session) :
    answer.Renumbered other answer' := by
  cases renumbered with
  | machine notice => exact .machine notice
  | noTracker => exact .noTracker
  | tracker report =>
      refine .tracker { report with calls := ?_, session := ?_ }
      · rw [report.calls]
        refine List.map_congr_left fun record made => CallRecord.renumber_congr ?_
        exact fun session named => (agree session (.inr ⟨record, made, named⟩)).symm
      · rw [report.session]
        exact Option.map_congr fun session held => (agree session (.inl held)).symm

end Scenario

end ClassLiveness

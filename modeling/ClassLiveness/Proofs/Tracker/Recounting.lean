import ClassLiveness.Proofs.Tracker.Soundness
import ClassLiveness.Proofs.Tracker.Traces
import ClassLiveness.Proofs.Tracker.Transcript

/-!
# What is told while classes are tracked

A class is told to be tracked right before its record is pushed, so the trace is right only if
the registry takes the record.  A sound tracker never refuses one, and so an attempt to track a
class tells of a record exactly if it is tracked (`Tracker.Attempt.recounted`).  Over a list of
classes the records that came are told in their order, also if the tracking stops midway
(`Tracker.trackAll_recounts`), and so they are by a startup enumeration that fails
(`Tracker.Population.recounted`).

Two numbers in the trace count calls.  The classes that a startup enumeration has listed are
those that the host lists in the calls of the command (`Tracker.trackAll_listed`), and a
completed pass has asked about each record once (`Tracker.calls_of_inquest`).
-/

set_option autoImplicit false

namespace ClassLiveness

variable {σ C S : Type}

/-- The event that tells of a record that it is tracked. -/
def ClassRecord.tidings (record : ClassRecord) : Event :=
  .classTracked record.tag record.signature

/-- The classes that the host lists when it is met by a call, if the call asks for them. -/
def Host.listing (host : Host σ C S) (meeting : Meeting σ C S) : List (LoadedClass C) :=
  match meeting.record.call with
  | .loadedClasses => (host.answer .loadedClasses meeting.state).1.toOption.getD []
  | _ => []

namespace Tracker

/-! ## Tracking classes -/

/-- Some records more are tracked in a scene than in an earlier one, and the trace has told
of them in between, and of nothing else. -/
structure Recounted (before after : Scene σ C S) (fresh : List ClassRecord) : Prop where
  tracked : after.tracker.tracked = fresh ++ before.tracker.tracked
  trace : after.trace = before.trace ++ (fresh.reverse.map ClassRecord.tidings).map .event

namespace Recounted

variable {first second third : Scene σ C S} {fresh later : List ClassRecord}

theorem of_same (sameTracked : second.tracker.tracked = first.tracker.tracked)
    (sameTrace : second.trace = first.trace) : Recounted first second [] :=
  ⟨sameTracked, sameTrace.trans (List.append_nil _).symm⟩

theorem trans (recounted : Recounted first second fresh)
    (recountedLater : Recounted second third later) :
    Recounted first third (later ++ fresh) := by
  refine ⟨?_, ?_⟩
  · rw [recountedLater.tracked, recounted.tracked, List.append_assoc]
  · rw [recountedLater.trace, recounted.trace, List.append_assoc, List.reverse_append,
      List.map_append, List.map_append]

end Recounted

section

variable {host : Host σ C S} {session : S} {handle : C} {before after : Scene σ C S}

/-- The check for duplicates tells nothing. -/
theorem Screened.trace_eq {screened : Scene σ C S}
    (passed : Screened host session handle before screened) : screened.trace = before.trace := by
  cases passed <;> rfl

/-- **An attempt to track a class tells of a record exactly if it is tracked.** -/
theorem Attempt.recounted {result : Except Stop Tag} (sound : before.tracker.Sound)
    (opened : before.tracker.session = some session)
    (attempt : Attempt host session handle before result after) :
    ∃ fresh, Recounted before after fresh := by
  cases attempt with
  | unscreened => exact ⟨[], .of_same rfl rfl⟩
  | duplicate => exact ⟨[], .of_same rfl rfl⟩
  | exhausted passed | unnamed passed | untagged passed =>
      have sameTracked := congrArg Tracker.tracked passed.tracker_eq
      exact ⟨[], .of_same sameTracked passed.trace_eq⟩
  | clash passed taken _ _ refused =>
      -- The event is out by now, but a fresh tag is never refused.
      exact ((passed.sound sound).not_refused taken (passed.opened opened) refused).elim
  | @tracked _ tag _ signature _ _ _ passed taken _ _ pushed =>
      rw [passed.tracker_eq] at taken pushed
      obtain ⟨records, -⟩ := sound.of_push taken opened pushed
      refine ⟨[⟨tag, signature⟩], records, ?_⟩
      exact congrArg (· ++ [TraceEntry.event (.classTracked tag signature)]) passed.trace_eq

/-- **Tracking a list of classes tells of the records that are tracked**, also if it stops
midway. -/
theorem trackAll_recounts (handles : List C) {scene : Scene σ C S}
    (sound : scene.tracker.Sound) (opened : scene.tracker.session = some session) :
    (trackAll host handles).Ends scene
      (fun _ after => after.tracker.Sound ∧ ∃ fresh, Recounted scene after fresh)
      (fun _ after => after.tracker.Sound ∧ ∃ fresh, Recounted scene after fresh) := by
  refine trackAll_keeps (fun now => now.tracker.Sound ∧ ∃ fresh, Recounted scene now fresh) ?_
    handles opened ⟨sound, [], .of_same rfl rfl⟩
  rintro _ _ _ _ openedNow ⟨soundNow, fresh, recounted⟩ attempt
  obtain ⟨later, recountedLater⟩ := attempt.recounted soundNow openedNow
  exact ⟨(attempt.bookkeeping soundNow openedNow).2, _, recounted.trans recountedLater⟩

/-! ## Startup enumerations -/

/-- The host has listed some classes in a dialogue, and is where the calls have led it. -/
structure HasListed (host : Host σ C S) (state : σ) (enumerated : List (LoadedClass C))
    (dialogue : Dialogue σ C S) : Prop where
  host_eq : dialogue.host = host.replay state dialogue.calls
  listed : (host.meetings state dialogue.calls).flatMap host.listing = enumerated

/-- A call that does not ask for the loaded classes lists none. -/
theorem HasListed.extend {state : σ} {enumerated : List (LoadedClass C)} {call : Call C S}
    (other : call ≠ .loadedClasses) : host.Carries call (HasListed host state enumerated) := by
  rintro dialogue ⟨atHost, listed⟩
  refine ⟨Host.replay_extend atHost call, ?_⟩
  rw [Host.extend, Host.meetings_append, List.flatMap_append, listed]
  refine (congrArg (enumerated ++ ·) ?_).trans (List.append_nil _)
  cases call with
  | loadedClasses => exact absurd rfl other
  | _ => rfl

/-- The two calls with which a startup enumeration begins list the loaded classes. -/
theorem listed_of_answers {tracker : Tracker S} {state afterOpening afterListing : σ}
    {enumerated : List (LoadedClass C)}
    (opened : host.answer .openSession state = (.ok session, afterOpening))
    (listed : host.answer .loadedClasses afterOpening = (.ok enumerated, afterListing)) :
    HasListed host state enumerated
      (((Scene.start tracker state).written (.entered .startup)).listed session afterOpening
        afterListing).dialogue := by
  have made : (((Scene.start tracker state).written (.entered .startup)).listed session
      afterOpening afterListing).dialogue.calls =
        ([⟨.openSession, none⟩, ⟨.loadedClasses, none⟩] : List (CallRecord C S)) := rfl
  refine ⟨?_, ?_⟩
  · rw [made]
    simp only [Host.replay, List.foldl_cons, List.foldl_nil, opened, listed]
    rfl
  · rw [made]
    simp only [Host.meetings, Host.listing, List.flatMap_cons, List.flatMap_nil, opened, listed,
      List.nil_append, List.append_nil]
    rfl

/-- Tracking classes lists no others. -/
theorem trackAll_listed (handles : List C) {scene : Scene σ C S} {state : σ}
    {enumerated : List (LoadedClass C)} (opened : scene.tracker.session = some session)
    (listed : HasListed host state enumerated scene.dialogue) :
    (trackAll host handles).Ends scene
      (fun _ after => HasListed host state enumerated after.dialogue)
      (fun _ after => HasListed host state enumerated after.dialogue) := by
  refine trackAll_carries handles opened ?_ listed
  intro handle call tracks
  refine HasListed.extend ?_
  cases tracks <;> exact nofun

/-- An uninitialized tracker tracks as much after its registry is cleared as before. -/
theorem Sound.records_clear {tracker : Tracker S} (sound : tracker.Sound)
    (closed : tracker.session = none) : tracker.registry.clear.records = tracker.tracked :=
  Registry.Keeps.empty.records_eq.trans (sound.uninitialized closed).symm

/-- A startup enumeration tells of the records that are tracked, also if it fails. -/
theorem Population.recounted {stop : Stop}
    (populated : Population host before (.error stop) after) (sound : before.tracker.Sound)
    (closed : before.tracker.session = none) :
    ∃ fresh, Recounted before after fresh := by
  have cleared := sound.records_clear closed
  cases populated with
  | unopened => exact ⟨[], .of_same cleared rfl⟩
  | unlisted => exact ⟨[], .of_same cleared rfl⟩
  | @halted session _ afterOpening afterListing _ _ _ _ stopped =>
      have listed : Recounted before (before.listed session afterOpening afterListing) [] :=
        .of_same cleared rfl
      obtain ⟨-, fresh, recounted⟩ := (trackAll_recounts _ (.of_empty rfl) rfl).error stopped
      exact ⟨_, listed.trans recounted⟩

/-! ## Passes -/

/-- **A pass that is completed has asked about every record once.** -/
theorem calls_of_inquest {records : List ClassRecord} {dialogue : Dialogue σ C S}
    (answered : (Registry.inquire (host.isLive session) records dialogue).failure? = none) :
    (Registry.inquire (host.isLive session) records dialogue).state.calls =
      dialogue.calls ++ records.map fun record => ⟨.liveCount session record.tag, none⟩ := by
  induction records generalizing dialogue with
  | nil => exact (List.append_nil _).symm
  | cons record rest ih =>
      rcases told : host.isLive session record.tag dialogue with ⟨live, next⟩ | ⟨reason, next⟩
      · obtain ⟨-, -, asked, -⟩ := Host.isLive_ok told
        have others : (Registry.inquire (host.isLive session) rest next).failure? = none →
            (Registry.inquire (host.isLive session) rest next).state.calls =
              dialogue.calls ++ (record :: rest).map fun record =>
                ⟨.liveCount session record.tag, none⟩ := by
          intro answeredToo
          rw [ih answeredToo, asked, List.append_assoc]
          rfl
        cases live with
        | true =>
            simp only [Registry.inquire, told] at answered ⊢
            exact others answered
        | false =>
            simp only [Registry.inquire, told] at answered ⊢
            exact others answered
      · simp only [Registry.inquire, told] at answered
        cases answered

end

end Tracker

end ClassLiveness

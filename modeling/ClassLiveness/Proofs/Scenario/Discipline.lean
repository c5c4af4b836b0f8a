import ClassLiveness.Proofs.Scenario.Sessions

/-!
# The sessions of the trackers of a scenario

The trackers of a scenario open and close sessions on one machine, and any call can
fail.  The machine and the trackers agree all the while (`Scenario.Orderly`): a session is
open if a tracker is in it or the machine has failed to close it, a session belongs to one
tracker, and nobody is in a session that was to be closed.  Whatever a tracker does with
its session keeps this up (`Scenario.Orderly.use`), and so do all scenarios
(`Scenario.orderly_playAll`).

What can be said of the open sessions and of the calls at any time follows
(`Scenario.session_discipline`).
-/

set_option autoImplicit false

namespace ClassLiveness

namespace Scenario

open Machine Tracker

/-- New trackers, each with settings of its own, on an empty machine. -/
def ofSettings (settings : List Settings) : Scenario :=
  ⟨.empty, (settings.map fun chosen => HandlerLock.guarding (Tracker.new chosen)).toArray⟩

/-- The calls made in an answer. -/
def Answer.calls : Answer → List (CallRecord Nat Nat)
  | .tracker report => report.calls
  | .machine _ | .noTracker => []

/-- The sessions that the trackers are in. -/
def sessionsHeld (scenario : Scenario) : List Nat := scenario.trackers.filterMap Tracker.session

/-! ## Order among the trackers and the machine -/

/-- A tracker of the list is in a session. -/
def Held (trackers : List (Tracker Nat)) (session : Nat) : Prop :=
  ∃ tracker ∈ trackers, tracker.session = some session

/-- A tracker of the list other than the one with a number is in a session. -/
def HeldElsewhere (trackers : List (Tracker Nat)) (number session : Nat) : Prop :=
  ∃ other tracker, other ≠ number ∧ trackers[other]? = some tracker ∧
    tracker.session = some session

theorem held_set {trackers : List (Tracker Nat)} {number : Nat} {tracker : Tracker Nat}
    (found : trackers[number]? = some tracker) (after : Tracker Nat) (session : Nat) :
    Held (trackers.set number after) session ↔
      after.session = some session ∨ HeldElsewhere trackers number session := by
  constructor
  · rintro ⟨holder, member, holds⟩
    obtain ⟨other, isThere⟩ := List.mem_iff_getElem?.mp member
    rcases getElem?_set_cases isThere with ⟨-, rfl⟩ | ⟨different, foundOther⟩
    · exact .inl holds
    · exact .inr ⟨other, holder, Ne.symm different, foundOther, holds⟩
  · rintro (holds | ⟨other, holder, different, foundOther, holds⟩)
    · have inside := (List.getElem?_eq_some_iff.mp found).1
      exact ⟨after, List.mem_set inside after, holds⟩
    · refine ⟨holder, List.mem_of_getElem? (i := other) ?_, holds⟩
      rw [List.getElem?_set_ne (Ne.symm different)]
      exact foundOther

theorem held_iff {trackers : List (Tracker Nat)} {number : Nat} {tracker : Tracker Nat}
    (found : trackers[number]? = some tracker) (session : Nat) :
    Held trackers session ↔
      tracker.session = some session ∨ HeldElsewhere trackers number session := by
  have same : trackers.set number tracker = trackers := by
    obtain ⟨inside, isThere⟩ := List.getElem?_eq_some_iff.mp found
    rw [← isThere]
    exact List.set_getElem_self inside
  rw [← held_set found tracker session, same]

/-- The trackers and the machine are in order after some calls. -/
structure Orderly (trackers : List (Tracker Nat)) (machine : Machine)
    (calls : List (CallRecord Nat Nat)) : Prop where
  sound : ∀ tracker ∈ trackers, tracker.Sound
  numbered : ∀ session, machine.IsOpen session → session < machine.opened
  /-- No two trackers are in the same session. -/
  apart : ∀ (first second : Nat) (one other : Tracker Nat), trackers[first]? = some one →
    trackers[second]? = some other → ∀ session, one.session = some session →
      other.session = some session → first = second
  isOpen_iff : ∀ session, machine.IsOpen session ↔
    Held trackers session ∨ session ∈ unclosedIn calls
  /-- A session that was to be closed is given up for good. -/
  givenUp : ∀ record ∈ calls, ∀ session, record.call.closes? = some session →
    session < machine.opened ∧ ¬Held trackers session
  once : (unclosedIn calls).Nodup
  /-- A session that was to be closed is not named again. -/
  final : calls.Pairwise fun earlier later => ∀ session,
    earlier.call.closes? = some session → later.call.session? ≠ some session

namespace Orderly

variable {trackers : List (Tracker Nat)} {machine left : Machine}
  {calls made : List (CallRecord Nat Nat)} {number : Nat} {tracker after : Tracker Nat}

theorem not_held_of_unclosed (orderly : Orderly trackers machine calls) {session : Nat}
    (unclosed : session ∈ unclosedIn calls) :
    session < machine.opened ∧ ¬Held trackers session := by
  obtain ⟨record, made, failed⟩ := mem_unclosedIn.mp unclosed
  exact orderly.givenUp record made session (closes?_of_unclosed? failed)

theorem lt_opened (orderly : Orderly trackers machine calls) {session : Nat}
    (held : Held trackers session) : session < machine.opened :=
  orderly.numbered session ((orderly.isOpen_iff session).mpr (.inl held))

theorem isNumbered (orderly : Orderly trackers machine calls) : machine.IsNumbered := by
  intro session above
  by_contra isThere
  have isOpen : machine.IsOpen session :=
    isOpen_iff_isSome.mpr (Option.isSome_iff_ne_none.mpr isThere)
  have below := orderly.numbered session isOpen
  omega

/-- A session that one tracker is in is not that of another. -/
theorem not_heldElsewhere (orderly : Orderly trackers machine calls)
    (found : trackers[number]? = some tracker) {session : Nat}
    (held : tracker.session = some session) : ¬HeldElsewhere trackers number session := by
  rintro ⟨other, holder, different, foundOther, holds⟩
  exact different (orderly.apart other number holder tracker foundOther found session holds held)

/-- What happens on a machine without the trackers leaves them in order. -/
theorem change (orderly : Orderly trackers machine calls) (same : SameSessions machine left) :
    Orderly trackers left calls := by
  refine ⟨orderly.sound, ?_, orderly.apart, ?_, ?_, orderly.once, orderly.final⟩
  · intro session isOpen
    rw [same.opened_eq]
    exact orderly.numbered session ((same.isOpen_iff session).mp isOpen)
  · exact fun session => (same.isOpen_iff session).trans (orderly.isOpen_iff session)
  · rw [same.opened_eq]
    exact orderly.givenUp

/-! ## A command -/

/-- The calls of a command name a session that was not to be closed before. -/
theorem final_append (orderly : Orderly trackers machine calls)
    (fresh : ∀ record ∈ made, ∀ session, record.call.session? = some session →
      machine.opened ≤ session ∨ Held trackers session)
    (own : made.Pairwise fun earlier later => ∀ session,
      earlier.call.closes? = some session → later.call.session? ≠ some session) :
    (calls ++ made).Pairwise fun earlier later => ∀ session,
      earlier.call.closes? = some session → later.call.session? ≠ some session := by
  refine List.pairwise_append.mpr ⟨orderly.final, own, ?_⟩
  intro earlier isEarlier later isLater session closes names
  obtain ⟨below, nobody⟩ := orderly.givenUp earlier isEarlier session closes
  rcases fresh later isLater session names with above | held
  · omega
  · exact nobody held

/-- A session that the tracker is in after the command is that of no other. -/
theorem own (orderly : Orderly trackers machine calls) (found : trackers[number]? = some tracker)
    (used : SessionUse machine tracker.session after.session left made) {session : Nat}
    (holds : after.session = some session) : ¬HeldElsewhere trackers number session := by
  rcases used.holds_cases holds with held | ⟨isNext, -⟩
  · exact orderly.not_heldElsewhere found held
  · rintro ⟨other, holder, -, foundOther, heldThere⟩
    have below := orderly.lt_opened ⟨holder, List.mem_of_getElem? foundOther, heldThere⟩
    omega

/-- The sessions that are open after the command. -/
theorem isOpen_iff_of_use (orderly : Orderly trackers machine calls)
    (found : trackers[number]? = some tracker)
    (used : SessionUse machine tracker.session after.session left made) (session : Nat) :
    left.IsOpen session ↔
      Held (trackers.set number after) session ∨ session ∈ unclosedIn (calls ++ made) := by
  have isOpen := used.isOpen_iff (fun other held =>
    (orderly.isOpen_iff other).mpr (.inl ((held_iff found other).mpr (.inl held)))) session
  have apartFromOthers : tracker.session = some session →
      ¬HeldElsewhere trackers number session := orderly.not_heldElsewhere found
  have apartFromUnclosed : session ∈ unclosedIn calls → tracker.session ≠ some session :=
    fun unclosed held =>
      (orderly.not_held_of_unclosed unclosed).2 ((held_iff found session).mpr (.inl held))
  rw [isOpen, orderly.isOpen_iff, held_iff found, held_set found, unclosedIn_append,
    List.mem_append]
  tauto

/-- The sessions that were to be closed are given up after the command. -/
theorem givenUp_of_use (orderly : Orderly trackers machine calls)
    (found : trackers[number]? = some tracker)
    (used : SessionUse machine tracker.session after.session left made)
    {record : CallRecord Nat Nat} (member : record ∈ calls ++ made) {session : Nat}
    (closes : record.call.closes? = some session) :
    session < left.opened ∧ ¬Held (trackers.set number after) session := by
  have grows := used.opened_le
  rw [held_set found]
  rcases List.mem_append.mp member with earlier | later
  · obtain ⟨below, nobody⟩ := orderly.givenUp record earlier session closes
    rw [held_iff found] at nobody
    refine ⟨by omega, ?_⟩
    rintro (holds | elsewhere)
    · rcases used.holds_cases holds with held | ⟨isNext, -⟩
      · exact nobody (.inl held)
      · omega
    · exact nobody (.inr elsewhere)
  · obtain ⟨held, without⟩ := used.closes later closes
    have below := orderly.lt_opened ((held_iff found session).mpr (.inl held))
    refine ⟨by omega, ?_⟩
    rintro (holds | elsewhere)
    · cases without.symm.trans holds
    · exact orderly.not_heldElsewhere found held elsewhere

/-- **What a tracker does with its session leaves everything in order.** -/
theorem use (orderly : Orderly trackers machine calls) (found : trackers[number]? = some tracker)
    (sound : after.Sound)
    (used : SessionUse machine tracker.session after.session left made) :
    Orderly (trackers.set number after) left (calls ++ made) := by
  refine ⟨?_, used.numbered orderly.numbered, ?_, orderly.isOpen_iff_of_use found used,
    fun _ member _ closes => orderly.givenUp_of_use found used member closes, ?_, ?_⟩
  · intro other isThere
    rcases List.mem_or_eq_of_mem_set isThere with before | rfl
    · exact orderly.sound other before
    · exact sound
  · intro first second one other foundOne foundOther session openedOne openedOther
    rcases getElem?_set_cases foundOne with ⟨isFirst, rfl⟩ | ⟨differs, thereOne⟩
    · rcases getElem?_set_cases foundOther with ⟨isSecond, -⟩ | ⟨differs, thereOther⟩
      · exact isFirst.symm.trans isSecond
      · exact absurd ⟨second, other, Ne.symm differs, thereOther, openedOther⟩
          (orderly.own found used openedOne)
    · rcases getElem?_set_cases foundOther with ⟨-, rfl⟩ | ⟨-, thereOther⟩
      · exact absurd ⟨first, one, Ne.symm differs, thereOne, openedOne⟩
          (orderly.own found used openedOther)
      · exact orderly.apart first second one other thereOne thereOther session openedOne openedOther
  · rw [unclosedIn_append]
    refine List.Nodup.append orderly.once used.nodup_unclosedIn ?_
    intro session earlier later
    obtain ⟨record, member, failed⟩ := mem_unclosedIn.mp later
    have held := (used.closes member (closes?_of_unclosed? failed)).1
    exact (orderly.not_held_of_unclosed earlier).2 ((held_iff found session).mpr (.inl held))
  · refine orderly.final_append (fun record member session named => ?_) used.final
    rcases used.names member named with held | ⟨-, rfl, -⟩
    · exact .inr ((held_iff found session).mpr (.inl held))
    · exact .inl (Nat.le_refl _)

end Orderly

/-! ## Scenarios -/

theorem orderly_ofSettings (settings : List Settings) :
    Orderly (ofSettings settings).trackers (ofSettings settings).machine [] := by
  have areNew : (ofSettings settings).trackers = settings.map Tracker.new := by
    rw [Scenario.trackers, ofSettings, List.toList_toArray, List.map_map]
    rfl
  rw [areNew]
  have closed : ∀ tracker ∈ settings.map (Tracker.new (S := Nat)), tracker.session = none := by
    intro tracker member
    obtain ⟨chosen, -, rfl⟩ := List.mem_map.mp member
    rfl
  have nobody : ∀ session, ¬Held (settings.map Tracker.new) session := by
    rintro session ⟨tracker, member, holds⟩
    cases (closed tracker member).symm.trans holds
  have noneOpen : ∀ session, ¬(ofSettings settings).machine.IsOpen session :=
    fun session => Std.TreeMap.not_mem_emptyc
  refine ⟨?_, ?_, ?_, ?_, List.forall_mem_nil _, List.nodup_nil, List.Pairwise.nil⟩
  · intro tracker member
    obtain ⟨chosen, -, rfl⟩ := List.mem_map.mp member
    exact .of_empty rfl
  · exact fun session isOpen => absurd isOpen (noneOpen session)
  · intro first second one other foundOne _ session opened
    cases (closed one (List.mem_of_getElem? foundOne)).symm.trans opened
  · intro session
    exact iff_of_false (noneOpen session) (not_or.mpr ⟨nobody session, List.not_mem_nil⟩)

/-- What is done with a tracker of the machine and with its lock. -/
theorem sessionUse_act (machine : Machine) {lock : HandlerLock (Tracker Nat)}
    (sound : lock.content.Sound) (action : Action) :
    (act machine lock action).2.1.content.Sound ∧
      (act machine lock action).1.tracker = (act machine lock action).2.1.content ∧
      SessionUse machine lock.content.session (act machine lock action).2.1.content.session
        (act machine lock action).2.2 (act machine lock action).1.calls := by
  cases action with
  | command command reporting =>
      exact ⟨(sound.perform Machine.host command machine).1, rfl,
        perform_sessionUse sound machine command⟩
  | tryLock | rewrap | describeLock => exact ⟨sound, rfl, .idle machine _⟩

/-- The tracker behind a lock. -/
theorem getElem?_trackers {scenario : Scenario} {number : Nat} {lock : HandlerLock (Tracker Nat)}
    (found : scenario.locks[number]? = some lock) :
    scenario.trackers[number]? = some lock.content := by
  rw [trackers, List.getElem?_map, Array.getElem?_toList, found]
  rfl

/-- The report of a tracker, and what becomes of the scenario. -/
theorem play_act {scenario : Scenario} {number : Nat} {lock : HandlerLock (Tracker Nat)}
    (found : scenario.locks[number]? = some lock) (action : Action) :
    scenario.trackers[number]? = some lock.content ∧
      (scenario.play (.act number action)).1 =
        .tracker (act scenario.machine lock action).1 ∧
      (scenario.play (.act number action)).2.machine = (act scenario.machine lock action).2.2 ∧
      (scenario.play (.act number action)).2.trackers =
        scenario.trackers.set number (act scenario.machine lock action).2.1.content := by
  refine ⟨getElem?_trackers found, ?_, ?_, ?_⟩
  · simp only [play, found]
  · simp only [play, found]
  · simp only [play, found, trackers, Array.toList_setIfInBounds, List.map_set]
    rfl

theorem orderly_play {scenario : Scenario} {calls : List (CallRecord Nat Nat)}
    (orderly : Orderly scenario.trackers scenario.machine calls) (step : Step) :
    Orderly (scenario.play step).2.trackers (scenario.play step).2.machine
      (calls ++ (scenario.play step).1.calls) := by
  cases step with
  | change happened =>
      change Orderly scenario.trackers (scenario.machine.apply happened).2 (calls ++ [])
      rw [List.append_nil]
      exact orderly.change (sameSessions_apply scenario.machine happened)
  | act number action =>
      cases found : scenario.locks[number]? with
      | none =>
          simp only [play, found, Answer.calls, List.append_nil]
          exact orderly
      | some lock =>
          obtain ⟨isThere, answer, machine, trackers⟩ := play_act found action
          obtain ⟨sound, -, used⟩ :=
            sessionUse_act _ (orderly.sound _ (List.mem_of_getElem? isThere)) action
          rw [answer, machine, trackers]
          exact orderly.use isThere sound used

/-- **The trackers of a scenario and its machine are in order.** -/
theorem orderly_playAll {scenario : Scenario} {calls : List (CallRecord Nat Nat)}
    (orderly : Orderly scenario.trackers scenario.machine calls) (steps : List Step) :
    Orderly (scenario.playAll steps).2.trackers (scenario.playAll steps).2.machine
      (calls ++ (scenario.playAll steps).1.flatMap Answer.calls) := by
  induction steps generalizing scenario calls with
  | nil =>
      change Orderly scenario.trackers scenario.machine (calls ++ [])
      rw [List.append_nil]
      exact orderly
  | cons step rest ih =>
      have after := ih (orderly_play orderly step)
      rw [List.append_assoc, ← List.flatMap_cons] at after
      exact after

/-! ## What is seen of it -/

/-- The open sessions are those that a tracker is in, and those that the machine has failed
to close. -/
theorem Orderly.openSessions_perm {scenario : Scenario} {calls : List (CallRecord Nat Nat)}
    (orderly : Orderly scenario.trackers scenario.machine calls) :
    scenario.machine.openSessions.Perm (scenario.sessionsHeld ++ unclosedIn calls) := by
  have memHeld : ∀ session, session ∈ scenario.sessionsHeld ↔ Held scenario.trackers session :=
    fun session => List.mem_filterMap
  refine (List.perm_ext_iff_of_nodup (nodup_openSessions _) ?_).mpr fun session => ?_
  · refine List.Nodup.append ?_ orderly.once ?_
    · refine List.pairwise_filterMap.mpr (List.pairwise_iff_getElem.mpr ?_)
      rintro first second inFirst inSecond before session opened other openedOther rfl
      have same := orderly.apart first second _ _ (List.getElem?_eq_getElem inFirst)
        (List.getElem?_eq_getElem inSecond) session opened openedOther
      omega
    · intro session held unclosed
      exact (orderly.not_held_of_unclosed unclosed).2 ((memHeld session).mp held)
  · rw [mem_openSessions, List.mem_append, memHeld, orderly.isOpen_iff]

/-- **The trackers of a scenario keep session discipline.**  At any time the open sessions are
those that a tracker is in and those that the machine has failed to close, no two trackers are
in the same session, and whatever is done with a tracker next, its calls name the session that
it is in, or, if it is in none, the one that the first of them has opened for it.  And a session
that was to be closed is not named by any later call, whether or not it was closed. -/
theorem session_discipline (settings : List Settings) (steps : List Step) :
    let played := (ofSettings settings).playAll steps
    let calls := played.1.flatMap Answer.calls
    played.2.machine.openSessions.Perm (played.2.sessionsHeld ++ unclosedIn calls) ∧
      (∀ (first second : Nat) (one other : Tracker Nat), played.2.trackers[first]? = some one →
        played.2.trackers[second]? = some other → ∀ session, one.session = some session →
          other.session = some session → first = second) ∧
      (∀ number action report, (played.2.play (.act number action)).1 = .tracker report →
        ∃ tracker, played.2.trackers[number]? = some tracker ∧
          ∀ record ∈ report.calls, ∀ session, record.call.session? = some session →
            tracker.session = some session ∨
              tracker.session = none ∧ session = played.2.machine.opened ∧
                report.tracker.session = some session ∧
                report.calls.head? = some ⟨.openSession, none⟩) ∧
      calls.Pairwise fun earlier later => ∀ session,
        earlier.call = .close session → later.call.session? ≠ some session := by
  intro played calls
  have orderly : Orderly played.2.trackers played.2.machine calls := by
    have started := orderly_playAll (orderly_ofSettings settings) steps
    rwa [List.nil_append] at started
  refine ⟨orderly.openSessions_perm, orderly.apart, ?_, ?_⟩
  · intro number action report answered
    cases found : played.2.locks[number]? with
    | none =>
        simp only [play, found] at answered
        cases answered
    | some lock =>
        obtain ⟨isThere, answer, -, -⟩ := play_act found action
        obtain ⟨-, remaining, used⟩ :=
          sessionUse_act _ (orderly.sound _ (List.mem_of_getElem? isThere)) action
        cases answer.symm.trans answered
        refine ⟨lock.content, isThere, fun record made session named => ?_⟩
        rw [remaining]
        exact used.names made named
  · refine orderly.final.imp fun final session closes => ?_
    exact final session (by rw [closes]; rfl)

end Scenario

end ClassLiveness

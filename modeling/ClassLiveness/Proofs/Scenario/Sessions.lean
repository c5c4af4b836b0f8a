import ClassLiveness.Proofs.Contract.SharedMachine

/-!
# What a command does with the sessions of the machine

A machine has the sessions that were opened and not closed, and it numbers them in
the order in which they were opened.  Of all the calls of a tracker only two can
change that, and only if they succeed (`Machine.sameSessions_of_failed`,
`Machine.sameSessions_answer`).

So there are four things that a command can do with sessions
(`Tracker.SessionUse`), and a command on the machine does one of them
(`Tracker.perform_sessionUse`): it keeps the session that the tracker has, or opens the
next one, or closes the tracker's, or tries to.
-/

set_option autoImplicit false

namespace ClassLiveness

/-- The call closes a session. -/
def Call.closes? {C S : Type} : Call C S → Option S
  | .close session => some session
  | _ => none

/-- The session that a call was to close and has not closed. -/
def unclosed? (record : CallRecord Nat Nat) : Option Nat :=
  if record.failure?.isSome then record.call.closes? else none

/-- The sessions that the machine has failed to close. -/
def unclosedIn (calls : List (CallRecord Nat Nat)) : List Nat := calls.filterMap unclosed?

theorem closes?_of_unclosed? {record : CallRecord Nat Nat} {session : Nat}
    (unclosed : unclosed? record = some session) : record.call.closes? = some session := by
  unfold unclosed? at unclosed
  split at unclosed
  · exact unclosed
  · cases unclosed

theorem mem_unclosedIn {calls : List (CallRecord Nat Nat)} {session : Nat} :
    session ∈ unclosedIn calls ↔ ∃ record ∈ calls, unclosed? record = some session :=
  List.mem_filterMap

theorem unclosedIn_append (earlier later : List (CallRecord Nat Nat)) :
    unclosedIn (earlier ++ later) = unclosedIn earlier ++ unclosedIn later :=
  List.filterMap_append

namespace Machine

/-! ## The sessions of a machine -/

/-- A session is open. -/
def IsOpen (machine : Machine) (session : Nat) : Prop := session ∈ machine.sessions

theorem mem_openSessions {machine : Machine} {session : Nat} :
    session ∈ machine.openSessions ↔ machine.IsOpen session :=
  Std.TreeMap.mem_keys

theorem nodup_openSessions (machine : Machine) : machine.openSessions.Nodup :=
  Std.TreeMap.nodup_keys

theorem isOpen_iff_isSome {machine : Machine} {session : Nat} :
    machine.IsOpen session ↔ machine.sessions[session]?.isSome = true :=
  Std.TreeMap.mem_iff_isSome_getElem?

theorem IsNumbered.lt_opened {machine : Machine} (numbered : machine.IsNumbered) {session : Nat}
    (isOpen : machine.IsOpen session) : session < machine.opened := by
  by_contra above
  rw [isOpen_iff_isSome, numbered session (Nat.le_of_not_lt above)] at isOpen
  cases isOpen

/-- Two machines have had the same sessions, and the same of them are open. -/
structure SameSessions (before after : Machine) : Prop where
  opened_eq : after.opened = before.opened
  isOpen_iff : ∀ session, after.IsOpen session ↔ before.IsOpen session

namespace SameSessions

theorem refl (machine : Machine) : SameSessions machine machine := ⟨rfl, fun _ => Iff.rfl⟩

theorem trans {first second third : Machine} (one : SameSessions first second)
    (other : SameSessions second third) : SameSessions first third :=
  ⟨other.opened_eq.trans one.opened_eq,
    fun session => (other.isOpen_iff session).trans (one.isOpen_iff session)⟩

theorem of_sessions_eq {before after : Machine} (sessions : after.sessions = before.sessions)
    (opened : after.opened = before.opened) : SameSessions before after := by
  refine ⟨opened, fun session => ?_⟩
  rw [IsOpen, IsOpen, sessions]

end SameSessions

/-! ## Calls -/

theorem sameSessions_changeTags (machine : Machine) (session : Nat)
    (change : SessionTags → SessionTags) :
    SameSessions machine (machine.changeTags session change) := by
  unfold changeTags
  split
  · rename_i tags found
    refine ⟨rfl, fun other => ?_⟩
    simp only [IsOpen, Std.TreeMap.mem_insert, Nat.compare_eq_eq]
    refine or_iff_right_of_imp ?_
    rintro rfl
    exact isOpen_iff_isSome.mpr (Option.isSome_of_eq_some found)
  · exact .refl machine

theorem sameSessions_strike (machine : Machine) (op : HostOp) :
    SameSessions machine (machine.strike op).2 := by
  rw [strike_eq]
  exact .of_sessions_eq rfl rfl

/-- Only the opening and the closing of a session have to do with which are open. -/
theorem sameSessions_answer {call : Call Nat Nat} (notOpening : call ≠ .openSession)
    (notClosing : call.closes? = none) (machine : Machine) :
    SameSessions machine (host.answer call machine).2 := by
  have struck := sameSessions_strike machine call.op
  rcases answer_snd call machine with same | same
  · rw [same]
    exact struck
  · rw [same]
    refine struck.trans ?_
    cases call with
    | openSession => exact absurd rfl notOpening
    | close => cases notClosing
    | setTag => exact sameSessions_changeTags _ _ _
    | loadedClasses | tagOf | liveCount => exact .refl _
    | signatureOf =>
        simp only [reply]
        split
        · split <;> exact .refl _
        · exact .refl _

/-- A call that fails opens and closes nothing. -/
theorem sameSessions_of_failed {call : Call Nat Nat} {machine after : Machine}
    {failure : HostError} (failed : host.answer call machine = (.error failure, after)) :
    SameSessions machine after := by
  have struck := sameSessions_strike machine call.op
  simp only [host] at failed
  split at failed
  · rename_i same
    cases failed
    rw [same] at struck
    exact struck
  · rename_i same
    rw [same] at struck
    refine struck.trans ?_
    cases call with
    | signatureOf handle =>
        simp only [reply] at failed
        split at failed
        · split at failed
          all_goals cases failed
          exact .refl _
        · cases failed
          exact .refl _
    | openSession | loadedClasses | tagOf | setTag | liveCount | close => cases failed

/-- The session that is opened is the next one. -/
theorem openSession_ok {machine after : Machine} {session : Nat}
    (answered : host.answer .openSession machine = (.ok session, after)) :
    session = machine.opened ∧ after.opened = machine.opened + 1 ∧
      ∀ other, after.IsOpen other ↔ other = machine.opened ∨ machine.IsOpen other := by
  obtain ⟨faults, replied⟩ := reply_of_ok answered
  cases replied
  refine ⟨rfl, rfl, fun other => ?_⟩
  simp only [IsOpen, Std.TreeMap.mem_insert, Nat.compare_eq_eq]
  rw [eq_comm (a := machine.opened)]

/-- A session that is closed is not open any more. -/
theorem close_ok {machine after : Machine} {session : Nat}
    (answered : host.answer (.close session) machine = (.ok (), after)) :
    after.opened = machine.opened ∧
      ∀ other, after.IsOpen other ↔ other ≠ session ∧ machine.IsOpen other := by
  obtain ⟨faults, replied⟩ := reply_of_ok answered
  cases replied
  refine ⟨rfl, fun other => ?_⟩
  simp only [IsOpen, Std.TreeMap.mem_erase, ne_eq, Nat.compare_eq_eq]
  rw [eq_comm (a := session)]

/-! ## Changes -/

/-- No change to a machine opens or closes a session. -/
theorem sameSessions_apply (machine : Machine) (change : Change) :
    SameSessions machine (machine.apply change).2 := by
  by_cases ordinary : change.isOrdinary = true
  · exact .of_sessions_eq (sessions_apply ordinary machine) (opened_apply ordinary machine)
  · cases change with
    | writeTag => exact sameSessions_changeTags _ _ _
    | setHolders number count =>
        cases count with
        | none => exact absurd rfl ordinary
        | some count => exact .of_sessions_eq rfl rfl
    | _ => exact absurd rfl ordinary

end Machine

namespace Tracker

open TrackerM Machine

/-! ## Commands -/

/-- The calls name no session but one, and close none. -/
def StayIn (session? : Option Nat) (calls : List (CallRecord Nat Nat)) : Prop :=
  ∀ record ∈ calls, record.call.closes? = none ∧
    ∀ session, record.call.session? = some session → session? = some session

/-- What a command of a tracker does with the sessions of the machine.  The tracker is in a
session before it and after it, if it is in any; the machine is left in some state, and calls
have been made. -/
inductive SessionUse (machine : Machine) :
    Option Nat → Option Nat → Machine → List (CallRecord Nat Nat) → Prop where
  /-- The tracker stays in its session, or without one. -/
  | kept {session? : Option Nat} {left : Machine} {calls : List (CallRecord Nat Nat)} :
      SameSessions machine left → StayIn session? calls →
        SessionUse machine session? session? left calls
  /-- The first call opens the next session, and the others are made in it. -/
  | opened {left : Machine} {rest : List (CallRecord Nat Nat)} :
      left.opened = machine.opened + 1 →
      (∀ session, left.IsOpen session ↔ session = machine.opened ∨ machine.IsOpen session) →
      StayIn (some machine.opened) rest →
        SessionUse machine none (some machine.opened) left (⟨.openSession, none⟩ :: rest)
  /-- The session is closed. -/
  | closed {session : Nat} {left : Machine} :
      left.opened = machine.opened →
      (∀ other, left.IsOpen other ↔ other ≠ session ∧ machine.IsOpen other) →
        SessionUse machine (some session) none left [⟨.close session, none⟩]
  /-- The machine fails to close the session. -/
  | unclosed {session : Nat} {left : Machine} {failure : HostError} : SameSessions machine left →
        SessionUse machine (some session) none left [⟨.close session, some failure⟩]

theorem StayIn.nil (session? : Option Nat) : StayIn session? [] := List.forall_mem_nil _

/-- A command that makes no call leaves the sessions as they are. -/
theorem SessionUse.idle (machine : Machine) (session? : Option Nat) :
    SessionUse machine session? session? machine [] := .kept (.refl machine) (.nil session?)

theorem StayIn.snoc {session? : Option Nat} {calls : List (CallRecord Nat Nat)}
    {record : CallRecord Nat Nat} (stay : StayIn session? calls)
    (closesNone : record.call.closes? = none)
    (names : ∀ session, record.call.session? = some session → session? = some session) :
    StayIn session? (calls ++ [record]) := by
  intro made member
  rcases List.mem_append.mp member with earlier | last
  · exact stay made earlier
  · rw [List.mem_singleton.mp last]
    exact ⟨closesNone, names⟩

theorem unclosedIn_of_stayIn {session? : Option Nat} {calls : List (CallRecord Nat Nat)}
    (stay : StayIn session? calls) : unclosedIn calls = [] := by
  refine List.filterMap_eq_nil_iff.mpr fun record made => ?_
  rw [unclosed?, (stay record made).1, ite_self]

/-- The calls with which a class comes to be tracked name the session, and none closes or
opens one. -/
theorem Tracks.stays {session handle : Nat} {call : Call Nat Nat}
    (tracks : Tracks session handle call) :
    call ≠ .openSession ∧ call.closes? = none ∧
      ∀ other, call.session? = some other → some session = some other := by
  cases tracks with
  | looking | tagging => exact ⟨nofun, rfl, fun _ named => named⟩
  | naming => exact ⟨nofun, rfl, nofun⟩

/-- A dialogue has named no session but one, and has opened and closed none. -/
structure StayedIn (machine : Machine) (session? : Option Nat)
    (dialogue : Dialogue Machine Nat Nat) : Prop where
  same : SameSessions machine dialogue.host
  stay : StayIn session? dialogue.calls

/-- The session in which a startup enumeration goes on has been opened by its first call. -/
structure Entered (machine : Machine) (dialogue : Dialogue Machine Nat Nat) : Prop where
  opened_eq : dialogue.host.opened = machine.opened + 1
  isOpen_iff : ∀ session,
    dialogue.host.IsOpen session ↔ session = machine.opened ∨ machine.IsOpen session
  calls_eq : ∃ rest, dialogue.calls = ⟨.openSession, none⟩ :: rest ∧
    StayIn (some machine.opened) rest

theorem Entered.extend {machine : Machine} {dialogue : Dialogue Machine Nat Nat}
    {call : Call Nat Nat} (entered : Entered machine dialogue) (notOpening : call ≠ .openSession)
    (notClosing : call.closes? = none)
    (names : ∀ session, call.session? = some session → some machine.opened = some session) :
    Entered machine (Machine.host.extend call dialogue) := by
  have same := sameSessions_answer notOpening notClosing dialogue.host
  obtain ⟨rest, calls, stay⟩ := entered.calls_eq
  refine ⟨same.opened_eq.trans entered.opened_eq, fun session => ?_, ?_⟩
  · exact (same.isOpen_iff session).trans (entered.isOpen_iff session)
  · refine ⟨rest ++ [⟨call, failureIn (Machine.host.answer call dialogue.host).1⟩], ?_,
      stay.snoc notClosing names⟩
    simp only [Host.extend, calls, List.cons_append]

theorem entered_listed {before : Scene Machine Nat Nat} {afterOpening left : Machine}
    {session : Nat} {answer : Except HostError (List (LoadedClass Nat))}
    (atFirst : before.calls = [])
    (opening : Machine.host.answer .openSession before.host = (.ok session, afterOpening))
    (listing : Machine.host.answer .loadedClasses afterOpening = (answer, left)) :
    session = before.host.opened ∧ Entered before.host
      ⟨left, before.calls ++ [⟨.openSession, none⟩] ++ [⟨.loadedClasses, failureIn answer⟩]⟩ := by
  obtain ⟨rfl, opened, isOpen⟩ := openSession_ok opening
  have entered : Entered before.host ⟨afterOpening, before.calls ++ [⟨.openSession, none⟩]⟩ := by
    refine ⟨opened, isOpen, [], ?_, .nil _⟩
    rw [atFirst, List.nil_append]
  have listed : Entered before.host (Machine.host.extend .loadedClasses
      ⟨afterOpening, before.calls ++ [⟨.openSession, none⟩]⟩) :=
    entered.extend nofun rfl nofun
  rw [Host.extend, listing] at listed
  exact ⟨rfl, listed⟩

/-- A startup enumeration stays without a session if the machine fails to open one, and
otherwise is in the one that it has opened. -/
theorem Population.sessionUse {before after : Scene Machine Nat Nat} {result : Except Stop Unit}
    (populated : Population Machine.host before result after)
    (without : before.tracker.session = none) (atFirst : before.calls = []) :
    SessionUse before.host none after.tracker.session after.host after.calls := by
  -- Wherever the enumeration ends after the session was opened, it has stayed in it.
  have finish : ∀ {last : Scene Machine Nat Nat}, last.tracker.session = some before.host.opened →
      Entered before.host last.dialogue →
        SessionUse before.host none last.tracker.session last.host last.calls := by
    intro last session entered
    obtain ⟨rest, calls, stay⟩ := entered.calls_eq
    rw [Scene.calls, calls, session]
    exact .opened entered.opened_eq entered.isOpen_iff stay
  have onwards : ∀ {call : Call Nat Nat} (handle : Nat),
      Tracks before.host.opened handle call →
        Machine.host.Carries call (Entered before.host) := by
    intro call handle tracks dialogue entered
    obtain ⟨notOpening, notClosing, names⟩ := tracks.stays
    exact entered.extend notOpening notClosing names
  cases populated with
  | @unopened failure state failed =>
      change SessionUse before.host none before.tracker.session state (before.calls ++ _)
      rw [without, atFirst, List.nil_append]
      refine .kept (sameSessions_of_failed failed) ?_
      intro record made
      rw [List.mem_singleton.mp made]
      exact ⟨rfl, fun session named => by cases named⟩
  | unlisted opening failed =>
      obtain ⟨rfl, entered⟩ := entered_listed atFirst opening failed
      exact finish rfl entered
  | halted opening listing stopped =>
      obtain ⟨rfl, entered⟩ := entered_listed atFirst opening listing
      exact finish ((trackAll_session _ rfl).error stopped).1
        ((trackAll_carries _ rfl (fun handle _ => onwards handle) entered).error stopped)
  | @complete _ _ _ _ last opening listing tracked =>
      obtain ⟨rfl, entered⟩ := entered_listed atFirst opening listing
      have session : last.tracker.session = some before.host.opened :=
        (trackAll_session _ rfl).ok tracked
      have enteredLast : Entered before.host last.dialogue :=
        (trackAll_carries _ rfl (fun handle _ => onwards handle) entered).ok tracked
      exact finish session enteredLast

/-- A course of a command other than a startup enumeration and a reset stays in the session. -/
theorem Course.sessionUse_of_ne {tracker : Tracker Nat} {machine : Machine}
    {command : Command Nat} {result : Except Stop Reply} {after : Scene Machine Nat Nat}
    (course : Course Machine.host (.start tracker machine) command result after)
    (notStart : command ≠ .startUp) (notReset : command ≠ .reset) :
    SessionUse machine tracker.session after.tracker.session after.host after.calls := by
  have stayed : StayedIn machine tracker.session after.dialogue := by
    refine course.carries ?_ ⟨.refl machine, .nil _⟩
    rintro call mayMake dialogue ⟨same, stay⟩
    have quiet : call ≠ .openSession ∧ call.closes? = none ∧
        ∀ session, call.session? = some session → tracker.session = some session := by
      cases mayMake with
      | opening | listing | enumerating => exact absurd rfl notStart
      | closing => exact absurd rfl notReset
      | adding _ opened tracks =>
          rw [opened]
          exact tracks.stays
      | counting _ _ _ opened =>
          rw [opened]
          exact ⟨nofun, rfl, fun _ named => named⟩
    obtain ⟨notOpening, notClosing, names⟩ := quiet
    exact ⟨same.trans (sameSessions_answer notOpening notClosing _), stay.snoc notClosing names⟩
  rw [course.session_eq notStart notReset]
  exact .kept stayed.same stayed.stay

theorem Course.sessionUse {tracker : Tracker Nat} {machine : Machine} {command : Command Nat}
    {result : Except Stop Reply} {after : Scene Machine Nat Nat}
    (course : Course Machine.host (.start tracker machine) command result after) :
    SessionUse machine tracker.session after.tracker.session after.host after.calls := by
  by_cases isStart : command = .startUp
  · subst isStart
    cases course with
    | refused => exact .idle machine _
    | viewed => exact .idle machine _
    | passed isPass => simp at isPass
    | unpassed isPass => simp at isPass
    | started _ closed populated =>
        rw [show tracker.session = none from closed]
        exact populated.sessionUse closed rfl
    | @unstarted stop stopped _ closed populated =>
        have used := populated.sessionUse closed rfl
        rw [show tracker.session = none from closed]
        have session : (stopped.settled stop).tracker.session = stopped.tracker.session := by
          rw [Scene.tracker_settled]
        have dialogue : ((stopped.settled stop).written (.left .startup)).dialogue =
            stopped.dialogue := Scene.dialogue_settled stopped stop
        rw [← session] at used
        rw [Scene.host, Scene.calls, dialogue]
        exact used
  by_cases isReset : command = .reset
  · subst isReset
    cases course with
    | refused => exact .idle machine _
    | viewed => exact .idle machine _
    | passed isPass => simp at isPass
    | unpassed isPass => simp at isPass
    | resetUnopened closed =>
        rw [show tracker.session = none from closed]
        exact .idle machine _
    | resetClosed held closed =>
        rw [show tracker.session = some _ from held]
        obtain ⟨opened, isOpen⟩ := close_ok closed
        exact .closed opened isOpen
    | resetUnclosed held failed =>
        rw [show tracker.session = some _ from held]
        exact .unclosed (sameSessions_of_failed failed)
  · exact course.sessionUse_of_ne isStart isReset

/-- **A command does one of four things with the sessions of the machine.** -/
theorem perform_sessionUse {tracker : Tracker Nat} (sound : tracker.Sound) (machine : Machine)
    (command : Command Nat) :
    SessionUse machine tracker.session
      (tracker.perform Machine.host command machine).tracker.session
      (tracker.perform Machine.host command machine).host
      (tracker.perform Machine.host command machine).calls := by
  obtain ⟨after, outcome, course⟩ :=
    perform_course Machine.host command tracker machine sound.keeps
  rw [outcome]
  exact course.sessionUse

/-! ## What follows from it -/

namespace SessionUse

variable {machine left : Machine} {held holds : Option Nat} {made : List (CallRecord Nat Nat)}

theorem opened_le (used : SessionUse machine held holds left made) :
    machine.opened ≤ left.opened := by
  cases used with
  | kept same => exact Nat.le_of_eq same.opened_eq.symm
  | opened opened => omega
  | closed opened => omega
  | unclosed same => exact Nat.le_of_eq same.opened_eq.symm

theorem numbered (used : SessionUse machine held holds left made)
    (below : ∀ session, machine.IsOpen session → session < machine.opened) :
    ∀ session, left.IsOpen session → session < left.opened := by
  intro session isOpen
  cases used with
  | kept same | unclosed same =>
      rw [same.opened_eq]
      exact below session ((same.isOpen_iff session).mp isOpen)
  | opened opened isOpenAfter =>
      rcases (isOpenAfter session).mp isOpen with rfl | wasOpen
      · omega
      · have bound := below session wasOpen
        omega
  | closed opened isOpenAfter =>
      rw [opened]
      exact below session ((isOpenAfter session).mp isOpen).2

/-- A tracker comes to be in no session but the next one. -/
theorem holds_cases (used : SessionUse machine held holds left made) {session : Nat}
    (after : holds = some session) :
    held = some session ∨ session = machine.opened ∧ left.opened = machine.opened + 1 := by
  cases used with
  | kept => exact .inl after
  | opened opened =>
      cases after
      exact .inr ⟨rfl, opened⟩
  | closed => cases after
  | unclosed => cases after

/-- The calls name the session that the tracker is in before them, or the one that the first
of them has opened. -/
theorem names (used : SessionUse machine held holds left made) {record : CallRecord Nat Nat}
    (member : record ∈ made) {session : Nat} (named : record.call.session? = some session) :
    held = some session ∨ held = none ∧ session = machine.opened ∧ holds = some session ∧
      made.head? = some ⟨.openSession, none⟩ := by
  cases used with
  | kept _ stay => exact .inl ((stay record member).2 session named)
  | opened _ _ stay =>
      rcases List.mem_cons.mp member with rfl | member
      · cases named
      · cases (stay record member).2 session named
        exact .inr ⟨rfl, rfl, rfl, rfl⟩
  | closed | unclosed =>
      rw [List.mem_singleton.mp member] at named
      exact .inl named

/-- A session that was to be closed is given up. -/
theorem closes (used : SessionUse machine held holds left made) {record : CallRecord Nat Nat}
    (member : record ∈ made) {session : Nat} (closed : record.call.closes? = some session) :
    held = some session ∧ holds = none := by
  cases used with
  | kept _ stay =>
      rw [(stay record member).1] at closed
      cases closed
  | opened _ _ stay =>
      rcases List.mem_cons.mp member with rfl | member
      · cases closed
      · rw [(stay record member).1] at closed
        cases closed
  | closed | unclosed =>
      rw [List.mem_singleton.mp member] at closed
      exact ⟨closed, rfl⟩

/-- Only one call can be left that was to close a session. -/
theorem nodup_unclosedIn (used : SessionUse machine held holds left made) :
    (unclosedIn made).Nodup := by
  cases used with
  | kept _ stay =>
      rw [unclosedIn_of_stayIn stay]
      exact List.nodup_nil
  | @opened _ rest _ _ stay =>
      change (unclosedIn rest).Nodup
      rw [unclosedIn_of_stayIn stay]
      exact List.nodup_nil
  | closed => exact List.nodup_nil
  | unclosed => exact List.nodup_singleton _

/-- A session that was to be closed is not named again. -/
theorem final (used : SessionUse machine held holds left made) :
    made.Pairwise fun earlier later => ∀ session,
      earlier.call.closes? = some session → later.call.session? ≠ some session := by
  have staying : ∀ {session? : Option Nat} {calls : List (CallRecord Nat Nat)},
      StayIn session? calls → calls.Pairwise fun earlier later => ∀ session,
        earlier.call.closes? = some session → later.call.session? ≠ some session := by
    intro session? calls stay
    refine List.pairwise_of_forall_mem_list ?_
    intro earlier isEarlier later _ session closes
    rw [(stay earlier isEarlier).1] at closes
    cases closes
  cases used with
  | kept _ stay => exact staying stay
  | opened _ _ stay =>
      refine List.pairwise_cons.mpr ⟨?_, staying stay⟩
      intro later _ session closes
      cases closes
  | closed | unclosed => exact List.pairwise_singleton _ _

/-- The sessions that are open after the command: the tracker's, those of others that were
open before, and one that the machine has failed to close. -/
theorem isOpen_iff (used : SessionUse machine held holds left made)
    (isOpen : ∀ session, held = some session → machine.IsOpen session) (session : Nat) :
    left.IsOpen session ↔
      holds = some session ∨ machine.IsOpen session ∧ held ≠ some session ∨
        session ∈ unclosedIn made := by
  cases used with
  | kept same stay =>
      rw [same.isOpen_iff, unclosedIn_of_stayIn stay]
      have wasOpen := isOpen session
      simp only [List.not_mem_nil, or_false]
      tauto
  | @opened _ rest _ isOpenAfter stay =>
      rw [isOpenAfter, show unclosedIn (⟨.openSession, none⟩ :: rest) = unclosedIn rest from rfl,
        unclosedIn_of_stayIn stay]
      simp [eq_comm]
  | closed _ isOpenAfter =>
      rw [isOpenAfter, show unclosedIn [⟨Call.close _, none⟩] = [] from rfl]
      simp only [reduceCtorEq, ne_eq, Option.some.injEq, List.not_mem_nil, or_false, false_or]
      rw [and_comm, eq_comm]
  | @unclosed own _ failure same =>
      rw [same.isOpen_iff, show unclosedIn [⟨Call.close own, some failure⟩] = [own] from rfl]
      have wasOpen := isOpen session
      simp only [reduceCtorEq, ne_eq, Option.some.injEq, List.mem_singleton, false_or] at wasOpen ⊢
      rw [eq_comm (a := session)]
      tauto

end SessionUse

end Tracker

end ClassLiveness

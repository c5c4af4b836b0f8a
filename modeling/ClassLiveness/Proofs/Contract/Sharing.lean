import ClassLiveness.Proofs.Contract.Sessions
import ClassLiveness.Proofs.Tracker.Assignments
import ClassLiveness.Proofs.Tracker.Poison

/-!
# Trackers that share a host

Any number of trackers may share one host, each in a session of its own.  A host that can be
shared promises that sessions are apart (`SharedContract`): a session that it opens is new,
and the tags of an open session are touched only by a call that hangs a tag in it or closes
it.  The trackers work in any order, and anything may happen to the host in between but to
the tags of their sessions (`Hosting`).

In such a company no session gives a tag to two classes, whether or not duplicates are
checked for.  A class may be tagged again, but a tag that is hung on a class is fresh, so it
is on no other class; a call that fails poisons the tracker, which then asks its session
nothing until it is reset.  This is kept by the commands of the tracker itself
(`Tracker.Placed.perform`) and by those of the others (`Tracker.Placed.undisturbed`).
-/

set_option autoImplicit false

namespace ClassLiveness

variable {σ C S : Type}

/-! ## The promises -/

/-- The session whose tags a call may touch. -/
def Call.touches? : Call C S → Option S
  | .setTag session _ _ | .close session => some session
  | .openSession | .loadedClasses | .tagOf .. | .signatureOf _ | .liveCount .. => none

/-- What a host that can be shared promises of its tagging sessions. -/
structure SharedContract (host : Host σ C S) extends SessionContract host where
  /-- A session that is opened was not open before. -/
  fresh : ∀ {state after : σ} {session : S}, lawful state →
    host.answer .openSession state = (.ok session, after) → tags state session = none
  /-- The tags of an open session are touched only through it, also by a call that fails. -/
  apart : ∀ {state : σ} {call : Call C S} {session : S} {given : C → Option Tag}, lawful state →
    tags state session = some given → call.touches? ≠ some session →
      tags (host.answer call state).2 session = some given
  /-- Hanging a tag on a class does not close the session, also if it fails. -/
  staysOpen : ∀ {state : σ} {session : S} {handle : C} {tag : Tag}, lawful state →
    (tags state session).isSome →
      (tags (host.answer (.setTag session handle tag) state).2 session).isSome

/-- Some trackers share a host that keeps its promises, and have come to their present
state on it. -/
inductive Hosting {host : Host σ C S} (contract : SharedContract host) :
    List (Tracker S) → σ → Prop where
  | alone {state : σ} : contract.lawful state → Hosting contract [] state
  | join {trackers : List (Tracker S)} {state : σ} (settings : Settings) :
      Hosting contract trackers state → Hosting contract (trackers ++ [.new settings]) state
  /-- Something happens to the host, but not to the tags of the trackers' sessions. -/
  | change {trackers : List (Tracker S)} {before after : σ} :
      Hosting contract trackers before → contract.lawful after →
      (∀ tracker ∈ trackers, ∀ session, tracker.session = some session →
        contract.tags after session = contract.tags before session) →
        Hosting contract trackers after
  | perform {trackers : List (Tracker S)} {state : σ} {tracker : Tracker S} (number : Nat)
      (command : Command C) : Hosting contract trackers state →
      trackers[number]? = some tracker →
        Hosting contract (trackers.set number (tracker.perform host command state).tracker)
          (tracker.perform host command state).host

/-! ## The tags of a session -/

/-- A session has given no tag to two classes, and none above a bound. -/
structure Uncrowded (given : C → Option Tag) (bound : Nat) : Prop where
  injective : ∀ first second tag, given first = some tag → given second = some tag →
    first = second
  bounded : ∀ handle tag, given handle = some tag → tag.number ≤ bound

/-- A session that has given no tags is not crowded. -/
theorem uncrowded_none (bound : Nat) : Uncrowded (fun _ : C => none) bound :=
  ⟨nofun, nofun⟩

/-- A session stays uncrowded if fresh tags are hung on classes, each on one. -/
theorem Uncrowded.write {given now : C → Option Tag} {bound boundAfter : Nat}
    {marked : List (C × Tag)} (uncrowded : Uncrowded given bound)
    (told : ∀ handle tag, now handle = some tag → given handle = some tag ∨ (handle, tag) ∈ marked)
    (once : (marked.map Prod.snd).Nodup)
    (fresh : ∀ tag ∈ marked.map Prod.snd, bound < tag.number ∧ tag.number ≤ boundAfter)
    (more : bound ≤ boundAfter) : Uncrowded now boundAfter := by
  have isFresh : ∀ {handle tag}, (handle, tag) ∈ marked → bound < tag.number ∧
      tag.number ≤ boundAfter := fun member => fresh _ (List.mem_map_of_mem member)
  refine ⟨?_, ?_⟩
  · intro first second tag hasFirst hasSecond
    rcases told first tag hasFirst, told second tag hasSecond with
      ⟨givenFirst | markedFirst, givenSecond | markedSecond⟩
    · exact uncrowded.injective first second tag givenFirst givenSecond
    · have low := uncrowded.bounded first tag givenFirst
      have high := (isFresh markedSecond).1
      omega
    · have low := uncrowded.bounded second tag givenSecond
      have high := (isFresh markedFirst).1
      omega
    · exact congrArg Prod.fst (List.inj_on_of_nodup_map once markedFirst markedSecond rfl)
  · intro handle tag has
    rcases told handle tag has with wasGiven | isMarked
    · exact Nat.le_trans (uncrowded.bounded handle tag wasGiven) more
    · exact (isFresh isMarked).2

section

variable {host : Host σ C S} {contract : SharedContract host} {session : S}
  {given : C → Option Tag}

/-! ## A session in a dialogue -/

/-- A session is open in a dialogue, and has, as long as no call has failed, the tags that
it had at first and those that the calls have hung. -/
structure Held (contract : SharedContract host) (session : S) (given : C → Option Tag)
    (dialogue : Dialogue σ C S) : Prop where
  lawful : contract.lawful dialogue.host
  isOpen : ∃ now, contract.tags dialogue.host session = some now ∧
    (Flawless dialogue.calls → ∀ handle tag, now handle = some tag →
      given handle = some tag ∨ (handle, tag) ∈ marks dialogue.calls)

/-- Every call but the one that closes the session holds it. -/
theorem Held.carries {call : Call C S} (notClosing : call ≠ .close session) :
    host.Carries call (Held contract session given) := by
  rintro dialogue ⟨lawful, now, isOpen, told⟩
  refine ⟨contract.lawful_after call dialogue.host lawful, ?_⟩
  have toldBefore : ∀ record : CallRecord C S, Flawless (dialogue.calls ++ [record]) →
      ∀ handle tag, now handle = some tag →
        given handle = some tag ∨ (handle, tag) ∈ marks (dialogue.calls ++ [record]) := by
    intro record flawless handle tag has
    rw [marks_append]
    exact (told flawless.of_append handle tag has).imp_right (List.mem_append_left _)
  by_cases touches : call.touches? = some session
  · cases call with
    | setTag other handle tag =>
        cases touches
        have stillOpen : (contract.tags (host.answer (.setTag session handle tag)
            dialogue.host).2 session).isSome :=
          contract.staysOpen lawful (Option.isSome_of_eq_some isOpen)
        rcases answered : host.answer (.setTag session handle tag) dialogue.host with
          ⟨failure | ⟨⟩, state⟩
        · rw [answered] at stillOpen
          obtain ⟨after, isOpenAfter⟩ := Option.isSome_iff_exists.mp stillOpen
          rw [Host.extend, answered]
          exact ⟨after, isOpenAfter, fun flawless => by cases flawless.last⟩
        · obtain ⟨after, isOpenAfter, here, elsewhere⟩ := contract.writes lawful isOpen answered
          rw [Host.extend, answered]
          refine ⟨after, isOpenAfter, fun flawless other otherTag has => ?_⟩
          by_cases sameClass : other = handle
          · subst sameClass
            cases here.symm.trans has
            rw [marks_append]
            exact .inr (List.mem_append_right _ (List.mem_singleton_self _))
          · rw [elsewhere other sameClass] at has
            exact toldBefore _ flawless other otherTag has
    | close other =>
        cases touches
        exact absurd rfl notClosing
    | _ => cases touches
  · exact ⟨now, contract.apart lawful isOpen touches, toldBefore _⟩

namespace Tracker

variable {tracker : Tracker S} {state : σ} {command : Command C} {before after : Scene σ C S}

/-- The session that a startup enumeration has opened is held, and was not open before. -/
theorem Population.held {result : Except Stop Unit}
    (populated : Population host before result after) (lawful : contract.lawful before.host)
    (closed : before.tracker.session = none)
    (opened : after.tracker.session = some session) :
    contract.tags before.host session = none ∧
      Held contract session (fun _ => none) after.dialogue := by
  have listing : host.Carries .loadedClasses (Held contract session fun _ => none) :=
    Held.carries nofun
  have tracking : ∀ handle call, Tracks session handle call →
      host.Carries call (Held contract session fun _ => none) := by
    rintro handle _ (_ | _ | _) <;> exact Held.carries nofun
  have opens : ∀ {afterOpening : σ}, host.answer .openSession before.host =
      (.ok session, afterOpening) →
        Held contract session (fun _ => none)
          ⟨afterOpening, before.calls ++ [⟨.openSession, none⟩]⟩ :=
    fun opening => ⟨contract.lawful_of_answer lawful opening, _, contract.opens lawful opening,
      fun _ _ _ has => .inl has⟩
  cases populated with
  | unopened => cases closed.symm.trans opened
  | unlisted opening failed =>
      cases opened
      exact ⟨contract.fresh lawful opening, listing.failed (opens opening) failed⟩
  | halted opening listed stopped =>
      cases ((trackAll_session _ rfl).error stopped).1.symm.trans opened
      have held := listing.answered (opens opening) listed
      exact ⟨contract.fresh lawful opening, (trackAll_carries _ rfl tracking held).error stopped⟩
  | complete opening listed tracked =>
      cases ((trackAll_session _ rfl).ok tracked).symm.trans opened
      have held := listing.answered (opens opening) listed
      have heldAfter := (trackAll_carries _ rfl tracking held).ok tracked
      exact ⟨contract.fresh lawful opening, heldAfter⟩

/-- Only a startup enumeration and a reset change the session of a tracker. -/
theorem Course.session_eq {result : Except Stop Reply} (notStart : command ≠ .startUp)
    (notReset : command ≠ .reset)
    (course : Course host (.start tracker state) command result after) :
    after.tracker.session = tracker.session := by
  cases course with
  | refused => rfl
  | viewed => rfl
  | noted => rfl
  | started => exact absurd rfl notStart
  | unstarted => exact absurd rfl notStart
  | added _ _ attempt => exact attempt.session_eq
  | unadded _ _ attempt =>
      rw [Scene.tracker_settled]
      exact attempt.session_eq
  | passed _ _ _ inspection =>
      cases inspection with
      | completed => rfl
  | unpassed _ _ _ inspection => cases inspection <;> rfl
  | resetUnopened => exact absurd rfl notReset
  | resetClosed => exact absurd rfl notReset
  | resetUnclosed => exact absurd rfl notReset

theorem Course.session_of_reset {result : Except Stop Reply}
    (course : Course host (.start tracker state) .reset result after) :
    after.tracker.session = none := by
  rw [course.tracker_of_reset]
  rfl

/-! ## A command of the tracker itself -/

/-- A tracker has its place on a shared host: its session is open, and not crowded unless
the tracker is poisoned. -/
structure Placed (contract : SharedContract host) (tracker : Tracker S) (state : σ) : Prop where
  sound : tracker.Sound
  isOpen : ∀ session, tracker.session = some session →
    ∃ given, contract.tags state session = some given ∧
      (tracker.poisoned = false → Uncrowded given tracker.tags.allocated)

theorem Placed.of_closed (sound : tracker.Sound) (closed : tracker.session = none) (state : σ) :
    Placed contract tracker state := by
  refine ⟨sound, fun session opened => ?_⟩
  cases closed.symm.trans opened

/-- The session of a tracker after a command is held since the command began, or since the
command has opened it. -/
theorem Placed.held (placed : Placed contract tracker state) (lawful : contract.lawful state)
    {result : Except Stop Reply} (course : Course host (.start tracker state) command result after)
    (opened : after.tracker.session = some session) :
    (tracker.session = some session ∨ contract.tags state session = none) ∧
      ∃ given, Held contract session given after.dialogue ∧
        (tracker.poisoned = false → Uncrowded given tracker.tags.allocated) := by
  -- A course that leaves the session as it is and does not close it holds it.
  have staying : after.tracker.session = tracker.session → command ≠ .reset →
      (tracker.session = some session ∨ contract.tags state session = none) ∧
        ∃ given, Held contract session given after.dialogue ∧
          (tracker.poisoned = false → Uncrowded given tracker.tags.allocated) := by
    intro same notReset
    have openedBefore := same.symm.trans opened
    obtain ⟨given, isOpen, uncrowded⟩ := placed.isOpen session openedBefore
    refine ⟨.inl openedBefore, given, course.carries ?_ ?_, uncrowded⟩
    · intro call mayMake
      refine Held.carries ?_
      rintro rfl
      cases mayMake with
      | enumerating _ _ tracks => cases tracks
      | adding _ _ tracks => cases tracks
      | closing => exact notReset rfl
    · exact ⟨lawful, given, isOpen, fun _ _ _ has => .inl has⟩
  by_cases isReset : command = .reset
  · subst isReset
    cases course.session_of_reset.symm.trans opened
  by_cases isStart : command = .startUp
  · subst isStart
    cases course with
    | refused => exact staying rfl nofun
    | viewed _ notStart => exact absurd rfl notStart
    | passed isPass => simp at isPass
    | unpassed isPass => simp at isPass
    | started usable closed populated =>
        obtain ⟨wasClosed, held⟩ := populated.held lawful closed opened
        exact ⟨.inr wasClosed, _, held, fun _ => uncrowded_none _⟩
    | @unstarted stop stopped usable closed populated =>
        have openedStopped : (stopped.settled stop).tracker.session = some session := opened
        rw [Scene.tracker_settled] at openedStopped
        obtain ⟨wasClosed, held⟩ := populated.held lawful closed openedStopped
        rw [← Scene.dialogue_settled _ stop] at held
        exact ⟨.inr wasClosed, _, held, fun _ => uncrowded_none _⟩
  · exact staying (course.session_eq isStart isReset) isReset

/-- A session that a tracker has after a command it had before, or the session was closed. -/
theorem Placed.session_after (placed : Placed contract tracker state)
    (lawful : contract.lawful state) (command : Command C)
    (opened : (tracker.perform host command state).tracker.session = some session) :
    tracker.session = some session ∨ contract.tags state session = none := by
  obtain ⟨after, outcome, course⟩ :=
    perform_course host command tracker state placed.sound.keeps
  rw [outcome] at opened
  exact (placed.held lawful course opened).1

/-- The calls of a command that leaves the tracker usable have not failed. -/
theorem flawless_of_usable (sound : tracker.Sound) (host : Host σ C S) (state : σ)
    (notReset : command ≠ .reset)
    (usable : (tracker.perform host command state).tracker.poisoned = false) :
    Flawless (tracker.perform host command state).calls := by
  intro record made
  obtain ⟨after, outcome, course⟩ := perform_course host command tracker state sound.keeps
  have mayMake := mayMake_of_mem_calls host command state sound.keeps record made
  cases failed : record.failure? with
  | none => rfl
  | some failure =>
      have honest := perform_honest host command state sound.keeps
      obtain ⟨op, reason, result⟩ := honest.host_of_failed made failed
      have poisoned := (course.poisoned_iff notReset).mpr
        (.inr ⟨mayMake.isGuarded notReset, _, result, rfl⟩)
      have remaining := congrArg Outcome.tracker outcome
      rw [remaining, poisoned] at usable
      cases usable

/-- **A command leaves its tracker in place.** -/
theorem Placed.perform (placed : Placed contract tracker state) (lawful : contract.lawful state)
    (command : Command C) :
    Placed contract (tracker.perform host command state).tracker
      (tracker.perform host command state).host := by
  have sound := placed.sound
  obtain ⟨after, outcome, course⟩ := perform_course host command tracker state sound.keeps
  have sameTracker := congrArg Outcome.tracker outcome
  have sameHost := congrArg Outcome.host outcome
  have sameCalls := congrArg Outcome.calls outcome
  refine ⟨(sound.perform host command state).1, fun session opened => ?_⟩
  rw [sameTracker] at opened
  obtain ⟨-, given, held, uncrowded⟩ := placed.held lawful course opened
  obtain ⟨now, isOpen, told⟩ := held.isOpen
  rw [sameHost]
  refine ⟨now, isOpen, fun usable => ?_⟩
  have notReset : command ≠ .reset := by
    rintro rfl
    cases course.session_of_reset.symm.trans opened
  have flawless := flawless_of_usable sound host state notReset usable
  have legal := episode_legal host sound command state
  have assigns := perform_assigns sound host command state
  have usableBefore : tracker.poisoned = false := by
    cases poisoned : tracker.poisoned with
    | false => rfl
    | true =>
        have stays := (course.poisoned_iff notReset).mpr (.inl poisoned)
        rw [sameTracker, stays] at usable
        cases usable
  have once : (assignedIn (tracker.perform host command state).calls).Nodup :=
    Assigns.assigned_nodup legal.honest assigns
  have bounds : ∀ tag ∈ assignedIn (tracker.perform host command state).calls,
      tracker.tags.allocated < tag.number ∧
        tag.number ≤ (tracker.perform host command state).tracker.tags.allocated :=
    Assigns.assigned_bounds legal.honest assigns
  rw [sameCalls] at flawless once bounds
  exact (uncrowded usableBefore).write (told flawless) once bounds legal.entry.allocated_le

/-! ## A command of another tracker -/

/-- The calls of a command do not touch a session that is not the tracker's own. -/
theorem MayMake.touches_ne {call : Call C S} (mayMake : MayMake host tracker state command call)
    (lawful : contract.lawful state) (isOpen : contract.tags state session = some given)
    (different : tracker.session ≠ some session) : call.touches? ≠ some session := by
  intro touches
  cases mayMake with
  | opening | listing | counting => cases touches
  | enumerating _ opening tracks =>
      cases tracks with
      | looking | naming => cases touches
      | tagging =>
          cases touches
          cases (contract.fresh lawful opening).symm.trans isOpen
  | adding _ opened tracks =>
      cases tracks with
      | looking | naming => cases touches
      | tagging =>
          cases touches
          exact different opened
  | closing opened =>
      cases touches
      exact different opened

theorem lawful_perform (sound : tracker.Sound) (lawful : contract.lawful state)
    (command : Command C) : contract.lawful (tracker.perform host command state).host :=
  perform_carries host command state sound.keeps (fun dialogue => contract.lawful dialogue.host)
    (fun call _ _ keeps => contract.lawful_after call _ keeps) lawful

/-- **A command leaves the other trackers in place.** -/
theorem Placed.undisturbed {other : Tracker S} (placed : Placed contract other state)
    (lawful : contract.lawful state) (sound : tracker.Sound)
    (different : ∀ session, other.session = some session → tracker.session ≠ some session)
    (command : Command C) : Placed contract other (tracker.perform host command state).host := by
  refine ⟨placed.sound, fun session opened => ?_⟩
  obtain ⟨given, isOpen, uncrowded⟩ := placed.isOpen session opened
  have same := perform_carries host command state sound.keeps
    (fun dialogue => contract.lawful dialogue.host ∧
      contract.tags dialogue.host session = some given) ?_ ⟨lawful, isOpen⟩
  · exact ⟨given, same.2, uncrowded⟩
  · rintro call mayMake dialogue ⟨lawfulNow, isOpenNow⟩
    have apart := mayMake.touches_ne lawful isOpen (different session opened)
    exact ⟨contract.lawful_after call dialogue.host lawfulNow,
      contract.apart lawfulNow isOpenNow apart⟩

end Tracker

/-! ## All trackers -/

open Tracker

/-- Trackers on a shared host are in their places, each in a session of its own. -/
structure Hosted (contract : SharedContract host) (trackers : List (Tracker S)) (state : σ) :
    Prop where
  lawful : contract.lawful state
  placed : ∀ tracker ∈ trackers, Placed contract tracker state
  apart : ∀ (first second : Nat) (one other : Tracker S), trackers[first]? = some one →
    trackers[second]? = some other → ∀ session, one.session = some session →
      other.session = some session → first = second

/-- A tracker that has not been initialized may join. -/
theorem Hosted.join {trackers : List (Tracker S)} {state : σ}
    (hosted : Hosted contract trackers state) (settings : Settings) :
    Hosted contract (trackers ++ [.new settings]) state := by
  have among : ∀ {number : Nat} {tracker : Tracker S} {session : S},
      (trackers ++ [.new settings])[number]? = some tracker → tracker.session = some session →
        trackers[number]? = some tracker := by
    intro number tracker session found opened
    rcases Nat.lt_or_ge number trackers.length with inside | outside
    · rwa [List.getElem?_append_left inside] at found
    · rw [List.getElem?_append_right outside] at found
      have isNew := List.mem_singleton.mp (List.mem_of_getElem? found)
      rw [isNew] at opened
      cases opened
  refine ⟨hosted.lawful, ?_, ?_⟩
  · intro tracker member
    rcases List.mem_append.mp member with earlier | last
    · exact hosted.placed tracker earlier
    · rw [List.mem_singleton.mp last]
      exact .of_closed (.of_empty rfl) rfl state
  · intro first second one other foundOne foundOther session openedOne openedOther
    exact hosted.apart first second one other (among foundOne openedOne)
      (among foundOther openedOther) session openedOne openedOther

theorem Hosted.change {trackers : List (Tracker S)} {before after : σ}
    (hosted : Hosted contract trackers before) (lawful : contract.lawful after)
    (sameTags : ∀ tracker ∈ trackers, ∀ session, tracker.session = some session →
      contract.tags after session = contract.tags before session) :
    Hosted contract trackers after := by
  refine ⟨lawful, fun tracker member => ?_, hosted.apart⟩
  have placed := hosted.placed tracker member
  refine ⟨placed.sound, fun session opened => ?_⟩
  rw [sameTags tracker member session opened]
  exact placed.isOpen session opened

/-- A tracker of the list after one of them was replaced is the new one, or another that was
there before. -/
theorem getElem?_set_cases {trackers : List (Tracker S)} {number other : Nat}
    {replaced found : Tracker S} (isThere : (trackers.set number replaced)[other]? = some found) :
    number = other ∧ found = replaced ∨ number ≠ other ∧ trackers[other]? = some found := by
  by_cases same : number = other
  · subst same
    rw [List.getElem?_set_self'] at isThere
    obtain ⟨_, -, rfl⟩ := Option.map_eq_some_iff.mp isThere
    exact .inl ⟨rfl, rfl⟩
  · rw [List.getElem?_set_ne same] at isThere
    exact .inr ⟨same, isThere⟩

/-- **A command of one of the trackers leaves all of them in place**, and each in a session of
its own. -/
theorem Hosted.perform {trackers : List (Tracker S)} {state : σ} {tracker : Tracker S}
    (hosted : Hosted contract trackers state) {number : Nat}
    (found : trackers[number]? = some tracker) (command : Command C) :
    Hosted contract (trackers.set number (tracker.perform host command state).tracker)
      (tracker.perform host command state).host := by
  have placed := hosted.placed tracker (List.mem_of_getElem? found)
  -- A session that the tracker has after the command is the session of no other.
  have own : ∀ {other : Nat} {neighbour : Tracker S} {session : S},
      trackers[other]? = some neighbour → neighbour.session = some session →
        (tracker.perform host command state).tracker.session = some session → number = other := by
    intro other neighbour session foundOther openedOther opened
    rcases placed.session_after hosted.lawful command opened with wasOpened | wasClosed
    · exact hosted.apart number other tracker neighbour found foundOther session wasOpened
        openedOther
    · obtain ⟨given, isOpen, -⟩ :=
        (hosted.placed neighbour (List.mem_of_getElem? foundOther)).isOpen session openedOther
      cases wasClosed.symm.trans isOpen
  refine ⟨lawful_perform placed.sound hosted.lawful command, ?_, ?_⟩
  · intro member isMember
    obtain ⟨other, isThere⟩ := List.mem_iff_getElem?.mp isMember
    rcases getElem?_set_cases isThere with ⟨-, rfl⟩ | ⟨differs, foundOther⟩
    · exact placed.perform hosted.lawful command
    · have placedOther := hosted.placed member (List.mem_of_getElem? foundOther)
      refine placedOther.undisturbed hosted.lawful placed.sound ?_ command
      intro session openedOther opened
      exact differs
        (hosted.apart number other tracker member found foundOther session opened openedOther)
  · intro first second one other foundOne foundOther session openedOne openedOther
    rcases getElem?_set_cases foundOne with ⟨rfl, rfl⟩ | ⟨-, foundOne⟩
    · rcases getElem?_set_cases foundOther with ⟨same, -⟩ | ⟨-, foundOther⟩
      · exact same
      · exact own foundOther openedOther openedOne
    · rcases getElem?_set_cases foundOther with ⟨rfl, rfl⟩ | ⟨-, foundOther⟩
      · exact (own foundOne openedOne openedOther).symm
      · exact hosted.apart first second one other foundOne foundOther session openedOne openedOther

/-- **Trackers that share a host are in their places.** -/
theorem Hosting.hosted {trackers : List (Tracker S)} {state : σ}
    (hosting : Hosting contract trackers state) : Hosted contract trackers state := by
  induction hosting with
  | alone lawful =>
      refine ⟨lawful, nofun, ?_⟩
      intro first second one other found
      cases found
  | join settings _ ih => exact ih.join settings
  | change _ lawful sameTags ih => exact ih.change lawful sameTags
  | perform number command _ found ih => exact ih.perform found command

end

end ClassLiveness

import ClassLiveness.Proofs.Scenario.Discipline
import ClassLiveness.Proofs.Scenario.Parallel.Commands

/-!
# Scenarios with a tracker that is alike

Two scenarios are counterparts (`Scenario.Counterparts`) if they have trackers under a number
that are alike, on machines that are alike to them.  A step of this tracker, or a change
to the machine, is then answered alike in both, and leaves counterparts
(`Scenario.Counterparts.act`, `Scenario.Counterparts.change`).

An answer to a step of the one is read as that of the other (`Reading.Answers`): how the
step ended, the calls, the trace, and the tracker after it.  Texts are not read word by
word, but as what they are the texts of.
-/

set_option autoImplicit false

namespace ClassLiveness

open Scenario (Action Step Report Answer)

/-- The action asks for a description of the tracker or of its lock. -/
def Scenario.Action.describes : Action → Bool
  | .command .description _ | .describeLock => true
  | _ => false

namespace Reading

variable {reading : Reading}

/-! ## Outcomes -/

/-- The results of a command on two trackers agree. -/
inductive Results (reading : Reading) (first second : Tracker Nat) (command : Command Nat) :
    Except Stop Reply → Except Stop Reply → Prop where
  | ok {reply reply' : Reply} : Tracker.Replies reading first second command reply reply' →
      Results reading first second command (.ok reply) (.ok reply')
  | error (stop : Stop) :
      Results reading first second command (.error stop) (.error (reading.stop stop))

/-- The outcomes of a command on two trackers are alike. -/
structure Outcomes (reading : Reading) (first second : Tracker Nat) (command : Command Nat)
    (one other : Outcome Machine Nat Nat Reply) : Prop where
  result : reading.Results first second command one.result other.result
  tracker : reading.Trackers one.tracker other.tracker
  machine : reading.Machines one.tracker.session one.host other.host
  calls : other.calls = one.calls.map reading.callRecord
  trace : other.trace = one.trace.map reading.entry

/-- **A command on two trackers that are alike has outcomes that are alike**, if the tags that
it leaves allocated can be read. -/
theorem Trackers.perform {first second : Tracker Nat} (alike : reading.Trackers first second)
    {machine machine' : Machine} (machines : reading.Machines first.session machine machine')
    {command : Command Nat} (fits : reading.CommandFits command)
    (room : (first.perform Machine.host command machine).tracker.tags.allocated + reading.shift ≤
      Tag.limit) :
    reading.Outcomes first second command (first.perform Machine.host command machine)
      (second.perform Machine.host (reading.command command) machine') := by
  have scenes : reading.Scenes (.start first machine) (.start second machine') :=
    ⟨alike, machines, rfl, rfl⟩
  have abreast := Tracker.operation_abreast scenes fits
  unfold Abreast TrackerM.left at abreast
  unfold Tracker.perform at room ⊢
  rw [TrackerM.run_eq] at room ⊢
  rw [TrackerM.run_eq]
  generalize Tracker.operation Machine.host command (.start first machine) = one at *
  generalize Tracker.operation Machine.host (reading.command command)
    (.start second machine') = other at *
  cases one with
  | ok reply after =>
      cases abreast room with
      | ok agreed scenes =>
          exact ⟨.ok agreed, scenes.tracker, scenes.machine, scenes.calls, scenes.trace⟩
  | error stop after =>
      cases abreast room with
      | error scenes =>
          exact ⟨.error stop, scenes.tracker, scenes.machine, scenes.calls, scenes.trace⟩

/-! ## Answers -/

/-- How an action on a tracker ended is read as how it ended on another. -/
inductive Ends (reading : Reading) (first second : Tracker Nat) :
    Action → Ending Reply → Ending Reply → Prop where
  | value {action : Action} {reply : Reply} : action.describes = false →
      Ends reading first second action (.value reply) (.value (reading.reply reply))
  | failed {action : Action} (error : TrackingError) :
      Ends reading first second action (.failed error) (.failed (reading.error error))
  | fatal {action : Action} (error : TrackingError) :
      Ends reading first second action (.fatal error.report) (.fatal (reading.error error).report)
  | aborted {action : Action} (abort : Abort) :
      Ends reading first second action (.aborted abort) (.aborted (reading.abort abort))
  | described (reporting : Bool) :
      Ends reading first second (.command .description reporting)
        (.value (.text (some first.description))) (.value (.text (some second.description)))
  | lockDescribed :
      Ends reading first second .describeLock
        (.value (.text (some ((HandlerLock.guarding first).description Tracker.description))))
        (.value (.text (some ((HandlerLock.guarding second).description Tracker.description))))

/-- The report of a tracker is read as that of another. -/
structure Reports (reading : Reading) (action : Action) (first second : Report) : Prop where
  ending : reading.Ends first.tracker second.tracker action first.ending second.ending
  calls : second.calls = first.calls.map reading.callRecord
  trace : second.trace = first.trace.map reading.entry
  tracker : reading.Trackers first.tracker second.tracker

/-- The answer to a step is read as that to another. -/
inductive Answers (reading : Reading) : Step → Answer → Answer → Prop where
  | machine {change : Machine.Change} (notice : Machine.Notice) :
      Answers reading (.change change) (.machine notice) (.machine notice)
  | tracker {number : Nat} {action : Action} {first second : Report} :
      Reports reading action first second →
      Answers reading (.act number action) (.tracker first) (.tracker second)
  | noTracker {number : Nat} {action : Action} :
      Answers reading (.act number action) .noTracker .noTracker

/-- The endings that are made of results agree, and so does what a reporter adds. -/
theorem Results.ending {first second after after' : Tracker Nat} {command : Command Nat}
    {result result' : Except Stop Reply}
    (results : reading.Results first second command result result') (reporting : Bool)
    (unchanged : command = .description → after = first ∧ after' = second) :
    reading.Ends after after' (.command command reporting) (Ending.ofResult reporting result).1
        (Ending.ofResult reporting result').1 ∧
      (Ending.ofResult reporting result').2 =
        (Ending.ofResult reporting result).2.map reading.entry := by
  cases results with
  | ok replies =>
      refine ⟨?_, rfl⟩
      cases replies with
      | read notDescription =>
          refine .value ?_
          cases command <;> first | rfl | exact absurd rfl notDescription
      | described =>
          obtain ⟨rfl, rfl⟩ := unchanged rfl
          exact .described reporting
  | error stop =>
      cases stop with
      | abort abort => exact ⟨.aborted abort, rfl⟩
      | error error =>
          cases reporting with
          | true => exact ⟨.fatal error, rfl⟩
          | false => exact ⟨.failed error, rfl⟩

end Reading

namespace Scenario

variable {reading : Reading}

/-- **An action on two trackers that are alike is reported alike.** -/
theorem act_alike {lock lock' : HandlerLock (Tracker Nat)}
    (alike : reading.Trackers lock.content lock'.content) {machine machine' : Machine}
    (machines : reading.Machines lock.content.session machine machine') {action : Action}
    (fits : reading.ActionFits action)
    (room : (act machine lock action).2.1.content.tags.allocated + reading.shift ≤ Tag.limit) :
    reading.Reports action (act machine lock action).1
        (act machine' lock' (reading.action action)).1 ∧
      reading.Trackers (act machine lock action).2.1.content
        (act machine' lock' (reading.action action)).2.1.content ∧
      reading.Machines (act machine lock action).2.1.content.session (act machine lock action).2.2
        (act machine' lock' (reading.action action)).2.2 := by
  cases action with
  | command command reporting =>
      have outcomes := alike.perform machines fits room
      have unchanged : command = .description →
          (lock.content.perform Machine.host command machine).tracker = lock.content ∧
            (lock'.content.perform Machine.host (reading.command command) machine').tracker =
              lock'.content := by
        rintro rfl
        exact ⟨rfl, rfl⟩
      obtain ⟨ending, reported⟩ := outcomes.result.ending reporting unchanged
      refine ⟨⟨ending, outcomes.calls, ?_, outcomes.tracker⟩, outcomes.tracker, outcomes.machine⟩
      have trace := outcomes.trace
      simp only [act, HandlerLock.withLock, runCommand, Reading.action, List.map_append, trace,
        reported]
  | tryLock held =>
      refine ⟨⟨?_, rfl, rfl, alike⟩, alike, machines⟩
      simp only [act, Reading.action, quietly, HandlerLock.tryLock?_isSome]
      exact .value rfl
  | rewrap => exact ⟨⟨.value rfl, rfl, rfl, alike⟩, alike, machines⟩
  | describeLock => exact ⟨⟨.lockDescribed, rfl, rfl, alike⟩, alike, machines⟩

/-! ## Scenarios -/

/-- The step is done with the tracker with a number, or with the machine. -/
def Step.isFor (number : Nat) : Step → Bool
  | .change _ => true
  | .act tracker _ => tracker == number

/-- The answers to some of the steps of a run. -/
def answersTo (scenario : Scenario) (chosen : Step → Bool) (steps : List Step) : List Answer :=
  ((steps.zip (scenario.playAll steps).1).filter fun asked => chosen asked.1).map Prod.snd

theorem answersTo_cons (scenario : Scenario) (chosen : Step → Bool) (step : Step)
    (rest : List Step) :
    scenario.answersTo chosen (step :: rest) =
      if chosen step then (scenario.play step).1 :: (scenario.play step).2.answersTo chosen rest
      else (scenario.play step).2.answersTo chosen rest := by
  simp only [answersTo, playAll, List.zip_cons_cons, List.filter_cons]
  split <;> rfl

/-- The session of the tracker with a number, if there is one. -/
def sessionOf (scenario : Scenario) (number : Nat) : Option Nat :=
  scenario.locks[number]?.bind fun lock => lock.content.session

/-- How many tags the tracker with a number has handed out. -/
def allocatedBy (scenario : Scenario) (number : Nat) : Nat :=
  (scenario.locks[number]?.map fun lock => lock.content.tags.allocated).getD 0

theorem play_of_none {scenario : Scenario} {number : Nat} (nobody : scenario.locks[number]? = none)
    (action : Action) : scenario.play (.act number action) = (.noTracker, scenario) := by
  simp only [play, nobody]

/-- What a tracker does leaves its own lock, and those of the others. -/
theorem locks_play {scenario : Scenario} {number : Nat} {lock : HandlerLock (Tracker Nat)}
    (found : scenario.locks[number]? = some lock) (action : Action) (other : Nat) :
    (scenario.play (.act number action)).2.locks[other]? =
      if other = number then some (act scenario.machine lock action).2.1
      else scenario.locks[other]? := by
  have inside : number < scenario.locks.size := (Array.getElem?_eq_some_iff.mp found).1
  simp only [play, found, Array.getElem?_setIfInBounds, inside, eq_comm (a := number)]
  split
  · rename_i same
    subst same
    simp
  · rfl

/-- Two scenarios have trackers with a number that are alike, or none, on machines that are
alike to them. -/
structure Counterparts (reading : Reading) (number : Nat) (first second : Scenario) : Prop where
  trackers : Option.Rel (fun lock lock' : HandlerLock (Tracker Nat) =>
    reading.Trackers lock.content lock'.content) first.locks[number]? second.locks[number]?
  machine : reading.Machines (first.sessionOf number) first.machine second.machine

namespace Counterparts

variable {number : Nat} {first second : Scenario}

theorem found (alike : Counterparts reading number first second)
    {lock : HandlerLock (Tracker Nat)} (isThere : first.locks[number]? = some lock) :
    ∃ lock', second.locks[number]? = some lock' ∧
      reading.Trackers lock.content lock'.content := by
  have trackers := alike.trackers
  rw [isThere] at trackers
  generalize second.locks[number]? = lock'? at trackers
  cases trackers with
  | some trackers => exact ⟨_, rfl, trackers⟩

theorem nobody (alike : Counterparts reading number first second)
    (noFirst : first.locks[number]? = none) : second.locks[number]? = none := by
  have trackers := alike.trackers
  rw [noFirst] at trackers
  generalize second.locks[number]? = lock'? at trackers
  cases trackers
  rfl

/-- **A step of the tracker is answered alike, and leaves counterparts.** -/
theorem act (alike : Counterparts reading number first second) {action : Action}
    (fits : reading.ActionFits action)
    (room : (first.play (.act number action)).2.allocatedBy number + reading.shift ≤ Tag.limit) :
    reading.Answers (.act number action) (first.play (.act number action)).1
        (second.play (.act number (reading.action action))).1 ∧
      Counterparts reading number (first.play (.act number action)).2
        (second.play (.act number (reading.action action))).2 := by
  cases isThere : first.locks[number]? with
  | none =>
      rw [play_of_none isThere, play_of_none (alike.nobody isThere)]
      exact ⟨.noTracker, alike⟩
  | some lock =>
      obtain ⟨lock', isThereOther, trackers⟩ := alike.found isThere
      have machines := alike.machine
      rw [sessionOf, isThere] at machines
      obtain ⟨-, answer, machine, -⟩ := play_act isThere action
      obtain ⟨-, answer', machine', -⟩ := play_act isThereOther (reading.action action)
      have here := locks_play isThere action number
      have here' := locks_play isThereOther (reading.action action) number
      rw [if_pos rfl] at here here'
      rw [allocatedBy, here] at room
      obtain ⟨reports, trackersAfter, machinesAfter⟩ := act_alike trackers machines fits room
      refine ⟨?_, ?_, ?_⟩
      · rw [answer, answer']
        exact .tracker reports
      · rw [here, here']
        exact .some trackersAfter
      · rw [sessionOf, here, machine, machine']
        exact machinesAfter

/-- **A change to the machines is answered alike, and leaves counterparts.** -/
theorem change (alike : Counterparts reading number first second) {change : Machine.Change}
    (notWritten : ∀ session handle number, change ≠ .writeTag session handle number) :
    reading.Answers (.change change) (first.play (.change change)).1
        (second.play (.change (reading.change change))).1 ∧
      Counterparts reading number (first.play (.change change)).2
        (second.play (.change (reading.change change))).2 := by
  obtain ⟨notice, machines⟩ := alike.machine.apply notWritten
  refine ⟨?_, alike.trackers, machines⟩
  simp only [play]
  rw [notice]
  exact .machine _

end Counterparts

end Scenario

end ClassLiveness

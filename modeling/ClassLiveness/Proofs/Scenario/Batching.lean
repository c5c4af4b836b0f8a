import ClassLiveness.Proofs.Scenario.Counterparts
import ClassLiveness.Proofs.Scenario.Relieved

/-!
# Passes may be batched

A pass asks about every tracked class and reports those that are gone.  On a machine that
ages, what is gone stays gone, and a pass leaves the machine as it is; so a pass that is left
out is made up for by the next.  To see this, a run is compared to the same run without any
pass: its tracker is relieved of some of the records that the other still has
(`Scenario.Relieved`).  Every step preserves this, whether both take it or it is a pass of the
one (`Scenario.Relieved.playAll`), and with one more pass the one has reported all that is
gone (`Scenario.Relieved.concluded`).

Two runs that differ in their passes only, and end with one, have therefore given the same
tags, reported the same classes, and track the same (`Scenario.passes_batched`).
-/

set_option autoImplicit false

namespace ClassLiveness

namespace Scenario

open Machine Tracker

/-! ## Steps and what is seen of them -/

/-- The reply of a tracker that was not stopped. -/
def Answer.reply? : Answer → Option Reply
  | .tracker ⟨.value reply, _, _, _⟩ => some reply
  | _ => none

/-- The tag under which a class was added. -/
def Answer.tag? (answer : Answer) : Option Tag :=
  match answer.reply? with
  | some (.tag tag) => some tag
  | _ => none

/-- The signatures that a pass has reported. -/
def Answer.reported (answer : Answer) : List String :=
  match answer.reply? with
  | some (.report report) => report.signatures
  | _ => []

/-- The step adds a class. -/
def Step.adds : Step → Bool
  | .act _ (.command (.add _) _) => true
  | _ => false

/-- The step is a pass. -/
def Step.passes : Step → Bool
  | .act _ (.command .processUnloads _) => true
  | _ => false

/-- The step has the tracker with a number add a class, count announcements or make a pass, or
the machine age. -/
def Step.isRoutine (number : Nat) : Step → Bool
  | .change happened => happened.ages
  | .act tracker (.command (.add _) _) | .act tracker (.command (.noteUnloads _) _)
  | .act tracker (.command .processUnloads _) => tracker == number
  | .act .. => false

/-- What the steps that add classes are answered. -/
def additions (scenario : Scenario) (steps : List Step) : List (Option Tag) :=
  (scenario.answersTo Step.adds steps).map Answer.tag?

/-- The steps other than passes. -/
def withoutPasses (steps : List Step) : List Step := steps.filter fun step => !step.passes

/-- A routine pass is a pass of the tracker. -/
theorem Step.eq_of_passes {number : Nat} {step : Step} (routine : step.isRoutine number = true)
    (passes : step.passes = true) :
    ∃ reporting, step = .act number (.command .processUnloads reporting) := by
  cases step with
  | change => cases passes
  | act tracker action =>
      cases action with
      | command command reporting =>
          cases command with
          | processUnloads =>
              obtain rfl : tracker = number := of_decide_eq_true routine
              exact ⟨reporting, rfl⟩
          | _ => cases passes
      | tryLock | rewrap | describeLock => cases passes

theorem additions_cons (scenario : Scenario) (step : Step) (rest : List Step) :
    scenario.additions (step :: rest) =
      if step.adds then (scenario.play step).1.tag? :: (scenario.play step).2.additions rest
      else (scenario.play step).2.additions rest := by
  rw [additions, answersTo_cons]
  split <;> rfl

theorem playAll_append (scenario : Scenario) (earlier later : List Step) :
    scenario.playAll (earlier ++ later) =
      ((scenario.playAll earlier).1 ++ ((scenario.playAll earlier).2.playAll later).1,
        ((scenario.playAll earlier).2.playAll later).2) := by
  induction earlier generalizing scenario with
  | nil => rfl
  | cons step rest ih => simp only [List.cons_append, playAll, ih]

theorem additions_append (scenario : Scenario) (earlier later : List Step) :
    scenario.additions (earlier ++ later) =
      scenario.additions earlier ++ (scenario.playAll earlier).2.additions later := by
  induction earlier generalizing scenario with
  | nil => rfl
  | cons step rest ih =>
      rw [List.cons_append, additions_cons, additions_cons, ih]
      split <;> rfl

/-- A command of a tracker as a step. -/
theorem play_command {scenario : Scenario} {number : Nat} {lock : HandlerLock (Tracker Nat)}
    (found : scenario.locks[number]? = some lock) (command : Command Nat) (reporting : Bool) :
    (scenario.play (.act number (.command command reporting))).1.reply? =
        (lock.content.perform Machine.host command scenario.machine).result.toOption ∧
      (scenario.play (.act number (.command command reporting))).2.machine =
        (lock.content.perform Machine.host command scenario.machine).host ∧
      (scenario.play (.act number (.command command reporting))).2.locks[number]? =
        some (.guarding (lock.content.perform Machine.host command scenario.machine).tracker) := by
  obtain ⟨-, answer, machine, -⟩ := play_act found (.command command reporting)
  have locks := locks_play found (.command command reporting) number
  rw [if_pos rfl] at locks
  refine ⟨?_, machine, locks⟩
  rw [answer]
  simp only [act, HandlerLock.withLock, runCommand]
  cases (lock.content.perform Machine.host command scenario.machine).result with
  | ok reply => rfl
  | error stop =>
      cases stop with
      | error error => cases reporting <;> rfl
      | abort abort => rfl

theorem ok_of_reply? {answer : Answer} {result : Except Stop Reply} {value : Reply}
    (reply : answer.reply? = result.toOption) (isValue : answer.reply? = some value) :
    result = .ok value := by
  cases result with
  | ok other =>
      cases reply.symm.trans isValue
      rfl
  | error stop => cases reply.symm.trans isValue

theorem ok_of_tag?_isSome {answer : Answer} {result : Except Stop Reply}
    (reply : answer.reply? = result.toOption) (isSome : answer.tag?.isSome = true) :
    ∃ value, result = .ok value := by
  cases result with
  | ok value => exact ⟨value, rfl⟩
  | error stop =>
      rw [Answer.tag?, reply] at isSome
      cases isSome

/-! ## A scenario without passes -/

variable {number session start : Nat} {reported : List ClassRecord} {full thin : Scenario}

/-- Of two scenarios with the same machine, the tracker of the second has been relieved of
records. -/
structure Relieved (number session start : Nat) (reported : List ClassRecord)
    (full thin : Scenario) : Prop where
  machine : thin.machine = full.machine
  trackers : ∃ one other, full.locks[number]? = some one ∧ thin.locks[number]? = some other ∧
    Tracker.Relieved full.machine session start reported one.content other.content

namespace Relieved

/-- A pass of the second tracker. -/
theorem pass (relieved : Relieved number session start reported full thin) (reporting : Bool) :
    ∃ dead : List ClassRecord,
      (thin.play (.act number (.command .processUnloads reporting))).1.reported =
          dead.map ClassRecord.signature ∧
        Relieved number session start (reported ++ dead) full
          (thin.play (.act number (.command .processUnloads reporting))).2 := by
  obtain ⟨sameMachine, one, other, found, foundToo, trackers⟩ := relieved
  obtain ⟨reply, machine, locks⟩ := play_command foundToo .processUnloads reporting
  obtain ⟨result, sameHost, -, after⟩ := trackers.pass
  rw [sameMachine] at reply machine locks
  refine ⟨_, ?_, machine.trans sameHost, one, _, found, locks, after⟩
  rw [Answer.reported, reply, result]
  rfl

/-- A step of both that is not a pass: a class is added to both under the same tag, if it is
added to one of them. -/
theorem step (relieved : Relieved number session start reported full thin) {step : Step}
    (routine : step.isRoutine number = true) (notPass : step.passes = false)
    (succeeds : step.adds = true →
      (full.play step).1.tag?.isSome = true ∨ (thin.play step).1.tag?.isSome = true) :
    (thin.play step).1.tag? = (full.play step).1.tag? ∧ (thin.play step).1.reported = [] ∧
      Relieved number session start reported (full.play step).2 (thin.play step).2 := by
  obtain ⟨sameMachine, one, other, found, foundToo, trackers⟩ := relieved
  cases step with
  | change happened =>
      have aged := trackers.aged (ages_apply routine full.machine)
      refine ⟨rfl, rfl, ?_, one, other, found, foundToo, aged⟩
      simp only [play, sameMachine]
  | act tracker action =>
      cases action with
      | tryLock | rewrap | describeLock => cases routine
      | command command reporting =>
          obtain ⟨reply, machine, locks⟩ := play_command found command reporting
          obtain ⟨replyToo, machineToo, locksToo⟩ := play_command foundToo command reporting
          rw [sameMachine] at replyToo machineToo locksToo
          cases command with
          | add handle =>
              obtain rfl : tracker = number := of_decide_eq_true routine
              have isAdded : ∃ reply,
                  (one.content.perform Machine.host (.add handle) full.machine).result = .ok reply ∨
                    (other.content.perform Machine.host (.add handle) full.machine).result =
                      .ok reply := by
                rcases succeeds rfl with isSome | isSome
                · obtain ⟨value, isOk⟩ := ok_of_tag?_isSome reply isSome
                  exact ⟨value, .inl isOk⟩
                · obtain ⟨value, isOk⟩ := ok_of_tag?_isSome replyToo isSome
                  exact ⟨value, .inr isOk⟩
              obtain ⟨value, isAdded⟩ := isAdded
              obtain ⟨tag, result, resultToo, sameHost, after⟩ := trackers.added isAdded
              rw [Answer.tag?, Answer.tag?, Answer.reported, reply, replyToo, result, resultToo]
              refine ⟨rfl, rfl, machineToo.trans (sameHost.trans machine.symm), _, _, locks,
                locksToo, ?_⟩
              rw [machine]
              exact after
          | noteUnloads times =>
              obtain rfl : tracker = number := of_decide_eq_true routine
              rw [perform_noteUnloads] at reply machine locks replyToo machineToo locksToo
              rw [Answer.tag?, Answer.tag?, Answer.reported, reply, replyToo]
              refine ⟨rfl, rfl, machineToo.trans machine.symm, _, _, locks, locksToo, ?_⟩
              rw [machine]
              exact trackers.noted times
          | processUnloads => cases notPass
          | _ => cases routine

/-- **A run with passes and the run without them stay together.** -/
theorem playAll (relieved : Relieved number session start reported full thin) {steps : List Step}
    (routine : ∀ step ∈ steps, step.isRoutine number = true)
    (succeed : (∀ tag? ∈ full.additions (withoutPasses steps), tag?.isSome = true) ∨
      ∀ tag? ∈ thin.additions steps, tag?.isSome = true) :
    thin.additions steps = full.additions (withoutPasses steps) ∧
      ∃ more : List ClassRecord,
        (thin.playAll steps).1.flatMap Answer.reported = more.map ClassRecord.signature ∧
          Relieved number session start (reported ++ more)
            (full.playAll (withoutPasses steps)).2 (thin.playAll steps).2 := by
  induction steps generalizing full thin reported with
  | nil =>
      refine ⟨rfl, [], rfl, ?_⟩
      rw [List.append_nil]
      exact relieved
  | cons step rest ih =>
      obtain ⟨isRoutine, routineRest⟩ := List.forall_mem_cons.mp routine
      cases isPass : step.passes with
      | true =>
          have left : withoutPasses (step :: rest) = withoutPasses rest :=
            List.filter_cons_of_neg (by rw [isPass]; exact Bool.false_ne_true)
          obtain ⟨reporting, rfl⟩ := Step.eq_of_passes isRoutine isPass
          obtain ⟨dead, signatures, after⟩ := relieved.pass reporting
          rw [left, additions_cons] at succeed ⊢
          obtain ⟨same, more, others, last⟩ := ih after routineRest succeed
          refine ⟨same, dead ++ more, ?_, ?_⟩
          · simp only [Scenario.playAll, List.flatMap_cons, signatures, others, List.map_append]
          · rw [← List.append_assoc]
            exact last
      | false =>
          have kept : withoutPasses (step :: rest) = step :: withoutPasses rest :=
            List.filter_cons_of_pos (by rw [isPass]; rfl)
          rw [kept, additions_cons, additions_cons] at succeed ⊢
          have succeedsHere : step.adds = true →
              (full.play step).1.tag?.isSome = true ∨ (thin.play step).1.tag?.isSome = true := by
            intro adds
            rw [if_pos adds, if_pos adds] at succeed
            exact succeed.imp (fun all => all _ List.mem_cons_self) fun all =>
              all _ List.mem_cons_self
          obtain ⟨sameTag, nothing, after⟩ := relieved.step isRoutine isPass succeedsHere
          have succeedRest : (∀ tag? ∈ (full.play step).2.additions (withoutPasses rest),
                tag?.isSome = true) ∨
              ∀ tag? ∈ (thin.play step).2.additions rest, tag?.isSome = true := by
            cases adds : step.adds with
            | true =>
                rw [if_pos adds, if_pos adds] at succeed
                exact succeed.imp (fun all tag? member => all tag? (List.mem_cons_of_mem _ member))
                  fun all tag? member => all tag? (List.mem_cons_of_mem _ member)
            | false =>
                rw [adds] at succeed
                exact succeed
          obtain ⟨same, more, signatures, last⟩ := ih after routineRest succeedRest
          refine ⟨by rw [sameTag, same], more, ?_, last⟩
          simp only [Scenario.playAll, List.flatMap_cons, nothing, List.nil_append, signatures]

/-- **After one more pass the second tracker has reported what is without a live holder, and
tracks the rest.** -/
theorem final_pass (relieved : Relieved number session start reported full thin)
    (reporting : Bool) :
    ∃ (one : HandlerLock (Tracker Nat)) (last : Tracker Nat) (more : List ClassRecord),
      full.locks[number]? = some one ∧
      (thin.play (.act number (.command .processUnloads reporting))).2.locks[number]? =
        some (.guarding last) ∧
      (thin.play (.act number (.command .processUnloads reporting))).1.reported =
        more.map ClassRecord.signature ∧
      last.tracked = one.content.tracked.filter (fun record =>
        full.machine.isHeld session record.tag) ∧
      (reported ++ more).Perm (one.content.tracked.filter fun record =>
        !full.machine.isHeld session record.tag) ∧
      last.passes.totalUnloaded = start + (reported ++ more).length := by
  obtain ⟨sameMachine, one, other, found, foundToo, trackers⟩ := relieved
  obtain ⟨reply, -, locks⟩ := play_command foundToo .processUnloads reporting
  obtain ⟨result, -, tracked, after⟩ := trackers.pass
  obtain ⟨held, dead⟩ := trackers.sorted
  rw [sameMachine] at reply locks
  refine ⟨one, _, _, found, locks, ?_, tracked.trans held, ?_, after.total⟩
  · rw [Answer.reported, reply, result]
    rfl
  · exact ((List.reverse_perm _).append_left reported).trans dead

end Relieved

/-- A tracker that has been initialized, on a machine without faults that counts the live
holders, is the same as itself. -/
theorem relieved_of_startUp {settings : List Settings} {past : List Step} {number : Nat}
    {reporting : Bool}
    (faultless : ((ofSettings settings).playAll past).2.machine.faults = [])
    (lawful : ((ofSettings settings).playAll past).2.machine.IsLawful)
    (initialized : (((ofSettings settings).playAll past).2.play
      (.act number (.command .startUp reporting))).1.reply? = some .done)
    (fits : ∀ tracker, (((ofSettings settings).playAll past).2.play
      (.act number (.command .startUp reporting))).2.trackers[number]? = some tracker →
        tracker.settings.outputCapacity ≤ UnloadReport.greatestCapacity) :
    let started := (((ofSettings settings).playAll past).2.play
      (.act number (.command .startUp reporting))).2
    ∃ session start, Relieved number session start [] started started := by
  intro started
  have orderly := orderly_playAll (orderly_ofSettings settings) past
  cases found : ((ofSettings settings).playAll past).2.locks[number]? with
  | none =>
      rw [play_of_none found] at initialized
      cases initialized
  | some lock =>
      obtain ⟨isThere, -⟩ := play_act found (.command .startUp reporting)
      obtain ⟨reply, machine, locks⟩ := play_command found .startUp reporting
      have result : (lock.content.perform Machine.host .startUp
          ((ofSettings settings).playAll past).2.machine).result = .ok .done :=
        ok_of_reply? reply initialized
      obtain ⟨placed, usable, session, opened, tended⟩ := tended_of_startUp
        (orderly.sound _ (List.mem_of_getElem? isThere)) faultless ⟨lawful, orderly.isNumbered⟩
        result
      have isTracker := getElem?_trackers locks
      have self := Tracker.Relieved.self placed tended opened usable (fits _ isTracker)
      rw [← machine] at self
      exact ⟨session, _, rfl, _, _, locks, locks, self⟩

/-- **A run with passes that ends with one more comes to what the run without passes leads to**:
it has reported what is without a live holder then, and tracks the rest. -/
theorem Relieved.concluded (relieved : Relieved number session start [] full thin)
    {steps : List Step} (routine : ∀ step ∈ steps, step.isRoutine number = true)
    (succeed : (∀ tag? ∈ full.additions (withoutPasses steps), tag?.isSome = true) ∨
      ∀ tag? ∈ thin.additions steps, tag?.isSome = true) (reporting : Bool) :
    let run := steps ++ [.act number (.command .processUnloads reporting)]
    ∃ (one : HandlerLock (Tracker Nat)) (last : Tracker Nat) (gone : List ClassRecord),
      (full.playAll (withoutPasses steps)).2.locks[number]? = some one ∧
      (thin.playAll run).2.trackers[number]? = some last ∧
      thin.additions run = full.additions (withoutPasses steps) ∧
      (thin.playAll run).1.flatMap Answer.reported = gone.map ClassRecord.signature ∧
      last.tracked = one.content.tracked.filter (fun record =>
        (full.playAll (withoutPasses steps)).2.machine.isHeld session record.tag) ∧
      gone.Perm (one.content.tracked.filter fun record =>
        !(full.playAll (withoutPasses steps)).2.machine.isHeld session record.tag) ∧
      last.passes.totalUnloaded = start + gone.length := by
  intro run
  obtain ⟨sameTags, earlier, signatures, after⟩ := relieved.playAll routine succeed
  obtain ⟨one, last, more, found, locks, others, tracked, gone, total⟩ :=
    after.final_pass reporting
  rw [List.nil_append] at gone total
  have played := playAll_append thin steps [.act number (.command .processUnloads reporting)]
  refine ⟨one, last, earlier ++ more, found, ?_, ?_, ?_, tracked, gone, total⟩
  · rw [played]
    exact getElem?_trackers locks
  · rw [additions_append, sameTags]
    exact List.append_nil _
  · rw [played, List.flatMap_append, signatures, List.map_append, ← others]
    exact congrArg _ (List.append_nil _)

/-- **Passes may be batched.**  Take a tracker that has been initialized, on a machine without
faults that counts the live holders, and two runs in which classes are added, announcements are
counted, and the machine ages.  If they differ only in when passes are made, both end with a
pass, and all classes are added in the first, then the additions are given the same tags, the
same classes are reported, and in the end the same are tracked and as many have been counted. -/
theorem passes_batched {settings : List Settings} {past : List Step} {number : Nat}
    {reporting : Bool}
    (faultless : ((ofSettings settings).playAll past).2.machine.faults = [])
    (lawful : ((ofSettings settings).playAll past).2.machine.IsLawful)
    (initialized : (((ofSettings settings).playAll past).2.play
      (.act number (.command .startUp reporting))).1.reply? = some .done)
    (fits : ∀ tracker, (((ofSettings settings).playAll past).2.play
      (.act number (.command .startUp reporting))).2.trackers[number]? = some tracker →
        tracker.settings.outputCapacity ≤ UnloadReport.greatestCapacity)
    {first second : List Step}
    (routine : ∀ step ∈ first ++ second, step.isRoutine number = true)
    (together : withoutPasses first = withoutPasses second)
    (succeed : ∀ tag? ∈ (((ofSettings settings).playAll past).2.play
      (.act number (.command .startUp reporting))).2.additions first, tag?.isSome = true)
    (atEnd atEndToo : Bool) :
    let started := (((ofSettings settings).playAll past).2.play
      (.act number (.command .startUp reporting))).2
    let one := first ++ [.act number (.command .processUnloads atEnd)]
    let other := second ++ [.act number (.command .processUnloads atEndToo)]
    started.additions one = started.additions other ∧
      ((started.playAll one).1.flatMap Answer.reported).Perm
        ((started.playAll other).1.flatMap Answer.reported) ∧
      ∃ tracker trackerToo, (started.playAll one).2.trackers[number]? = some tracker ∧
        (started.playAll other).2.trackers[number]? = some trackerToo ∧
        tracker.tracked = trackerToo.tracked ∧
        tracker.passes.totalUnloaded = trackerToo.passes.totalUnloaded := by
  intro started one other
  obtain ⟨session, start, relieved⟩ := relieved_of_startUp faultless lawful initialized fits
  obtain ⟨routineFirst, routineSecond⟩ := List.forall_mem_append.mp routine
  obtain ⟨sameTags, -⟩ := relieved.playAll routineFirst (.inr succeed)
  have succeedBare : ∀ tag? ∈ started.additions (withoutPasses first), tag?.isSome = true := by
    rw [← sameTags]
    exact succeed
  obtain ⟨bare, last, gone, foundBare, found, tags, signatures, tracked, areGone, total⟩ :=
    relieved.concluded routineFirst (.inl succeedBare) atEnd
  rw [together] at foundBare tags tracked areGone succeedBare
  obtain ⟨bareToo, lastToo, goneToo, foundBareToo, foundToo, tagsToo, signaturesToo, trackedToo,
    areGoneToo, totalToo⟩ := relieved.concluded routineSecond (.inl succeedBare) atEndToo
  obtain rfl : bare = bareToo := Option.some.inj (foundBare.symm.trans foundBareToo)
  have sameGone : gone.Perm goneToo := areGone.trans areGoneToo.symm
  refine ⟨tags.trans tagsToo.symm, ?_, last, lastToo, found, foundToo,
    tracked.trans trackedToo.symm, ?_⟩
  · rw [signatures, signaturesToo]
    exact sameGone.map _
  · rw [total, totalToo, sameGone.length_eq]

/-- The second of two classes is unloaded, a third is loaded in its turn and added, and the
first is unloaded. -/
def turns : List Step :=
  [.change (.unload 1), .act 0 (.command (.noteUnloads 1) false),
    .change (.load "LThird;" (.ofFlag .prepared)), .act 0 (.command (.add 2) false),
    .change (.rename 2 "LRenamed;"), .change (.unload 0)]

/-- With a pass before every step or only with the last, the two are reported, in different
orders, and the third is tracked under the same tag. -/
theorem batched_turns :
    let past : List Step := [.change (.load "LFirst;" (.ofFlag .prepared)),
      .change (.load "LSecond;" (.ofFlag .prepared))]
    let pass : Step := .act 0 (.command .processUnloads false)
    let often := turns.flatMap fun step => [pass, step]
    let started := (((ofSettings [.default]).playAll past).2.play
      (.act 0 (.command .startUp false))).2
    (started.additions (often ++ [pass]) = started.additions (turns ++ [pass]) ∧
      ((started.playAll (often ++ [pass])).1.flatMap Answer.reported).Perm
        ((started.playAll (turns ++ [pass])).1.flatMap Answer.reported)) ∧
      started.additions (often ++ [pass]) = [some ⟨3, by decide, by decide⟩] ∧
      (started.playAll (often ++ [pass])).1.flatMap Answer.reported = ["LSecond;", "LFirst;"] ∧
      (started.playAll (turns ++ [pass])).1.flatMap Answer.reported = ["LFirst;", "LSecond;"] := by
  intro past pass often started
  have hosting : Hosting sharedContract ((ofSettings [.default]).playAll past).2.trackers
      ((ofSettings [.default]).playAll past).2.machine :=
    hosting_playAll (hosting_new 1 .default) past (by decide)
  have initialized : (((ofSettings [.default]).playAll past).2.play
      (.act 0 (.command .startUp false))).1.reply? = some .done := by decide +kernel
  have capacities : started.trackers.all (fun tracker =>
      tracker.settings.outputCapacity ≤ UnloadReport.greatestCapacity) = true := by
    decide +kernel
  have fits : ∀ tracker, started.trackers[0]? = some tracker →
      tracker.settings.outputCapacity ≤ UnloadReport.greatestCapacity := fun tracker isTracker =>
    of_decide_eq_true (List.all_eq_true.mp capacities tracker (List.mem_of_getElem? isTracker))
  have routine : ∀ step ∈ often ++ turns, step.isRoutine 0 = true := by decide
  have succeed : ∀ tag? ∈ started.additions often, tag?.isSome = true := by decide +kernel
  have batched := passes_batched (by decide +kernel) hosting.hosted.lawful.1 initialized fits
    routine (by decide) succeed false false
  exact ⟨⟨batched.1, batched.2.1⟩, by decide +kernel, by decide +kernel, by decide +kernel⟩

end Scenario

end ClassLiveness

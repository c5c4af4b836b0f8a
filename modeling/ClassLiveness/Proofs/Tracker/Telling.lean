import ClassLiveness.Proofs.Tracker.Fates
import ClassLiveness.Proofs.Tracker.Poison
import ClassLiveness.Proofs.Tracker.Recounting

/-!
# The trace tells the truth

The events of a command are written where the things happen that they tell of: in the loop
that tracks classes, in the loop that reports them, and at the ends of operations.  What they
tell is compared here with what has become of the tracker, and with what the caller is told.

The events that an episode should have are read off the tracker before it and after it, its
result and its calls (`Tracker.Episode.tale`).  The trace of every command is the recital of
this tale (`Tracker.Course.recites`), and what it tells of each thing follows
(`Tracker.trace_truthful`).

The classes told to be tracked are the records that came, in the order in which they did, also
if a startup enumeration fails midway.  The classes told to be unloaded are the signatures of
the report, in its order, and there are none without a report.  The end of a pass is told exactly
if the pass is counted, with the number of questions that the host was asked and the length of
the report.  The end of a startup enumeration is told exactly if it succeeds, with the number of
classes that the host has listed and the number that is tracked after it.  A reset is told once
in every reset, with the number of records that were tracked.  And an unrecoverable error is told
exactly if the tracker turns from usable to poisoned, and it is the error that the command fails
with.
-/

set_option autoImplicit false

namespace ClassLiveness

variable {σ C S : Type}

/-- The call asks how many live holders a tag has. -/
def CallRecord.counts (record : CallRecord C S) : Bool := record.call.op == .liveCount

namespace Tracker

/-! ## What there is to tell of an episode -/

namespace Episode

variable (host : Host σ C S) (lived : Episode σ C S)

/-- The records that are tracked after the episode and not before it, in the order in which
they came. -/
def fresh : List ClassRecord :=
  (lived.after.tracked.filter fun record => record ∉ lived.before.tracked).reverse

/-- The classes that the host has listed in the episode. -/
def enumerated : List (LoadedClass C) :=
  (host.meetings lived.state lived.outcome.calls).flatMap host.listing

/-- How many classes a startup enumeration that is completed in the episode has listed, and
how many are tracked after it. -/
def startup? : Option (Nat × Nat) :=
  match lived.command, lived.outcome.result with
  | .startUp, .ok _ => some ((lived.enumerated host).length, lived.after.len)
  | _, _ => none

/-- How many records a reset gives up in the episode. -/
def reset? : Option Nat :=
  match lived.command with
  | .reset => some lived.before.tracked.length
  | _ => none

/-- The episode has poisoned the tracker. -/
def turnsPoisoned : Bool := !lived.before.poisoned && lived.after.poisoned

/-- The error with which the episode has poisoned the tracker. -/
def breakdown? : Option TrackingError :=
  match lived.outcome.result with
  | .error (.error error) => if lived.turnsPoisoned then some error else none
  | _ => none

/-- The signatures that the episode reports as those of unloaded classes. -/
def signatures : List String := (lived.report?.map UnloadReport.signatures).getD []

/-- The events that tell of the episode. -/
def tale : List Event :=
  lived.reset?.toList.map .reset ++ lived.fresh.map ClassRecord.tidings ++
    lived.signatures.map .classUnloaded ++
    (lived.startup? host).toList.map (fun counts => .initialized counts.1 counts.2) ++
    lived.pass?.toList.map (fun pass => .passEnd pass.examined pass.unloaded) ++
    lived.breakdown?.toList.map .unrecoverable

/-- The spans in which the episode may work. -/
def MayEnter : Span → Prop
  | .startup => lived.command = .startUp
  | .unloadPass passId tracked => lived.command.isPass = true ∧
      passId = lived.before.passes.completed + 1 ∧ tracked = lived.before.len

end Episode

/-! ## The parts of a tale -/

/-- The error with which being stopped poisons a tracker. -/
def breakdownOf : Stop → Option TrackingError
  | .error error => if error.isUnrecoverable then some error else none
  | .abort _ => none

/-- A scene that is settled tells of the error that has poisoned the tracker. -/
theorem trace_settled (scene : Scene σ C S) (stop : Stop) :
    (scene.settled stop).trace =
      scene.trace ++ ((breakdownOf stop).toList.map Event.unrecoverable).map .event := by
  cases stop with
  | abort abort => exact (List.append_nil _).symm
  | error error =>
      rw [Scene.settled, breakdownOf]
      split
      · rfl
      · exact (List.append_nil _).symm

theorem tracked_settled (scene : Scene σ C S) (stop : Stop) :
    (scene.settled stop).tracker.tracked = scene.tracker.tracked := by
  rw [Scene.tracker_settled]
  rfl

namespace Episode

variable {host : Host σ C S} {lived : Episode σ C S}

/-- Records that came on top of the others are the fresh ones. -/
theorem fresh_of_grown {fresh : List ClassRecord} (distinct : lived.after.tracked.Nodup)
    (grown : lived.after.tracked = fresh ++ lived.before.tracked) :
    lived.fresh = fresh.reverse := by
  have apart : ∀ record ∈ fresh, record ∉ lived.before.tracked := by
    rw [grown] at distinct
    intro record isFresh wasTracked
    exact (List.nodup_append.mp distinct).2.2 record isFresh record wasTracked rfl
  have none : (lived.before.tracked.filter fun record => record ∉ lived.before.tracked) = [] := by
    rw [List.filter_eq_nil_iff]
    intro record wasTracked isNew
    exact of_decide_eq_true isNew wasTracked
  have all : (fresh.filter fun record => record ∉ lived.before.tracked) = fresh :=
    List.filter_eq_self.mpr fun record isFresh => decide_eq_true (apart record isFresh)
  rw [Episode.fresh, grown, List.filter_append, none, all, List.append_nil]

theorem fresh_of_subset (fewer : lived.after.tracked ⊆ lived.before.tracked) :
    lived.fresh = [] := by
  rw [Episode.fresh, List.reverse_eq_nil_iff, List.filter_eq_nil_iff]
  intro record member isNew
  exact of_decide_eq_true isNew (fewer member)

theorem reset?_of_ne (notReset : lived.command ≠ .reset) : lived.reset? = none := by
  rw [reset?]
  split
  · rename_i isReset
    exact absurd isReset notReset
  · rfl

theorem startup?_of_ne (notStart : lived.command ≠ .startUp) : lived.startup? host = none := by
  rw [startup?]
  split
  · rename_i isStart _
    exact absurd isStart notStart
  · rfl

theorem startup?_of_error {stop : Stop} (stopped : lived.outcome.result = .error stop) :
    lived.startup? host = none := by
  rw [startup?]
  split
  · rename_i returned
    cases stopped.symm.trans returned
  · rfl

theorem breakdown?_of_not (notTurned : lived.turnsPoisoned = false) :
    lived.breakdown? = none := by
  rw [breakdown?, notTurned]
  split <;> rfl

theorem breakdown?_of_unpoisoned (unpoisoned : lived.after.poisoned = false) :
    lived.breakdown? = none :=
  breakdown?_of_not (by rw [turnsPoisoned, unpoisoned, Bool.and_false])

theorem breakdown?_of_same (same : lived.after.poisoned = lived.before.poisoned) :
    lived.breakdown? = none :=
  breakdown?_of_not (by rw [turnsPoisoned, same, Bool.not_and_self])

theorem breakdown?_of_turned {error : TrackingError} (usable : lived.before.poisoned = false)
    (poisoned : lived.after.poisoned = true)
    (stopped : lived.outcome.result = .error (.error error)) : lived.breakdown? = some error := by
  rw [breakdown?, turnsPoisoned, stopped, usable, poisoned]
  rfl

theorem breakdown?_of_settled {scene : Scene σ C S} {stop : Stop}
    (usable : lived.before.poisoned = false) (unpoisoned : scene.tracker.poisoned = false)
    (stopped : lived.outcome.result = .error stop)
    (settled : lived.after.poisoned = (scene.settled stop).tracker.poisoned) :
    lived.breakdown? = breakdownOf stop := by
  rw [breakdown?, turnsPoisoned, stopped, usable, settled]
  cases stop with
  | abort abort => rfl
  | error error =>
      rw [Scene.settled, breakdownOf]
      by_cases unrecoverable : error.isUnrecoverable = true
      · simp only [if_pos unrecoverable]
        rfl
      · simp only [if_neg unrecoverable, unpoisoned]
        rfl

end Episode

/-- The episode of a command that ends with a result in a scene. -/
def episodeOf (tracker : Tracker S) (command : Command C) (state : σ)
    (result : Except Stop Reply) (after : Scene σ C S) : Episode σ C S :=
  ⟨tracker, command, state, ⟨result, after.tracker, after.host, after.calls, after.trace⟩⟩

/-- The trace of an episode is the recital of its tale, within a span that it may enter if
it works in one. -/
def Episode.Recites (host : Host σ C S) (lived : Episode σ C S) : Prop :=
  ∃ span?, (∀ span ∈ span?, lived.MayEnter span) ∧
    lived.outcome.trace = recital span? (lived.tale host)

section

variable {host : Host σ C S} {tracker : Tracker S} {state : σ} {command : Command C}
  {result : Except Stop Reply} {after : Scene σ C S}

/-- A command that is no reset and reports nothing tells of the records that came, of a startup
and of a breakdown. -/
theorem recites_of_quiet {fresh : List ClassRecord} {startup? : Option (Nat × Nat)}
    {breakdown? : Option TrackingError} (notReset : command ≠ .reset)
    (noReport : ∀ report, result ≠ .ok (.report report))
    (came : (episodeOf tracker command state result after).fresh = fresh)
    (starts : (episodeOf tracker command state result after).startup? host = startup?)
    (breaks : (episodeOf tracker command state result after).breakdown? = breakdown?)
    (span? : Option Span)
    (mayEnter : ∀ span ∈ span?, (episodeOf tracker command state result after).MayEnter span)
    (trace : after.trace = recital span? (fresh.map ClassRecord.tidings ++
      startup?.toList.map (fun counts => .initialized counts.1 counts.2) ++
      breakdown?.toList.map .unrecoverable)) :
    (episodeOf tracker command state result after).Recites host := by
  have reportsNothing : (episodeOf tracker command state result after).report? = none :=
    Episode.report?_eq_none noReport
  have notGivenUp : (episodeOf tracker command state result after).reset? = none :=
    Episode.reset?_of_ne notReset
  refine ⟨span?, mayEnter, trace.trans (congrArg (recital span?) ?_)⟩
  rw [Episode.tale, Episode.signatures, Episode.pass?, came, reportsNothing, notGivenUp, starts,
    breaks]
  simp only [Option.toList_none, List.map_nil, Option.map_none, Option.getD_none, List.nil_append,
    List.append_nil]

/-- A command that does nothing to the tracked records, and is no startup, tells nothing unless
it is a reset, reports something or poisons the tracker. -/
theorem recites_of_idle (notReset : command ≠ .reset)
    (noReport : ∀ report, result ≠ .ok (.report report))
    (noStart : (episodeOf tracker command state result after).startup? host = none)
    (sameTracked : after.tracker.tracked = tracker.tracked)
    (samePoisoned : after.tracker.poisoned = tracker.poisoned) (silent : after.trace = []) :
    (episodeOf tracker command state result after).Recites host :=
  recites_of_quiet notReset noReport
    (Episode.fresh_of_subset fun _ member => sameTracked ▸ member)
    noStart (Episode.breakdown?_of_same samePoisoned) none nofun silent

/-- A reset tells how many records it gives up, and nothing else. -/
theorem recites_of_reset (sound : tracker.Sound)
    (noReport : ∀ report, result ≠ .ok (.report report)) (emptied : after.tracker.tracked = [])
    (unpoisoned : after.tracker.poisoned = false)
    (trace : after.trace = [.event (.reset tracker.len)]) :
    (episodeOf tracker .reset state result after).Recites host := by
  have reportsNothing : (episodeOf tracker .reset state result after).report? = none :=
    Episode.report?_eq_none noReport
  have noneCame : (episodeOf tracker .reset state result after).fresh = [] :=
    Episode.fresh_of_subset (by rw [Episode.after, episodeOf, emptied]; exact List.nil_subset _)
  have breaksNothing : (episodeOf tracker .reset state result after).breakdown? = none :=
    Episode.breakdown?_of_unpoisoned unpoisoned
  refine ⟨none, nofun, trace.trans ?_⟩
  rw [sound.len_eq, Episode.tale, Episode.signatures, Episode.pass?, noneCame, reportsNothing,
    breaksNothing]
  rfl

/-- A startup enumeration that is completed tells of the records that came, and then how many
classes it has listed and how many are tracked. -/
theorem recites_of_started {ended : Scene σ C S} (sound : tracker.Sound)
    (closed : tracker.session = none) (distinct : ended.tracker.tracked.Nodup)
    (populated : Population host ((Scene.start tracker state).written (.entered .startup)) (.ok ())
      ended) :
    (episodeOf tracker .startUp state (.ok .done) (ended.written (.left .startup))).Recites
      host := by
  have unchanged := populated.poisoned_eq
  cases populated with
  | @complete session enumerated afterOpening afterListing tracked opened listed done =>
      obtain ⟨-, fresh, recounted⟩ := (trackAll_recounts _ (.of_empty rfl) rfl).ok done
      have lists := (trackAll_listed _ rfl (listed_of_answers opened listed)).ok done
      have grown : tracked.tracker.tracked = fresh ++ tracker.tracked :=
        recounted.tracked.trans (congrArg (fresh ++ ·) (sound.records_clear closed))
      have starts : ∀ after : Scene σ C S, after.calls = tracked.calls →
          after.tracker = tracked.tracker →
          (episodeOf tracker .startUp state (.ok .done) after).startup? host =
            some (enumerated.length, tracked.tracker.len) := by
        intro after sameCalls sameTracker
        have told : (episodeOf tracker .startUp state (.ok .done) after).enumerated host =
            enumerated := by
          rw [← lists.listed]
          exact congrArg (fun calls => (host.meetings state calls).flatMap host.listing) sameCalls
        have same : (episodeOf tracker .startUp state (.ok .done) after).after = tracked.tracker :=
          sameTracker
        rw [← told, ← same]
        rfl
      refine recites_of_quiet nofun nofun (Episode.fresh_of_grown distinct grown)
        (starts _ rfl rfl) (Episode.breakdown?_of_same unchanged) (some .startup) ?_ ?_
      · rintro span ⟨⟩
        rfl
      · change tracked.trace ++ [.event (.initialized enumerated.length tracked.tracker.len)] ++
          [.left .startup] = _
        rw [recounted.trace, recital, Option.toList_none, List.map_nil, List.append_nil,
          List.map_append]
        rfl

/-- A pass works in a span with its number and the number of the tracked records. -/
theorem mayEnter_of_isPass {span : Span}
    (isPass : command = .processUnloads ∨ command = .processPendingUnloads)
    (isSpan : span = .unloadPass (tracker.passes.completed + 1) tracker.len) :
    ∀ entered ∈ some span, (episodeOf tracker command state result after).MayEnter entered := by
  rintro _ ⟨⟩
  rw [isSpan]
  refine ⟨?_, rfl, rfl⟩
  obtain rfl | rfl := isPass <;> rfl

/-- A command that reports signatures, while no record came and nothing was poisoned, tells of
these signatures and of a pass. -/
theorem recites_of_report {report : UnloadReport} (notReset : command ≠ .reset)
    (notStart : command ≠ .startUp) (fewer : after.tracker.tracked ⊆ tracker.tracked)
    (samePoisoned : after.tracker.poisoned = tracker.poisoned) (span? : Option Span)
    (mayEnter : ∀ span ∈ span?,
      (episodeOf tracker command state (.ok (.report report)) after).MayEnter span)
    (trace : after.trace = recital span?
      (report.signatures.map .classUnloaded ++ [.passEnd tracker.len report.len])) :
    (episodeOf tracker command state (.ok (.report report)) after).Recites host := by
  have noneCame : (episodeOf tracker command state (.ok (.report report)) after).fresh = [] :=
    Episode.fresh_of_subset fewer
  have notGivenUp :
      (episodeOf tracker command state (.ok (.report report)) after).reset? = none :=
    Episode.reset?_of_ne notReset
  have noStart :
      (episodeOf tracker command state (.ok (.report report)) after).startup? host = none :=
    Episode.startup?_of_ne notStart
  have breaksNothing :
      (episodeOf tracker command state (.ok (.report report)) after).breakdown? = none :=
    Episode.breakdown?_of_same samePoisoned
  refine ⟨span?, mayEnter, trace.trans (congrArg (recital span?) ?_)⟩
  rw [Episode.tale, noneCame, notGivenUp, noStart, breaksNothing]
  simp only [Option.toList_none, List.map_nil, List.nil_append, List.append_nil]
  rfl

/-- A pass that is completed tells of the signatures that it reports, and then what it did. -/
theorem recites_of_passed {session : S} {report : UnloadReport} {ended : Scene σ C S} {span : Span}
    (isPass : command = .processUnloads ∨ command = .processPendingUnloads)
    (isSpan : span = .unloadPass (tracker.passes.completed + 1) tracker.len)
    (inspection : Inspection host session ((Scene.start tracker state).written (.entered span))
      (.ok report) ended) :
    (episodeOf tracker command state (.ok (.report report))
      (ended.written (.left span))).Recites host := by
  have notReset : command ≠ .reset := by obtain rfl | rfl := isPass <;> exact nofun
  have notStart : command ≠ .startUp := by obtain rfl | rfl := isPass <;> exact nofun
  cases inspection with
  | @completed registry fits answered keeps =>
      refine recites_of_report notReset notStart (sublist_of_inquest keeps).subset rfl (some span)
        (mayEnter_of_isPass isPass isSpan) ?_
      rw [len_reverse, recital, List.map_append, List.map_map, List.map_map]
      rfl

/-- A pass that fails tells at most of the error that has poisoned the tracker. -/
theorem recites_of_unpassed {session : S} {stop : Stop} {ended : Scene σ C S} {span : Span}
    (isPass : command = .processUnloads ∨ command = .processPendingUnloads)
    (isSpan : span = .unloadPass (tracker.passes.completed + 1) tracker.len)
    (usable : tracker.poisoned = false)
    (inspection : Inspection host session ((Scene.start tracker state).written (.entered span))
      (.error stop) ended) :
    (episodeOf tracker command state (.error stop) (ended.written (.left span))).Recites host := by
  have notReset : command ≠ .reset := by obtain rfl | rfl := isPass <;> exact nofun
  cases inspection with
  | overfull =>
      exact recites_of_quiet notReset nofun (Episode.fresh_of_subset (List.Subset.refl _))
        (Episode.startup?_of_error rfl) (Episode.breakdown?_of_same rfl) (some span)
        (mayEnter_of_isPass isPass isSpan) rfl
  | @failed reason registry fits failed keeps =>
      exact recites_of_quiet notReset nofun
        (Episode.fresh_of_subset (sublist_of_inquest keeps).subset)
        (Episode.startup?_of_error rfl) (Episode.breakdown?_of_turned usable rfl rfl) (some span)
        (mayEnter_of_isPass isPass isSpan) rfl

end

/-- **The trace of every command is the recital of its tale.** -/
theorem Course.recites {host : Host σ C S} {tracker : Tracker S} {state : σ} {command : Command C}
    {result : Except Stop Reply} {after : Scene σ C S} (sound : tracker.Sound)
    (course : Course host (.start tracker state) command result after) :
    (episodeOf tracker command state result after).Recites host := by
  have distinct : after.tracker.tracked.Nodup := (course.entry sound).1.nodup
  have emptied : tracker.registry.clear.records = [] := Registry.Keeps.empty.records_eq
  cases course with
  | refused refuses =>
      exact recites_of_idle refuses.ne_reset nofun (Episode.startup?_of_error rfl) rfl rfl rfl
  | viewed notReset notStart view =>
      refine recites_of_idle notReset ?_ (Episode.startup?_of_ne notStart) rfl rfl rfl
      rintro report ⟨⟩
      exact view
  | noted times => exact recites_of_idle nofun nofun rfl rfl rfl rfl
  | started usable closed populated =>
      exact recites_of_started sound closed distinct populated
  | @unstarted stop stopped usable closed populated =>
      obtain ⟨fresh, recounted⟩ := populated.recounted sound closed
      refine recites_of_quiet nofun nofun
        (Episode.fresh_of_grown distinct ((tracked_settled stopped stop).trans recounted.tracked))
        (Episode.startup?_of_error rfl)
        (Episode.breakdown?_of_settled usable (populated.poisoned_eq.trans usable) rfl rfl)
        (some .startup) ?_ ?_
      · rintro span ⟨⟩
        rfl
      · change (stopped.settled stop).trace ++ [.left .startup] = _
        rw [trace_settled, recounted.trace, recital, Option.toList_none, List.map_nil,
          List.append_nil, List.map_append]
        rfl
  | @added session handle tag tracked usable opened attempt =>
      obtain ⟨fresh, recounted⟩ := attempt.recounted sound opened
      refine recites_of_quiet nofun nofun (Episode.fresh_of_grown distinct recounted.tracked)
        (Episode.startup?_of_ne nofun) (Episode.breakdown?_of_same attempt.poisoned_eq) none nofun
        ?_
      rw [recounted.trace, recital, Option.toList_none, List.map_nil, List.append_nil,
        Option.toList_none, List.map_nil, List.append_nil]
      rfl
  | @unadded session handle stop stopped usable opened attempt =>
      obtain ⟨fresh, recounted⟩ := attempt.recounted sound opened
      refine recites_of_quiet nofun nofun
        (Episode.fresh_of_grown distinct ((tracked_settled stopped stop).trans recounted.tracked))
        (Episode.startup?_of_error rfl)
        (Episode.breakdown?_of_settled usable (attempt.poisoned_eq.trans usable) rfl rfl) none
        nofun ?_
      rw [trace_settled, recounted.trace, recital, Option.toList_none, List.map_nil,
        List.append_nil, List.map_append]
      rfl
  | passed isPass usable opened inspection => exact recites_of_passed isPass rfl inspection
  | unpassed isPass usable opened inspection =>
      exact recites_of_unpassed isPass rfl usable inspection
  | resetUnopened => exact recites_of_reset sound nofun emptied rfl rfl
  | resetClosed => exact recites_of_reset sound nofun emptied rfl rfl
  | resetUnclosed => exact recites_of_reset sound nofun emptied rfl rfl

/-- The trace of every command to a sound tracker is the recital of its tale. -/
theorem Sound.recites {tracker : Tracker S} (sound : tracker.Sound) (host : Host σ C S)
    (command : Command C) (state : σ) : (episode host tracker command state).Recites host := by
  obtain ⟨after, outcome, course⟩ := perform_course host command tracker state sound.keeps
  have recites := course.recites sound
  rw [episode, outcome]
  exact recites

/-! ## What the trace tells of each thing -/

namespace Episode

variable {host : Host σ C S} {lived : Episode σ C S} (recites : lived.Recites host)
include recites

/-- What the trace of an episode tells, part by part of its tale. -/
theorem Recites.told_eq {α : Type} (pick : Event → Option α) :
    told pick lived.outcome.trace =
      lived.reset?.toList.filterMap (fun released => pick (.reset released)) ++
        lived.fresh.filterMap (fun record => pick record.tidings) ++
        lived.signatures.filterMap (fun signature => pick (.classUnloaded signature)) ++
        (lived.startup? host).toList.filterMap
          (fun counts => pick (.initialized counts.1 counts.2)) ++
        lived.pass?.toList.filterMap (fun pass => pick (.passEnd pass.examined pass.unloaded)) ++
        lived.breakdown?.toList.filterMap (fun error => pick (.unrecoverable error)) := by
  obtain ⟨span?, -, recital⟩ := recites
  rw [recital, told_recital]
  simp only [tale, List.filterMap_append, List.filterMap_map, Function.comp_def]

theorem Recites.tracked : told Event.tracked? lived.outcome.trace = lived.fresh := by
  rw [recites.told_eq]
  simp [Event.tracked?, ClassRecord.tidings]

theorem Recites.unloaded : told Event.unloaded? lived.outcome.trace = lived.signatures := by
  rw [recites.told_eq]
  simp [Event.unloaded?, ClassRecord.tidings]

theorem Recites.initialized :
    told Event.initialized? lived.outcome.trace = (lived.startup? host).toList := by
  rw [recites.told_eq]
  simp [Event.initialized?, ClassRecord.tidings]

theorem Recites.passEnd : told Event.passEnd? lived.outcome.trace = lived.pass?.toList := by
  rw [recites.told_eq]
  simp [Event.passEnd?, ClassRecord.tidings]

theorem Recites.reset : told Event.reset? lived.outcome.trace = lived.reset?.toList := by
  rw [recites.told_eq]
  simp [Event.reset?, ClassRecord.tidings]

theorem Recites.unrecoverable :
    told Event.unrecoverable? lived.outcome.trace = lived.breakdown?.toList := by
  rw [recites.told_eq]
  simp [Event.unrecoverable?, ClassRecord.tidings]

theorem Recites.wellNested : WellNested lived.outcome.trace := by
  obtain ⟨span?, -, recital⟩ := recites
  rw [recital]
  exact wellNested_recital span? _

end Episode

/-- A pass that is completed has asked the host once for every tracked record. -/
theorem Course.countP_counts {host : Host σ C S} {tracker : Tracker S} {state : σ}
    {command : Command C} {report : UnloadReport} {after : Scene σ C S} (sound : tracker.Sound)
    (course : Course host (.start tracker state) command (.ok (.report report)) after) :
    after.calls.countP CallRecord.counts = tracker.len := by
  cases course with
  | viewed _ _ view => exact absurd view id
  | passed isPass usable opened inspection =>
      cases inspection with
      | completed fits answered keeps =>
          refine (congrArg (List.countP CallRecord.counts) (calls_of_inquest answered)).trans ?_
          rw [List.countP_append, List.countP_map, sound.len_eq]
          refine (Nat.zero_add _).trans (List.countP_eq_length.mpr ?_)
          intro record _
          rfl

/-- What a completed pass did is counted in questions to the host and in reported
signatures. -/
theorem Sound.pass?_eq {tracker : Tracker S} (sound : tracker.Sound) (host : Host σ C S)
    (command : Command C) (state : σ) :
    (episode host tracker command state).pass? =
      (episode host tracker command state).report?.map fun report =>
        ⟨(episode host tracker command state).outcome.calls.countP CallRecord.counts,
          report.len⟩ := by
  cases completes : (episode host tracker command state).report? with
  | none => rw [Episode.pass?, completes, Option.map_none, Option.map_none]
  | some report =>
      have isReport : (tracker.perform host command state).result = .ok (.report report) :=
        Episode.result_of_report? completes
      obtain ⟨after, outcome, course⟩ := perform_course host command tracker state sound.keeps
      rw [isReport] at course outcome
      have counted : (tracker.perform host command state).calls.countP CallRecord.counts =
          tracker.len := by
        rw [outcome]
        exact course.countP_counts sound
      rw [Episode.pass?, completes]
      exact congrArg (fun examined => some (PassStats.mk examined report.len)) counted.symm

/-- A tracker turns poisoned exactly if there is an error that has done it. -/
theorem Sound.isSome_breakdown? {tracker : Tracker S} (sound : tracker.Sound) (host : Host σ C S)
    (command : Command C) (state : σ) :
    (episode host tracker command state).breakdown?.isSome =
      (episode host tracker command state).turnsPoisoned := by
  obtain ⟨after, outcome, course⟩ := perform_course host command tracker state sound.keeps
  cases turns : (episode host tracker command state).turnsPoisoned with
  | false => rw [Episode.breakdown?_of_not turns, Option.isSome_none]
  | true =>
      obtain ⟨usable, poisoned⟩ : tracker.poisoned = false ∧
          (tracker.perform host command state).tracker.poisoned = true := by
        rw [Episode.turnsPoisoned, Bool.and_eq_true, Bool.not_eq_true'] at turns
        exact turns
      have poisonedAfter := (congrArg (fun ended => ended.tracker.poisoned) outcome).symm.trans
        poisoned
      have notReset : command ≠ .reset := by
        rintro rfl
        exact Bool.false_ne_true (course.poisoned_of_reset.symm.trans poisonedAfter)
      have poisons := ((course.poisoned_iff notReset).mp poisonedAfter).resolve_left
        (by rw [usable]; exact Bool.false_ne_true)
      obtain ⟨-, error, failed, -⟩ := poisons
      have breaks : (episode host tracker command state).breakdown? = some error :=
        Episode.breakdown?_of_turned usable poisoned failed
      rw [breaks, Option.isSome_some]

/-- **The trace tells the truth.**  Of every command after every history, and whatever state
the host is in, the trace leaves each span that it has entered, and what its events tell of
classes, passes, startups, resets and errors is what has become of the tracker, what the
caller is told and what the host was asked. -/
theorem trace_truthful (host : Host σ C S) (settings : Settings) (history : List (Command C × σ))
    (command : Command C) (state : σ) :
    let lived := episode host (afterAll host (new settings) history) command state
    WellNested lived.outcome.trace ∧
    told Event.tracked? lived.outcome.trace =
      (lived.after.tracked.filter fun record => record ∉ lived.before.tracked).reverse ∧
    told Event.unloaded? lived.outcome.trace =
      (lived.report?.map UnloadReport.signatures).getD [] ∧
    (told Event.passEnd? lived.outcome.trace =
        lived.report?.toList.map fun report =>
          ⟨lived.outcome.calls.countP CallRecord.counts, report.len⟩) ∧
    lived.after.passes =
      (told Event.passEnd? lived.outcome.trace).foldl PassHistory.record lived.before.passes ∧
    told Event.initialized? lived.outcome.trace = (lived.startup? host).toList ∧
    told Event.reset? lived.outcome.trace = lived.reset?.toList ∧
    told Event.unrecoverable? lived.outcome.trace = lived.breakdown?.toList ∧
    lived.breakdown?.isSome = lived.turnsPoisoned := by
  intro lived
  have sound : (afterAll host (new settings) history).Sound := Reachable.sound ⟨history, rfl⟩
  have recites : lived.Recites host := sound.recites host command state
  have counted := (episode_legal host sound command state).passes_eq
  refine ⟨recites.wellNested, recites.tracked, recites.unloaded, ?_, ?_, recites.initialized,
    recites.reset, recites.unrecoverable, sound.isSome_breakdown? host command state⟩
  · rw [recites.passEnd, sound.pass?_eq host command state, Option.toList_map]
  · rw [recites.passEnd]
    exact counted

end Tracker

end ClassLiveness

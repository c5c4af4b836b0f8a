import ClassLiveness.Proofs.Tracker.Soundness
import ClassLiveness.Tracker.History

/-!
# What a command does to the books

Seen from its books a tracker grows, is swept or is emptied.  It grows by records
under the tags that come next, and perhaps by a tag that is spent on no record
(`Tracker.Grown`); growth adds up, so a startup enumeration grows a tracker as one
attempt to track a class does.

`Tracker.Entry` is what a command may do to the books of a tracker.  A command on a
sound tracker makes one such entry and leaves it sound (`Tracker.Course.entry`); so
every tracker that a history leads to is sound (`Tracker.Reachable.sound`).
-/

set_option autoImplicit false

namespace ClassLiveness

variable {σ C S : Type}

/-- A command asks for a pass. -/
def Command.isPass : Command C → Bool
  | .processUnloads | .processPendingUnloads => true
  | _ => false

namespace Tracker

/-! ## Growth -/

/-- How many tags an operation has spent on no record. -/
def tagsSpent {α : Type} : Except Stop α → Nat
  | .ok _ => 0
  | .error stop => stop.tagsSpent

/-- A tracker has grown by fresh records, and by tags that are spent. -/
structure Grown (before after : Tracker S) (fresh : List ClassRecord) (spent : Nat) : Prop where
  tracked : after.tracked = fresh ++ before.tracked
  numbers : (fresh.map fun record => record.tag.number).reverse =
    List.range' (before.tags.allocated + 1) fresh.length
  allocated : after.tags.allocated = before.tags.allocated + fresh.length + spent
  passes : after.passes = before.passes

namespace Grown

variable {first second third : Tracker S} {fresh later : List ClassRecord} {spent : Nat}

theorem of_same (sameRegistry : second.registry = first.registry)
    (sameTags : second.tags = first.tags) (samePasses : second.passes = first.passes) :
    Grown first second [] 0 := by
  refine ⟨?_, rfl, ?_, samePasses⟩
  · exact congrArg Registry.records sameRegistry
  · rw [sameTags]
    rfl

theorem trans (grown : Grown first second fresh 0) (grownLater : Grown second third later spent) :
    Grown first third (later ++ fresh) spent := by
  have allocated := grown.allocated
  have allocatedLater := grownLater.allocated
  refine ⟨?_, ?_, ?_, ?_⟩
  · rw [grownLater.tracked, grown.tracked, List.append_assoc]
  · have next : second.tags.allocated + 1 = first.tags.allocated + 1 + fresh.length := by omega
    rw [List.map_append, List.reverse_append, grown.numbers, grownLater.numbers, next,
      List.length_append, Nat.add_comm later.length]
    exact List.range'_append_1
  · rw [List.length_append]
    omega
  · rw [grownLater.passes, grown.passes]

/-- The fields that growth does not speak of do not matter. -/
theorem congr {other : Tracker S} (grown : Grown first second fresh spent)
    (sameRegistry : other.registry = second.registry) (sameTags : other.tags = second.tags)
    (samePasses : other.passes = second.passes) : Grown first other fresh spent := by
  refine ⟨?_, grown.numbers, ?_, ?_⟩
  · rw [← grown.tracked]
    exact congrArg Registry.records sameRegistry
  · rw [sameTags, grown.allocated]
  · rw [samePasses, grown.passes]

end Grown

/-- An attempt to track a class grows the tracker by a record, by a spent tag or
not at all. -/
theorem Bookkeeping.grown {before after : Tracker S} {result : Except Stop Tag}
    (kept : Bookkeeping before result after) :
    ∃ fresh, Grown before after fresh (tagsSpent result) := by
  cases kept with
  | @untouched stop nothing =>
      refine ⟨[], ?_⟩
      rw [tagsSpent, nothing]
      exact .of_same rfl rfl rfl
  | @spent stop tag tags one taken =>
      obtain ⟨-, allocated⟩ := TagSupply.allocate_ok taken
      refine ⟨[], rfl, rfl, ?_, rfl⟩
      rw [tagsSpent, one]
      exact allocated
  | @recorded tag tags signature registry taken records =>
      obtain ⟨number, allocated⟩ := TagSupply.allocate_ok taken
      refine ⟨[⟨tag, signature⟩], records, ?_, allocated, rfl⟩
      simp only [List.map_cons, List.map_nil, List.reverse_singleton, List.length_singleton, number]
      rfl

/-- Tracking a list of classes keeps the books sound, and grows the tracker. -/
theorem trackAll_grows (host : Host σ C S) {session : S} (handles : List C) {scene : Scene σ C S}
    (sound : scene.tracker.Sound) (opened : scene.tracker.session = some session) :
    (trackAll host handles).Ends scene
      (fun _ after => after.tracker.Sound ∧ ∃ fresh, Grown scene.tracker after.tracker fresh 0)
      (fun stop after => after.tracker.Sound ∧
        ∃ fresh, Grown scene.tracker after.tracker fresh stop.tagsSpent) := by
  refine (trackAll_ends
    (fun after => after.tracker.Sound ∧ ∃ fresh, Grown scene.tracker after.tracker fresh 0)
    (fun stop after => after.tracker.Sound ∧
      ∃ fresh, Grown scene.tracker after.tracker fresh stop.tagsSpent)
    ?_ ?_ handles opened ⟨sound, [], .of_same rfl rfl rfl⟩).mono ?_ ?_
  · rintro before handle tag after openedBefore ⟨soundBefore, fresh, grown⟩ attempt
    obtain ⟨kept, soundAfter⟩ := attempt.bookkeeping soundBefore openedBefore
    obtain ⟨later, grownLater⟩ := kept.grown
    exact ⟨soundAfter, later ++ fresh, grown.trans grownLater⟩
  · rintro before handle stop after openedBefore ⟨soundBefore, fresh, grown⟩ attempt
    obtain ⟨kept, soundAfter⟩ := attempt.bookkeeping soundBefore openedBefore
    obtain ⟨later, grownLater⟩ := kept.grown
    exact ⟨soundAfter, later ++ fresh, grown.trans grownLater⟩
  · intro _ _ kept
    exact kept.2
  · intro _ _ stopped
    exact stopped

theorem Sound.settled {scene : Scene σ C S} (sound : scene.tracker.Sound) (stop : Stop) :
    (scene.settled stop).tracker.Sound := by
  rw [Scene.tracker_settled]
  exact sound.congr rfl rfl rfl

theorem Grown.settled {before : Tracker S} {scene : Scene σ C S} {fresh : List ClassRecord}
    {spent : Nat} (grown : Grown before scene.tracker fresh spent) (stop : Stop) :
    Grown before (scene.settled stop).tracker fresh spent := by
  rw [Scene.tracker_settled]
  exact grown.congr rfl rfl rfl

/-- A tracker that has no session grows by nothing when its registry is emptied. -/
theorem Sound.grown_emptied {before after : Tracker S} (sound : before.Sound)
    (closed : before.session = none) (emptied : after.registry = before.registry.clear)
    (sameTags : after.tags = before.tags) (samePasses : after.passes = before.passes) :
    Grown before after [] 0 := by
  refine ⟨?_, rfl, ?_, samePasses⟩
  · rw [sound.uninitialized closed]
    exact (congrArg Registry.records emptied).trans Registry.Keeps.empty.records_eq
  · rw [sameTags]
    rfl

/-- Tracking the listed classes keeps the books sound, and grows the tracker from the
beginning of the startup enumeration on. -/
theorem trackAll_grows_listed (host : Host σ C S) {before : Scene σ C S}
    (sound : before.tracker.Sound) (closed : before.tracker.session = none) (session : S)
    (afterOpening afterListing : σ) (handles : List C) :
    (trackAll host handles).Ends (before.listed session afterOpening afterListing)
      (fun _ after => after.tracker.Sound ∧ ∃ fresh, Grown before.tracker after.tracker fresh 0)
      (fun stop after => after.tracker.Sound ∧
        ∃ fresh, Grown before.tracker after.tracker fresh stop.tagsSpent) := by
  have listed : (before.listed session afterOpening afterListing).tracker.Sound := .of_empty rfl
  have entered : Grown before.tracker (before.listed session afterOpening afterListing).tracker
      [] 0 := sound.grown_emptied closed rfl rfl rfl
  refine (trackAll_grows host handles listed rfl).mono ?_ ?_
  · rintro _ after ⟨soundAfter, fresh, grown⟩
    exact ⟨soundAfter, _, entered.trans grown⟩
  · rintro stop after ⟨soundAfter, fresh, grown⟩
    exact ⟨soundAfter, _, entered.trans grown⟩

/-- A startup enumeration keeps the books sound, and grows the tracker. -/
theorem Population.grown {host : Host σ C S} {before after : Scene σ C S}
    {result : Except Stop Unit} (populated : Population host before result after)
    (sound : before.tracker.Sound) (closed : before.tracker.session = none) :
    after.tracker.Sound ∧ ∃ fresh, Grown before.tracker after.tracker fresh (tagsSpent result) := by
  cases populated with
  | unopened => exact ⟨.of_empty rfl, [], sound.grown_emptied closed rfl rfl rfl⟩
  | unlisted => exact ⟨.of_empty rfl, [], sound.grown_emptied closed rfl rfl rfl⟩
  | halted _ _ stopped => exact (trackAll_grows_listed host sound closed _ _ _ _).error stopped
  | complete _ _ tracked =>
      obtain ⟨soundAfter, fresh, grown⟩ :=
        (trackAll_grows_listed host sound closed _ _ _ _).ok tracked
      exact ⟨soundAfter, fresh, grown⟩

/-! ## Entries -/

/-- What a command does to the books of a tracker. -/
inductive Entry (host : Host σ C S) (before : Tracker S) (state : σ) :
    Command C → Except Stop Reply → Tracker S → Prop where
  | grown {command : Command C} {result : Except Stop Reply} {after : Tracker S}
      {fresh : List ClassRecord} : command ≠ .reset →
      (∀ report, result ≠ .ok (.report report)) →
      Grown before after fresh (tagsSpent result) → Entry host before state command result after
  | swept {command : Command C} {session : S} {report : UnloadReport} {after : Tracker S} :
      command.isPass = true → before.session = some session →
      (before.inquest host session ⟨state, []⟩).failure? = none →
      after.tracked = (before.inquest host session ⟨state, []⟩).kept →
      report.signatures = (before.inquest host session ⟨state, []⟩).dead.reverse.map
        ClassRecord.signature →
      after.tags = before.tags → after.passes = before.passes.record ⟨before.len, report.len⟩ →
        Entry host before state command (.ok (.report report)) after
  | halted {command : Command C} {session : S} {reason : TrackingError} {after : Tracker S} :
      command.isPass = true → before.session = some session → Host.IsVerdict reason →
      after.tracked = (before.inquest host session ⟨state, []⟩).kept →
      after.tags = before.tags → after.passes = before.passes →
        Entry host before state command (.error (.error reason)) after
  | emptied {result : Except Stop Reply} {after : Tracker S} :
      (∀ report, result ≠ .ok (.report report)) → tagsSpent result = 0 → after.tracked = [] →
      after.tags = before.tags → after.passes = before.passes →
        Entry host before state .reset result after

/-- **A command makes one entry, and leaves a sound tracker sound.** -/
theorem Course.entry {host : Host σ C S} {tracker : Tracker S} {state : σ} {command : Command C}
    {result : Except Stop Reply} {after : Scene σ C S} (sound : tracker.Sound)
    (course : Course host (.start tracker state) command result after) :
    after.tracker.Sound ∧ Entry host tracker state command result after.tracker := by
  cases course with
  | refused refuses =>
      have nothing : Grown tracker tracker [] 0 := .of_same rfl rfl rfl
      have notReset := refuses.ne_reset
      obtain rfl | rfl | rfl := refuses.isRefusal <;>
        exact ⟨sound, .grown notReset (by simp) nothing⟩
  | viewed notReset notStart view =>
      refine ⟨sound, .grown notReset ?_ (.of_same rfl rfl rfl)⟩
      rintro report same
      cases same
      exact view
  | noted times =>
      exact ⟨sound.congr rfl rfl rfl, .grown (by simp) (by simp) (.of_same rfl rfl rfl)⟩
  | started usable closed populated =>
      obtain ⟨soundAfter, fresh, grown⟩ := populated.grown sound closed
      exact ⟨soundAfter, .grown (by simp) (by simp) grown⟩
  | unstarted usable closed populated =>
      obtain ⟨soundAfter, fresh, grown⟩ := populated.grown sound closed
      exact ⟨soundAfter.settled _, .grown (by simp) (by simp) (grown.settled _)⟩
  | added usable opened attempt =>
      obtain ⟨kept, soundAfter⟩ := attempt.bookkeeping sound opened
      obtain ⟨fresh, grown⟩ := kept.grown
      exact ⟨soundAfter, .grown (by simp) (by simp) grown⟩
  | unadded usable opened attempt =>
      obtain ⟨kept, soundAfter⟩ := attempt.bookkeeping sound opened
      obtain ⟨fresh, grown⟩ := kept.grown
      exact ⟨soundAfter.settled _, .grown (by simp) (by simp) (grown.settled _)⟩
  | @passed _ session _ _ isPass usable opened inspection =>
      cases inspection with
      | completed fits answered keeps =>
          have fewer := Registry.kept_sublist (host.isLive session) tracker.tracked ⟨state, []⟩
          have counted := len_reverse (tracker.inquest host session ⟨state, []⟩).dead
          refine ⟨(sound.shrink keeps fewer (Nat.le_refl _)).congr rfl rfl rfl, ?_⟩
          have asksForPass : command.isPass = true := by
            obtain rfl | rfl := isPass <;> rfl
          exact .swept asksForPass opened answered keeps.records_eq rfl rfl
            (congrArg (fun count => tracker.passes.record ⟨tracker.len, count⟩) counted.symm)
  | @unpassed _ session _ _ isPass usable opened inspection =>
      cases inspection with
      | overfull full =>
          refine ⟨sound, .grown ?_ (by simp) (.of_same rfl rfl rfl)⟩
          rintro rfl
          simp at isPass
      | failed fits failed keeps =>
          have fewer := Registry.kept_sublist (host.isLive session) tracker.tracked ⟨state, []⟩
          refine ⟨(sound.shrink keeps fewer (Nat.le_refl _)).congr rfl rfl rfl, ?_⟩
          have asksForPass : command.isPass = true := by
            obtain rfl | rfl := isPass <;> rfl
          exact .halted asksForPass opened (isVerdict_of_inquest failed) keeps.records_eq rfl rfl
  | resetUnopened closed =>
      exact ⟨.of_empty rfl, .emptied (by simp) rfl Registry.Keeps.empty.records_eq rfl rfl⟩
  | resetClosed opened =>
      exact ⟨.of_empty rfl, .emptied (by simp) rfl Registry.Keeps.empty.records_eq rfl rfl⟩
  | resetUnclosed opened =>
      exact ⟨.of_empty rfl, .emptied (by simp) rfl Registry.Keeps.empty.records_eq rfl rfl⟩

namespace Entry

variable {host : Host σ C S} {before after : Tracker S} {state : σ} {command : Command C}
  {result : Except Stop Reply}

/-- Tags are handed out and never taken back. -/
theorem allocated_le (entry : Entry host before state command result after) :
    before.tags.allocated ≤ after.tags.allocated := by
  cases entry with
  | grown _ _ grown =>
      have allocated := grown.allocated
      omega
  | swept _ _ _ _ _ sameTags =>
      exact Nat.le_of_eq (congrArg TagSupply.allocated sameTags.symm)
  | halted _ _ _ _ sameTags =>
      exact Nat.le_of_eq (congrArg TagSupply.allocated sameTags.symm)
  | emptied _ _ _ sameTags =>
      exact Nat.le_of_eq (congrArg TagSupply.allocated sameTags.symm)

/-- A record that is tracked after a command was tracked before, or has a tag that
was not handed out before. -/
theorem tracked_or_fresh (entry : Entry host before state command result after)
    {record : ClassRecord} (member : record ∈ after.tracked) :
    record ∈ before.tracked ∨ before.tags.allocated < record.tag.number := by
  cases entry with
  | @grown _ _ _ fresh _ _ grown =>
      rw [grown.tracked] at member
      rcases List.mem_append.mp member with isFresh | wasTracked
      · have counted : record.tag.number ∈
            List.range' (before.tags.allocated + 1) fresh.length := by
          rw [← grown.numbers, List.mem_reverse]
          exact List.mem_map_of_mem isFresh
        have bounds := List.mem_range'_1.mp counted
        exact .inr (by omega)
      · exact .inl wasTracked
  | swept _ _ _ remaining =>
      rw [remaining] at member
      exact .inl ((Registry.kept_sublist _ _ _).subset member)
  | halted _ _ _ remaining =>
      rw [remaining] at member
      exact .inl ((Registry.kept_sublist _ _ _).subset member)
  | emptied _ _ nothing =>
      rw [nothing] at member
      cases member

end Entry

/-! ## Every reachable tracker -/

/-- A command leaves a sound tracker sound, and makes one entry. -/
theorem Sound.perform {tracker : Tracker S} (sound : tracker.Sound) (host : Host σ C S)
    (command : Command C) (state : σ) :
    (tracker.perform host command state).tracker.Sound ∧
      Entry host tracker state command (tracker.perform host command state).result
        (tracker.perform host command state).tracker := by
  obtain ⟨after, outcome, course⟩ := perform_course host command tracker state sound.keeps
  have entry := course.entry sound
  rw [outcome]
  exact entry

/-- **Every tracker that a history leads to is sound.** -/
theorem Reachable.sound {host : Host σ C S} {settings : Settings} {tracker : Tracker S}
    (reached : Reachable host settings tracker) : tracker.Sound := by
  refine reached.invariant (.of_empty rfl) ?_
  intro tracker command state sound
  exact (sound.perform host command state).1

end Tracker

end ClassLiveness

import ClassLiveness.Proofs.Tracker.Course

/-!
# Sound trackers

The books of a tracker are sound if the registry keeps its records, their tags
descend and have all been handed out, and there are records only in a session
(`Tracker.Sound`).

A fresh tag is above all tags of the records, so the registry of a sound tracker
never refuses a record that is tracked (`Tracker.Sound.push`), and what an attempt to
track a class does to the books comes down to three cases
(`Tracker.Attempt.bookkeeping`).
-/

set_option autoImplicit false

namespace ClassLiveness

variable {σ C S : Type}

/-- How many tags an operation has spent on no record when it is stopped. -/
def Stop.tagsSpent : Stop → Nat
  | .error (.host .signature _) | .error (.host .setTag _) => 1
  | _ => 0

namespace Tracker

theorem tracked_of_empty {tracker : Tracker S} (nothing : tracker.registry = .empty) :
    tracker.tracked = [] := by
  rw [tracked, nothing]
  exact Registry.Keeps.empty.records_eq

/-- The books of a tracker are in order. -/
structure Sound (tracker : Tracker S) : Prop where
  keeps : tracker.registry.Keeps ⟨tracker.tracked, []⟩
  descending : tracker.tracked.Pairwise fun first second => second.tag.number < first.tag.number
  bounded : ∀ record ∈ tracker.tracked, record.tag.number ≤ tracker.tags.allocated
  uninitialized : tracker.session = none → tracker.tracked = []

namespace Sound

variable {tracker : Tracker S}

theorem len_eq (sound : tracker.Sound) : tracker.len = tracker.tracked.length := by
  refine sound.keeps.len_eq.trans ?_
  rw [Ledger.len, Ledger.all, List.append_nil]

theorem nodup (sound : tracker.Sound) : tracker.tracked.Nodup := by
  refine sound.descending.imp ?_
  rintro first second lower rfl
  exact Nat.lt_irrefl _ lower

/-- The other fields do not matter. -/
theorem congr {other : Tracker S} (sound : tracker.Sound)
    (sameRegistry : other.registry = tracker.registry) (sameTags : other.tags = tracker.tags)
    (sameSession : other.session = tracker.session) : other.Sound := by
  have sameTracked : other.tracked = tracker.tracked := congrArg Registry.records sameRegistry
  refine ⟨?_, ?_, ?_, ?_⟩
  · rw [sameRegistry, sameTracked]
    exact sound.keeps
  · rw [sameTracked]
    exact sound.descending
  · rw [sameTracked, sameTags]
    exact sound.bounded
  · rw [sameTracked, sameSession]
    exact sound.uninitialized

/-- A tracker that tracks nothing is sound. -/
theorem of_empty (nothing : tracker.registry = .empty) : tracker.Sound := by
  have tracksNothing := tracked_of_empty nothing
  refine ⟨?_, ?_, ?_, ?_⟩
  · rw [tracksNothing, nothing]
    exact Registry.Keeps.empty
  · rw [tracksNothing]
    exact List.Pairwise.nil
  · rw [tracksNothing]
    intro record member
    cases member
  · intro _
    exact tracksNothing

/-- Records may leave, and tags may be spent. -/
theorem shrink {registry : Registry} {tags : TagSupply} {records : List ClassRecord}
    (sound : tracker.Sound) (keeps : registry.Keeps ⟨records, []⟩)
    (fewer : records.Sublist tracker.tracked) (spent : tracker.tags.allocated ≤ tags.allocated) :
    ({ tracker with registry := registry, tags := tags } : Tracker S).Sound := by
  have remaining : ({ tracker with registry := registry, tags := tags } : Tracker S).tracked =
      records := keeps.records_eq
  refine ⟨?_, ?_, ?_, ?_⟩
  · rw [remaining]
    exact keeps
  · rw [remaining]
    exact sound.descending.sublist fewer
  · rw [remaining]
    intro record member
    exact Nat.le_trans (sound.bounded record (fewer.subset member)) spent
  · intro closed
    rw [remaining]
    have nothing := sound.uninitialized closed
    rw [nothing] at fewer
    exact List.sublist_nil.mp fewer

/-- A tag may be spent. -/
theorem spend {tag : Tag} {tags : TagSupply} (sound : tracker.Sound)
    (taken : tracker.tags.allocate = .ok (tag, tags)) :
    ({ tracker with tags := tags } : Tracker S).Sound := by
  obtain ⟨-, allocated⟩ := TagSupply.allocate_ok taken
  exact sound.shrink sound.keeps (List.Sublist.refl _) (by omega)

/-- **A record under a fresh tag is never refused**, and its tracker is sound. -/
theorem push {tag : Tag} {tags : TagSupply} {session : S} (sound : tracker.Sound)
    (taken : tracker.tags.allocate = .ok (tag, tags)) (opened : tracker.session = some session)
    (signature : String) :
    ∃ registry, tracker.registry.push ⟨tag, signature⟩ = .ok registry ∧
      registry.records = ⟨tag, signature⟩ :: tracker.tracked ∧
      ({ tracker with registry := registry, tags := tags } : Tracker S).Sound := by
  obtain ⟨number, allocated⟩ := TagSupply.allocate_ok taken
  have below : ∀ record ∈ tracker.tracked, record.tag.number < tag.number := by
    intro record member
    have bound := sound.bounded record member
    omega
  have unknown : (⟨tracker.tracked, []⟩ : Ledger).contains tag = false := by
    rw [Ledger.contains, Ledger.get?, Option.isSome_eq_false_iff, Option.isNone_iff_eq_none,
      Ledger.all, List.append_nil, List.find?_eq_none]
    intro record member same
    have lower := below record member
    rw [of_decide_eq_true same] at lower
    exact Nat.lt_irrefl _ lower
  have accepted : (⟨tracker.tracked, []⟩ : Ledger).push ⟨tag, signature⟩ =
      .ok ⟨⟨tag, signature⟩ :: tracker.tracked, []⟩ := by
    simp only [Ledger.push, unknown, Bool.false_eq_true, if_false]
  obtain ⟨registry, pushed, keeps⟩ := sound.keeps.push_ok accepted
  refine ⟨registry, pushed, keeps.records_eq, ?_⟩
  have grown : ({ tracker with registry := registry, tags := tags } : Tracker S).tracked =
      ⟨tag, signature⟩ :: tracker.tracked := keeps.records_eq
  refine ⟨?_, ?_, ?_, ?_⟩
  · rw [grown]
    exact keeps
  · rw [grown]
    exact List.pairwise_cons.mpr ⟨below, sound.descending⟩
  · rw [grown]
    intro record member
    rcases List.mem_cons.mp member with rfl | member
    · exact Nat.le_of_eq (number.trans allocated.symm)
    · have bound := sound.bounded record member
      change record.tag.number ≤ tags.allocated
      omega
  · intro closed
    cases opened.symm.trans closed

section

variable {tag : Tag} {tags : TagSupply} {session : S} {signature : String}

theorem not_refused {abort : Abort} (sound : tracker.Sound)
    (taken : tracker.tags.allocate = .ok (tag, tags)) (opened : tracker.session = some session)
    (refused : tracker.registry.push ⟨tag, signature⟩ = .error abort) : False := by
  obtain ⟨registry, pushed, -⟩ := sound.push taken opened signature
  cases pushed.symm.trans refused

theorem of_push {registry : Registry} (sound : tracker.Sound)
    (taken : tracker.tags.allocate = .ok (tag, tags)) (opened : tracker.session = some session)
    (pushed : tracker.registry.push ⟨tag, signature⟩ = .ok registry) :
    registry.records = ⟨tag, signature⟩ :: tracker.tracked ∧
      ({ tracker with registry := registry, tags := tags } : Tracker S).Sound := by
  obtain ⟨registry', accepted, kept⟩ := sound.push taken opened signature
  obtain rfl : registry' = registry := Except.ok.inj (accepted.symm.trans pushed)
  exact kept

end

end Sound

/-! ## What an attempt does to the books -/

/-- What an attempt to track a class does to the tracker. -/
inductive Bookkeeping (before : Tracker S) : Except Stop Tag → Tracker S → Prop where
  | untouched {stop : Stop} : stop.tagsSpent = 0 →
      Bookkeeping before (.error stop) before
  | spent {stop : Stop} {tag : Tag} {tags : TagSupply} :
      stop.tagsSpent = 1 → before.tags.allocate = .ok (tag, tags) →
        Bookkeeping before (.error stop) { before with tags := tags }
  | recorded {tag : Tag} {tags : TagSupply} {signature : String} {registry : Registry} :
      before.tags.allocate = .ok (tag, tags) →
      registry.records = ⟨tag, signature⟩ :: before.tracked →
        Bookkeeping before (.ok tag) { before with registry := registry, tags := tags }

theorem Bookkeeping.of_error {before after : Tracker S} {stop : Stop}
    (kept : Bookkeeping before (.error stop) after) :
    after.tracked = before.tracked ∧
      after.tags.allocated = before.tags.allocated + stop.tagsSpent := by
  cases kept with
  | untouched nothing =>
      rw [nothing]
      exact ⟨rfl, rfl⟩
  | spent one taken =>
      rw [one]
      exact ⟨rfl, (TagSupply.allocate_ok taken).2⟩

theorem Bookkeeping.of_ok {before after : Tracker S} {tag : Tag}
    (kept : Bookkeeping before (.ok tag) after) :
    ∃ signature, after.tracked = ⟨tag, signature⟩ :: before.tracked := by
  cases kept with
  | recorded _ records => exact ⟨_, records⟩

theorem Screened.sound {host : Host σ C S} {session : S} {handle : C}
    {before screened : Scene σ C S} (passed : Screened host session handle before screened)
    (sound : before.tracker.Sound) : screened.tracker.Sound := by
  rw [passed.tracker_eq]
  exact sound

theorem Screened.opened {host : Host σ C S} {session : S} {handle : C}
    {before screened : Scene σ C S} (passed : Screened host session handle before screened)
    (opened : before.tracker.session = some session) :
    screened.tracker.session = some session := by
  rw [passed.tracker_eq]
  exact opened

/-- An attempt to track a class ends with the books in one of three states, and
they stay sound. -/
theorem Attempt.bookkeeping {host : Host σ C S} {session : S} {handle : C}
    {before after : Scene σ C S} {result : Except Stop Tag} (sound : before.tracker.Sound)
    (opened : before.tracker.session = some session)
    (attempt : Attempt host session handle before result after) :
    Bookkeeping before.tracker result after.tracker ∧ after.tracker.Sound := by
  cases attempt with
  | unscreened => exact ⟨.untouched rfl, sound⟩
  | duplicate => exact ⟨.untouched rfl, sound⟩
  | exhausted passed =>
      rw [passed.tracker_eq]
      exact ⟨.untouched rfl, sound⟩
  | @unnamed screened tag tags _ _ passed taken =>
      change Bookkeeping before.tracker _ { screened.tracker with tags := tags } ∧
        ({ screened.tracker with tags := tags } : Tracker S).Sound
      rw [passed.tracker_eq] at taken ⊢
      exact ⟨.spent rfl taken, sound.spend taken⟩
  | @untagged screened tag tags _ _ _ _ passed taken =>
      change Bookkeeping before.tracker _ { screened.tracker with tags := tags } ∧
        ({ screened.tracker with tags := tags } : Tracker S).Sound
      rw [passed.tracker_eq] at taken ⊢
      exact ⟨.spent rfl taken, sound.spend taken⟩
  | clash passed taken _ _ refused =>
      exact ((passed.sound sound).not_refused taken (passed.opened opened) refused).elim
  | @tracked screened tag tags signature _ _ registry passed taken _ _ pushed =>
      change Bookkeeping before.tracker _
          { screened.tracker with registry := registry, tags := tags } ∧
        ({ screened.tracker with registry := registry, tags := tags } : Tracker S).Sound
      rw [passed.tracker_eq] at taken pushed ⊢
      obtain ⟨records, soundAfter⟩ := sound.of_push taken opened pushed
      exact ⟨.recorded taken records, soundAfter⟩

end Tracker

end ClassLiveness

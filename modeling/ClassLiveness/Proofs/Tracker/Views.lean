import ClassLiveness.Proofs.Tracker.Books

/-!
# The views of a tracker

A tracker is looked at in two ways.  The list of its records is what a walk along the chain
meets; whether a tag is tracked, the signature that goes with it and the counts are read off
the index, and never off the chain.  Nothing in the views themselves ties the two together.

In a sound tracker they say the same (`Tracker.Sound.signature?_eq_some_iff`,
`Tracker.Sound.isTracked_iff`, `Tracker.Sound.isEmpty_iff`), because its registry keeps the
records on the chain and no others.  Since every history leaves a sound tracker, a caller
never sees the views disagree, whatever the host has done (`Tracker.views_agree`).
-/

set_option autoImplicit false

namespace ClassLiveness

variable {σ C S : Type}

namespace Tracker

namespace Sound

variable {tracker : Tracker S}

/-- All that the registry of a sound tracker keeps is tracked. -/
theorem all_eq (tracker : Tracker S) : (⟨tracker.tracked, []⟩ : Ledger).all = tracker.tracked :=
  List.append_nil _

/-- No two classes are tracked under one tag. -/
theorem tags_nodup (sound : tracker.Sound) : (tracker.tracked.map ClassRecord.tag).Nodup := by
  have distinct := sound.keeps.tags_nodup
  rwa [all_eq] at distinct

/-- The signature that goes with a tag is that of the record with the tag. -/
theorem signature?_eq_some_iff (sound : tracker.Sound) (tag : Tag) (signature : String) :
    tracker.signature? tag = some signature ↔ ⟨tag, signature⟩ ∈ tracker.tracked := by
  rw [signature?, Option.map_eq_some_iff]
  constructor
  · rintro ⟨record, found, rfl⟩
    obtain ⟨member, rfl⟩ := sound.keeps.get?_eq_some_iff.mp found
    rwa [all_eq] at member
  · intro member
    rw [← all_eq tracker] at member
    exact ⟨_, sound.keeps.get?_eq_some_iff.mpr ⟨member, rfl⟩, rfl⟩

/-- A tag is tracked if there is a record with it. -/
theorem isTracked_iff (sound : tracker.Sound) (tag : Tag) :
    tracker.isTracked tag = true ↔ ∃ record ∈ tracker.tracked, record.tag = tag := by
  have known := sound.keeps.contains_iff tag
  rwa [all_eq] at known

theorem isEmpty_iff (sound : tracker.Sound) :
    tracker.isEmpty = true ↔ tracker.tracked.length = 0 := by
  rw [isEmpty, sound.keeps.isEmpty_eq, Ledger.isEmpty, all_eq, List.isEmpty_iff,
    List.length_eq_zero_iff]

end Sound

/-- **The views of a tracker agree.**  After every history, and whatever states the host was
in: the signature that goes with a tag is that of the record which has the tag, a tag is
tracked exactly if a record has it, and no tag has two; the two counts are the number of
records, and the tracker is empty exactly if this is zero.  A tracker that is not initialized
tracks nothing. -/
theorem views_agree (host : Host σ C S) (settings : Settings) (history : List (Command C × σ)) :
    let now := afterAll host (new settings) history
    (∀ tag signature, now.signature? tag = some signature ↔ ⟨tag, signature⟩ ∈ now.tracked) ∧
    (∀ tag, now.isTracked tag = true ↔ ∃ record ∈ now.tracked, record.tag = tag) ∧
    (now.tracked.map ClassRecord.tag).Nodup ∧
    now.len = now.tracked.length ∧
    now.metrics.classesTracked = now.tracked.length ∧
    (now.isEmpty = true ↔ now.tracked.length = 0) ∧
    (now.isInitialized = false → now.tracked = []) := by
  intro now
  have sound : now.Sound := Reachable.sound ⟨history, rfl⟩
  refine ⟨sound.signature?_eq_some_iff, sound.isTracked_iff, sound.tags_nodup, sound.len_eq,
    sound.len_eq, sound.isEmpty_iff, ?_⟩
  intro uninitialized
  exact sound.uninitialized ((isInitialized_eq_false_iff now).mp uninitialized)

end Tracker

end ClassLiveness

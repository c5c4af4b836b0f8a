import ClassLiveness.Proofs.Contract.Sessions
import ClassLiveness.Proofs.Tracker.Books

/-!
# Whose tags the records have

The records of a tracker carry tags that its calls have hung on classes, and every
such tag was hung on one class only.  If duplicates are checked for, or no class is
given twice, then a class has also got one tag only (`Attributed`).  This is a
property of the tracker and of its calls; the host has no part in it, except that a
tag is looked up before another is hung on the same class.

Calls that hang no tag keep it (`Attributed.unmarked`), records may leave
(`Attributed.shrink`), and a class on which no tag was hung may get one
(`Attributed.mark`).
-/

set_option autoImplicit false

namespace ClassLiveness

variable {σ C S : Type}

/-- The records of a tracker have tags that were hung on classes, each on one. -/
structure Attributed (settings : Settings) (tracker : Tracker S) (log : List (CallRecord C S)) :
    Prop where
  sound : tracker.Sound
  settings_eq : tracker.settings = settings
  handedOut : ∀ mark ∈ marks log, mark.2.number ≤ tracker.tags.allocated
  tags_nodup : ((marks log).map Prod.snd).Nodup
  handles_nodup : Undisputed settings log → ((marks log).map Prod.fst).Nodup
  named : ∀ mark ∈ marks log, mark.1 ∈ offered log
  owned : ∀ record ∈ tracker.tracked, ∃ handle, (handle, record.tag) ∈ marks log
  unopened : tracker.session = none → marks log = []

namespace Attributed

variable {settings : Settings} {tracker : Tracker S} {log : List (CallRecord C S)}

/-- A tracker without records has nothing to answer for when no calls have been made. -/
theorem of_empty (nothing : tracker.registry = .empty)
    (sameSettings : tracker.settings = settings) :
    Attributed settings tracker ([] : List (CallRecord C S)) where
  sound := .of_empty nothing
  settings_eq := sameSettings
  handedOut := by
    intro mark member
    cases member
  tags_nodup := List.nodup_nil
  handles_nodup := fun _ => List.nodup_nil
  named := by
    intro mark member
    cases member
  owned := by
    intro record member
    rw [Tracker.tracked_of_empty nothing] at member
    cases member
  unopened := fun _ => rfl

/-- Calls that hang no tag do not matter. -/
theorem unmarked (attributed : Attributed settings tracker log) {more : List (CallRecord C S)}
    (none : marks more = []) : Attributed settings tracker (log ++ more) := by
  have same : marks (log ++ more) = marks log := by rw [marks_append, none, List.append_nil]
  refine ⟨attributed.sound, attributed.settings_eq, ?_, ?_, ?_, ?_, ?_, ?_⟩
  · rw [same]
    exact attributed.handedOut
  · rw [same]
    exact attributed.tags_nodup
  · rw [same]
    exact fun undisputed => attributed.handles_nodup undisputed.of_append
  · rw [same, offered_append]
    exact fun mark member => List.mem_append_left _ (attributed.named mark member)
  · rw [same]
    exact attributed.owned
  · rw [same]
    exact attributed.unopened

/-- One more call that hangs no tag does not matter. -/
theorem called {calls : List (CallRecord C S)}
    (attributed : Attributed settings tracker (log ++ calls)) {record : CallRecord C S}
    (none : marks [record] = []) :
    Attributed settings tracker (log ++ (calls ++ [record])) := by
  rw [← List.append_assoc]
  exact attributed.unmarked none

/-- Records may leave, and tags may be spent. -/
theorem shrink (attributed : Attributed settings tracker log) {other : Tracker S}
    (sound : other.Sound) (sameSettings : other.settings = tracker.settings)
    (stillOpen : other.session = none → tracker.session = none)
    (fewer : ∀ record ∈ other.tracked, record ∈ tracker.tracked)
    (more : tracker.tags.allocated ≤ other.tags.allocated) : Attributed settings other log where
  sound := sound
  settings_eq := sameSettings.trans attributed.settings_eq
  handedOut := fun mark member => Nat.le_trans (attributed.handedOut mark member) more
  tags_nodup := attributed.tags_nodup
  handles_nodup := attributed.handles_nodup
  named := attributed.named
  owned := fun record member => attributed.owned record (fewer record member)
  unopened := fun closed => attributed.unopened (stillOpen closed)

/-- A pass may take records from the registry. -/
theorem sweep (attributed : Attributed settings tracker log) {other : Tracker S}
    {records : List ClassRecord} (keeps : other.registry.Keeps ⟨records, []⟩)
    (fewer : records.Sublist tracker.tracked) (sameTags : other.tags = tracker.tags)
    (sameSession : other.session = tracker.session)
    (sameSettings : other.settings = tracker.settings) : Attributed settings other log := by
  have spent : tracker.tags.allocated ≤ other.tags.allocated :=
    Nat.le_of_eq (congrArg TagSupply.allocated sameTags.symm)
  have sound : other.Sound :=
    (attributed.sound.shrink keeps fewer spent).congr rfl rfl sameSession
  refine attributed.shrink sound sameSettings (fun closed => sameSession ▸ closed) ?_ spent
  intro record member
  have remaining : other.tracked = records := keeps.records_eq
  rw [remaining] at member
  exact fewer.subset member

/-- All records may leave. -/
theorem clear (attributed : Attributed settings tracker log) {other : Tracker S}
    (nothing : other.registry = .empty) (sameSettings : other.settings = tracker.settings)
    (stillOpen : other.session = none → tracker.session = none)
    (more : tracker.tags.allocated ≤ other.tags.allocated) : Attributed settings other log := by
  refine attributed.shrink (.of_empty nothing) sameSettings stillOpen ?_ more
  intro record member
  rw [Tracker.tracked_of_empty nothing] at member
  cases member

/-- A class on which no tag was hung gets a fresh one, and is tracked. -/
theorem mark (attributed : Attributed settings tracker log) {session : S} {handle : C} {tag : Tag}
    {tags : TagSupply} {signature : String} {registry : Registry}
    (opened : tracker.session = some session)
    (taken : tracker.tags.allocate = .ok (tag, tags))
    (pushed : tracker.registry.push ⟨tag, signature⟩ = .ok registry)
    (unmarked : Undisputed settings (log ++ [⟨.signatureOf handle, none⟩]) →
      ∀ other, (handle, other) ∉ marks log) :
    Attributed settings { tracker with registry := registry, tags := tags }
      (log ++ [⟨.signatureOf handle, none⟩] ++ [⟨.setTag session handle tag, none⟩]) := by
  obtain ⟨number, allocated⟩ := TagSupply.allocate_ok taken
  obtain ⟨records, sound⟩ := attributed.sound.of_push taken opened pushed
  refine ⟨sound, attributed.settings_eq, ?_, ?_, ?_, ?_, ?_, ?_⟩
  · rw [marks_tagged]
    intro mark member
    change mark.2.number ≤ tags.allocated
    rcases List.mem_append.mp member with earlier | last
    · have bound := attributed.handedOut mark earlier
      omega
    · obtain rfl := List.mem_singleton.mp last
      change tag.number ≤ tags.allocated
      omega
  · rw [marks_tagged, List.map_append, List.nodup_append]
    refine ⟨attributed.tags_nodup, List.nodup_singleton _, ?_⟩
    rintro earlier memberEarlier last memberLast rfl
    obtain ⟨mark, member, rfl⟩ := List.mem_map.mp memberEarlier
    have bound := attributed.handedOut mark member
    have same : mark.2 = tag := List.mem_singleton.mp memberLast
    rw [same] at bound
    omega
  · intro undisputed
    rw [marks_tagged, List.map_append, List.nodup_append]
    refine ⟨attributed.handles_nodup undisputed.of_append.of_append, List.nodup_singleton _, ?_⟩
    rintro earlier memberEarlier last memberLast rfl
    obtain ⟨⟨_, other⟩, member, rfl⟩ := List.mem_map.mp memberEarlier
    obtain rfl := List.mem_singleton.mp memberLast
    exact unmarked undisputed.of_append other member
  · rw [marks_tagged, offered_tagged]
    intro mark member
    rcases List.mem_append.mp member with earlier | last
    · exact List.mem_append_left _ (attributed.named mark earlier)
    · obtain rfl := List.mem_singleton.mp last
      exact List.mem_append_right _ (List.mem_singleton_self handle)
  · rw [marks_tagged]
    intro record member
    have grown : record ∈ registry.records := member
    rw [records] at grown
    rcases List.mem_cons.mp grown with rfl | wasTracked
    · exact ⟨handle, List.mem_append_right _ (List.mem_singleton_self _)⟩
    · obtain ⟨owner, marked⟩ := attributed.owned record wasTracked
      exact ⟨owner, List.mem_append_left _ marked⟩
  · intro closed
    cases opened.symm.trans closed

end Attributed

end ClassLiveness

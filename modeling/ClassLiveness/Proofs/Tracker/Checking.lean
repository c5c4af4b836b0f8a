import ClassLiveness.Proofs.Tracker.Admission
import ClassLiveness.Proofs.Tracker.Applied

/-!
# What the check for duplicates decides

While duplicates are checked for, an attempt to track a class goes by what the host says of
the tag of the class.  If there is one, the attempt ends with it
(`Tracker.Attempt.of_tagged`); else it goes on (`Tracker.Admission.track_ok`) with two more
calls.  A command fails with a duplicate only where it has come to a class that has a tag
(`Tracker.Course.applied_of_duplicate`).
-/

set_option autoImplicit false

namespace ClassLiveness

variable {σ C S : Type}

namespace Tracker

open TrackerM

section

variable {host : Host σ C S} {handle : C} {session : S} {scene after : Scene σ C S} {told : σ}
  {result : Except Stop Tag}

/-- A class that has a tag is refused, and nothing else is done. -/
theorem Attempt.of_tagged {tag : Tag} (attempt : Attempt host session handle scene result after)
    (checked : scene.tracker.settings.checkDuplicates = true)
    (answered : host.answer (.tagOf session handle) scene.host = (.ok (some tag), told)) :
    result = .error (.error (.duplicateClass tag)) ∧
      after = scene.called (.tagOf session handle) none told := by
  have unscreened : ∀ screened, ¬Screened host session handle scene screened := by
    intro screened passed
    cases passed with
    | unchecked unchecked => cases checked.symm.trans unchecked
    | untagged _ untagged => cases answered.symm.trans untagged
  cases attempt with
  | unscreened _ failed => cases answered.symm.trans failed
  | duplicate _ found =>
      cases answered.symm.trans found
      exact ⟨rfl, rfl⟩
  | exhausted passed => exact absurd passed (unscreened _)
  | unnamed passed => exact absurd passed (unscreened _)
  | untagged passed => exact absurd passed (unscreened _)
  | clash passed => exact absurd passed (unscreened _)
  | tracked passed => exact absurd passed (unscreened _)

/-- A class that has no tag is not refused as a duplicate. -/
theorem Attempt.of_untagged (attempt : Attempt host session handle scene result after)
    (answered : host.answer (.tagOf session handle) scene.host = (.ok none, told)) (tag : Tag) :
    result ≠ .error (.error (.duplicateClass tag)) := by
  rintro rfl
  cases attempt with
  | duplicate _ found => cases answered.symm.trans found

theorem track_of_tagged {tag : Tag} (opened : scene.tracker.session = some session)
    (checked : scene.tracker.settings.checkDuplicates = true)
    (answered : host.answer (.tagOf session handle) scene.host = (.ok (some tag), told)) :
    track host handle scene =
      .error (.error (.duplicateClass tag)) (scene.called (.tagOf session handle) none told) := by
  have ends : (track host handle).Ends scene _ _ := track_ends opened
  cases tried : track host handle scene with
  | ok other after =>
      obtain ⟨impossible, -⟩ := (ends.ok tried).of_tagged checked answered
      cases impossible
  | error stop after =>
      obtain ⟨same, rfl⟩ := (ends.error tried).of_tagged checked answered
      cases same
      rfl

/-- A class that is admitted comes to be tracked with its record. -/
theorem Admission.track_ok {record : ClassRecord} {left : TagSupply} {last : σ}
    (admitted : Admission host session handle scene.tracker.settings.checkDuplicates
      scene.tracker.tags scene.host record left last)
    (sound : scene.tracker.Sound) (opened : scene.tracker.session = some session) :
    ∃ after, track host handle scene = .ok record.tag after ∧
      after.tracker.tracked = record :: scene.tracker.tracked := by
  have ends : (track host handle).Ends scene _ _ := track_ends opened
  cases tried : track host handle scene with
  | ok tag after =>
      obtain ⟨same, -, enlarged⟩ := admitted.attempt (ends.ok tried) sound opened
      cases same
      exact ⟨after, rfl, enlarged.tracked⟩
  | error stop after =>
      obtain ⟨impossible, -⟩ := admitted.attempt (ends.error tried) sound opened
      cases impossible

/-- The calls with which a class comes to be tracked, while duplicates are checked for. -/
def trackingCalls (session : S) (handle : C) (tag : Tag) : List (CallRecord C S) :=
  [⟨.tagOf session handle, none⟩, ⟨.signatureOf handle, none⟩, ⟨.setTag session handle tag, none⟩]

theorem Attempt.calls_of_ok {tag : Tag}
    (attempt : Attempt host session handle scene (.ok tag) after)
    (checked : scene.tracker.settings.checkDuplicates = true) :
    after.calls = scene.calls ++ trackingCalls session handle tag := by
  cases attempt with
  | tracked passed =>
      cases passed with
      | unchecked unchecked => cases checked.symm.trans unchecked
      | untagged =>
          change scene.calls ++ [_] ++ [_] ++ [_] = scene.calls ++ [_, _, _]
          simp only [List.append_assoc, List.cons_append, List.nil_append]

/-- An attempt takes back none of the calls. -/
theorem Attempt.calls_prefix (attempt : Attempt host session handle scene result after) :
    scene.calls <+: after.calls := by
  have screens : ∀ screened, Screened host session handle scene screened →
      scene.calls <+: screened.calls := by
    intro screened passed
    cases passed with
    | unchecked => exact List.prefix_refl _
    | untagged => exact List.prefix_append _ _
  cases attempt with
  | unscreened => exact List.prefix_append _ _
  | duplicate => exact List.prefix_append _ _
  | exhausted passed => exact screens _ passed
  | unnamed passed => exact (screens _ passed).trans (List.prefix_append _ _)
  | untagged passed | clash passed | tracked passed =>
      exact (screens _ passed).trans ((List.prefix_append _ _).trans (List.prefix_append _ _))

/-- Tracking a list of classes takes back none of the calls and none of the records. -/
theorem trackAll_onwards (handles : List C) (sound : scene.tracker.Sound)
    (opened : scene.tracker.session = some session) :
    (trackAll host handles).Ends scene
      (fun _ last => scene.calls <+: last.calls ∧ scene.tracker.tracked <:+ last.tracker.tracked)
      (fun _ last =>
        scene.calls <+: last.calls ∧ scene.tracker.tracked <:+ last.tracker.tracked) := by
  refine (trackAll_keeps (fun now => now.tracker.Sound ∧ scene.calls <+: now.calls ∧
    scene.tracker.tracked <:+ now.tracker.tracked) ?_ handles opened
      ⟨sound, List.prefix_refl _, List.suffix_refl _⟩).mono
    (fun _ _ kept => kept.2) (fun _ _ kept => kept.2)
  rintro now other result later openedNow ⟨soundNow, calls, tracked⟩ attempt
  obtain ⟨kept, soundLater⟩ := attempt.bookkeeping soundNow openedNow
  obtain ⟨fresh, grown⟩ := kept.grown
  refine ⟨soundLater, calls.trans attempt.calls_prefix, tracked.trans ⟨fresh, ?_⟩⟩
  exact grown.tracked.symm

/-- A command that fails with a duplicate has come to a class that has a tag. -/
theorem Course.applied_of_duplicate {tracker : Tracker S} {state : σ} {command : Command C}
    {tag : Tag}
    (course : Course host (.start tracker state) command (.error (.error (.duplicateClass tag)))
      after) :
    ∃ handle session scene told, Applied host tracker state command handle session scene ∧
      host.answer (.tagOf session handle) scene.host = (.ok (some tag), told) := by
  cases course with
  | refused refuses =>
      obtain impossible | impossible | impossible := refuses.isRefusal <;> cases impossible
  | unstarted usable closed populated =>
      cases populated with
      | halted opening listing stopped =>
          obtain ⟨handle, scene, applied, attempt⟩ :=
            Applied.of_halted usable closed opening listing stopped
          cases attempt with
          | duplicate _ answered => exact ⟨handle, _, scene, _, applied, answered⟩
  | unadded usable opened attempt =>
      cases attempt with
      | duplicate _ answered => exact ⟨_, _, _, _, .added usable opened, answered⟩
  | unpassed _ _ _ inspection =>
      cases inspection with
      | failed _ failed =>
          obtain ⟨_, impossible⟩ | ⟨_, _, impossible⟩ := isVerdict_of_inquest failed <;>
            cases impossible

end

end Tracker

end ClassLiveness

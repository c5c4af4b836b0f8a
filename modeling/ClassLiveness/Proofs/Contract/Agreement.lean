import ClassLiveness.Proofs.Contract.Attribution

/-!
# The session says what the calls say

As long as a tracker is not poisoned, the tags that its session has given are those
that its calls have hung on classes (`Agrees`).  A class that
comes to be tracked has its tag in both (`Tracker.Attempt.upheld`): the check for
duplicates has found that it had none before (`Tracker.Screened.fresh`).

An attempt that stops may leave the session and the calls at odds, for nothing is
promised of a call that fails.  But the tracker is poisoned by it, and asks its session
nothing more (`Tracker.Attempt.shaken`).
-/

set_option autoImplicit false

namespace ClassLiveness

variable {σ C S : Type}

/-- The session is open, and the tags that it has given are those of the calls. -/
def Agrees {host : Host σ C S} (contract : SessionContract host) (settings : Settings)
    (session : S) (state : σ) (log : List (CallRecord C S)) : Prop :=
  ∃ given, contract.tags state session = some given ∧
    (Undisputed settings log → ∀ handle tag, given handle = some tag ↔ (handle, tag) ∈ marks log)

/-- In a scene of a tracker with a session the host is lawful, the records are
attributed and the session agrees with the calls. -/
structure Upheld {host : Host σ C S} (contract : SessionContract host) (settings : Settings)
    (session : S) (log : List (CallRecord C S)) (scene : Scene σ C S) : Prop where
  opened : scene.tracker.session = some session
  lawful : contract.lawful scene.host
  attributed : Attributed settings scene.tracker (log ++ scene.calls)
  agrees : Agrees contract settings session scene.host (log ++ scene.calls)

/-- An operation was stopped in a scene.  The session need not agree with the calls
if the tracker is poisoned by it. -/
structure Shaken {host : Host σ C S} (contract : SessionContract host) (settings : Settings)
    (session : S) (log : List (CallRecord C S)) (stop : Stop) (scene : Scene σ C S) : Prop where
  opened : scene.tracker.session = some session
  lawful : contract.lawful scene.host
  attributed : Attributed settings scene.tracker (log ++ scene.calls)
  agrees : (scene.settled stop).tracker.poisoned = false →
    Agrees contract settings session scene.host (log ++ scene.calls)

section

variable {host : Host σ C S} {contract : SessionContract host} {settings : Settings} {session : S}
  {log : List (CallRecord C S)} {handle : C} {before after : Scene σ C S}

theorem Agrees.unmarked {state : σ} {more : List (CallRecord C S)}
    (agrees : Agrees contract settings session state log) (none : marks more = []) :
    Agrees contract settings session state (log ++ more) := by
  obtain ⟨given, opened, same⟩ := agrees
  refine ⟨given, opened, fun undisputed handle tag => ?_⟩
  rw [marks_append, none, List.append_nil]
  exact same undisputed.of_append handle tag

/-- A call that leaves the tags of all sessions alone hangs no tag. -/
theorem marks_of_leavesTags (call : Call C S) (leaves : call.leavesTags = true)
    (failure? : Option HostError) : marks [⟨call, failure?⟩] = [] := by
  cases call <;> first | rfl | cases leaves

theorem marks_of_failed (call : Call C S) (failure : HostError) :
    marks [⟨call, some failure⟩] = [] := by
  cases call <;> rfl

/-- A call that leaves the tags of all sessions alone upholds everything. -/
theorem Upheld.called {call : Call C S} {reply : call.Reply} {state : σ}
    (upheld : Upheld contract settings session log before) (leaves : call.leavesTags = true)
    (answered : host.answer call before.host = (.ok reply, state)) :
    Upheld contract settings session log (before.called call none state) := by
  have none := marks_of_leavesTags call leaves none
  have sameTags := contract.leaves upheld.lawful leaves answered
  refine ⟨upheld.opened, contract.lawful_of_answer upheld.lawful answered, ?_, ?_⟩
  · exact upheld.attributed.called none
  · rw [Scene.calls_called, ← List.append_assoc]
    obtain ⟨given, opened, same⟩ := upheld.agrees.unmarked none
    refine ⟨given, ?_, same⟩
    rw [Scene.host_called, sameTags]
    exact opened

/-- After a call that fails the records are attributed, and the host is lawful. -/
theorem Upheld.failed {call : Call C S} {failure : HostError} {state : σ}
    (upheld : Upheld contract settings session log before)
    (failed : host.answer call before.host = (.error failure, state)) :
    Shaken contract settings session log (.error (.host call.op failure))
      (before.called call (some failure) state) := by
  refine ⟨upheld.opened, contract.lawful_of_answer upheld.lawful failed, ?_, ?_⟩
  · exact upheld.attributed.called (marks_of_failed call failure)
  · intro usable
    cases usable

/-- After a class has got its first tag, the tags of the session are still those of
the calls. -/
theorem given_iff_of_write {given givenAfter : C → Option Tag} {tag : Tag}
    (same : ∀ other otherTag, given other = some otherTag ↔ (other, otherTag) ∈ marks log)
    (unmarked : ∀ other, (handle, other) ∉ marks log) (here : givenAfter handle = some tag)
    (elsewhere : ∀ other, other ≠ handle → givenAfter other = given other) (other : C)
    (otherTag : Tag) :
    givenAfter other = some otherTag ↔ (other, otherTag) ∈ marks log ++ [(handle, tag)] := by
  rw [List.mem_append, List.mem_singleton]
  by_cases sameClass : other = handle
  · subst sameClass
    rw [here]
    constructor
    · intro isTag
      cases isTag
      exact .inr rfl
    · rintro (marked | last)
      · exact absurd marked (unmarked otherTag)
      · cases last
        rfl
  · rw [elsewhere other sameClass, same]
    constructor
    · exact .inl
    · rintro (marked | last)
      · exact marked
      · cases last
        exact absurd rfl sameClass

/-- A tag may be taken. -/
theorem Upheld.supplied {tag : Tag} {tags : TagSupply}
    (upheld : Upheld contract settings session log before)
    (taken : before.tracker.tags.allocate = .ok (tag, tags)) :
    Upheld contract settings session log (before.supplied tags) := by
  obtain ⟨-, allocated⟩ := TagSupply.allocate_ok taken
  refine ⟨upheld.opened, upheld.lawful, ?_, upheld.agrees⟩
  refine upheld.attributed.shrink (upheld.attributed.sound.spend taken) rfl id
    (fun _ member => member) ?_
  change before.tracker.tags.allocated ≤ tags.allocated
  omega

namespace Tracker

/-! ## An attempt to track a class -/

theorem Screened.upheld {screened : Scene σ C S}
    (passed : Screened host session handle before screened)
    (upheld : Upheld contract settings session log before) :
    Upheld contract settings session log screened := by
  cases passed with
  | unchecked => exact upheld
  | untagged _ told => exact upheld.called rfl told

/-- A class that passes the check for duplicates, and is not given twice, has got no
tag in the session. -/
theorem Screened.fresh {screened : Scene σ C S}
    (passed : Screened host session handle before screened)
    (upheld : Upheld contract settings session log before)
    (undisputed : Undisputed settings (log ++ screened.calls ++ [⟨.signatureOf handle, none⟩]))
    (tag : Tag) : (handle, tag) ∉ marks (log ++ screened.calls) := by
  intro marked
  cases passed with
  | unchecked unchecked =>
      rw [upheld.attributed.settings_eq] at unchecked
      rcases undisputed with checked | distinct
      · cases unchecked.symm.trans checked
      · -- A class that is marked was offered before, and now it would be offered again.
        rw [offered_append] at distinct
        have apart := (List.nodup_append.mp distinct).2.2
        exact apart handle (upheld.attributed.named _ marked) handle
          (List.mem_singleton_self handle) rfl
  | untagged checked told =>
      obtain ⟨given, opened, same⟩ := upheld.agrees
      have untold := contract.reads upheld.lawful opened told
      rw [Scene.calls_called, ← List.append_assoc, marks_append,
        marks_of_leavesTags (.tagOf session handle) rfl, List.append_nil] at marked
      have wasUndisputed : Undisputed settings (log ++ before.calls) := by
        rw [Scene.calls_called, ← List.append_assoc] at undisputed
        exact undisputed.of_append.of_append
      cases untold.trans ((same wasUndisputed handle tag).mpr marked)

/-- A class that comes to be tracked has its tag in the session and in the calls. -/
theorem Attempt.upheld {tag : Tag} (attempt : Attempt host session handle before (.ok tag) after)
    (upheld : Upheld contract settings session log before) :
    Upheld contract settings session log after := by
  cases attempt with
  | @tracked screened _ tags signature named state registry passed taken naming tagging pushed =>
      have upheldScreened := passed.upheld upheld
      have upheldNamed := (upheldScreened.supplied taken).called rfl naming
      have unmarked := passed.fresh upheld
      have attributed := upheldScreened.attributed.mark upheldScreened.opened taken pushed unmarked
      obtain ⟨given, openBefore, same⟩ := upheldScreened.agrees
      have sameTags := contract.leaves upheldScreened.lawful rfl naming
      obtain ⟨givenAfter, openAfter, here, elsewhere⟩ :=
        contract.writes upheldNamed.lawful ((congrFun sameTags session).trans openBefore) tagging
      have lawful := contract.lawful_of_answer upheldNamed.lawful tagging
      have grown : log ++ (screened.calls ++ [⟨.signatureOf handle, none⟩] ++
          [⟨.setTag session handle tag, none⟩]) = log ++ screened.calls ++
            [⟨.signatureOf handle, none⟩] ++ [⟨.setTag session handle tag, none⟩] := by
        simp only [List.append_assoc]
      refine ⟨upheldScreened.opened, lawful, grown ▸ attributed, ?_⟩
      change Agrees contract settings session state (log ++ (screened.calls ++
        [⟨.signatureOf handle, none⟩] ++ [⟨.setTag session handle tag, none⟩]))
      rw [grown]
      refine ⟨givenAfter, openAfter, fun undisputed => ?_⟩
      rw [marks_tagged]
      exact given_iff_of_write (same undisputed.of_append.of_append)
        (unmarked undisputed.of_append) here elsewhere

/-- However an attempt to track a class is stopped, the records stay attributed. -/
theorem Attempt.shaken {stop : Stop}
    (attempt : Attempt host session handle before (.error stop) after)
    (upheld : Upheld contract settings session log before) :
    Shaken contract settings session log stop after := by
  cases attempt with
  | unscreened _ failed => exact upheld.failed failed
  | duplicate _ told =>
      have upheldAfter := upheld.called rfl told
      exact ⟨upheldAfter.opened, upheldAfter.lawful, upheldAfter.attributed,
        fun usable => by cases usable⟩
  | exhausted passed =>
      have upheldAfter := passed.upheld upheld
      exact ⟨upheldAfter.opened, upheldAfter.lawful, upheldAfter.attributed,
        fun _ => upheldAfter.agrees⟩
  | unnamed passed taken failed =>
      exact ((passed.upheld upheld).supplied taken).failed failed
  | untagged passed taken naming failed =>
      have named := ((passed.upheld upheld).supplied taken).called rfl naming
      exact named.failed failed
  | clash passed taken _ _ refused =>
      have upheldScreened := passed.upheld upheld
      exact (upheldScreened.attributed.sound.not_refused taken upheldScreened.opened refused).elim

theorem trackAll_upheld (handles : List C) {scene : Scene σ C S}
    (upheld : Upheld contract settings session log scene) :
    (trackAll host handles).Ends scene
      (fun _ => Upheld contract settings session log)
      (Shaken contract settings session log) := by
  refine (trackAll_ends (Upheld contract settings session log) _ ?_ ?_ handles upheld.opened
    upheld).mono (fun _ _ kept => kept.2) (fun _ _ shaken => shaken)
  · intro _ _ _ _ _ kept attempt
    exact attempt.upheld kept
  · intro _ _ _ _ _ kept attempt
    exact attempt.shaken kept

end Tracker

end

end ClassLiveness

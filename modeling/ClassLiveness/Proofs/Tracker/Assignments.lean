import ClassLiveness.Proofs.Contract.Sessions
import ClassLiveness.Proofs.Tracker.Conservation
import ClassLiveness.Proofs.Tracker.Transcript

/-!
# The tags of a history in their order

The tags that a command assigns are those that it hangs on classes.  Its new records have
just these tags (`Tracker.Tallied`), and a tag that it is handed and does not assign is
spent, and is its last (`Tracker.Episode.handedOut`).

So what the episodes of a history are handed, one after the other, are the numbers from
one in their order (`Tracker.handedOut_eq`).  Whatever else happens, no number is handed out
twice or late.
-/

set_option autoImplicit false

namespace ClassLiveness

variable {σ C S : Type}

/-- The tags that calls have hung on classes, in their order. -/
def assignedIn (calls : List (CallRecord C S)) : List Tag := (marks calls).map Prod.snd

theorem assignedIn_append (calls more : List (CallRecord C S)) :
    assignedIn (calls ++ more) = assignedIn calls ++ assignedIn more := by
  rw [assignedIn, marks_append, List.map_append]
  rfl

theorem assignedIn_tagged (calls : List (CallRecord C S)) (session : S) (handle : C) (tag : Tag) :
    assignedIn (calls ++ [⟨.signatureOf handle, none⟩] ++ [⟨.setTag session handle tag, none⟩]) =
      assignedIn calls ++ [tag] := by
  rw [assignedIn, marks_tagged, List.map_append]
  rfl

/-- A call that hangs no tag on a class assigns none. -/
theorem assignedIn_unmarked (calls : List (CallRecord C S)) {record : CallRecord C S}
    (unmarked : record.mark? = none) : assignedIn (calls ++ [record]) = assignedIn calls := by
  have nothing : assignedIn [record] = [] := by
    rw [assignedIn, marks, List.filterMap_cons, unmarked]
    rfl
  rw [assignedIn_append, nothing, List.append_nil]

namespace Tracker

/-! ## Assigned tags and new records -/

/-- The records that a scene has more than a tracker have the tags that the calls in the
scene have assigned. -/
def Tallied (first : Tracker S) (scene : Scene σ C S) : Prop :=
  scene.tracker.tracked.map ClassRecord.tag =
    (assignedIn scene.calls).reverse ++ first.tracked.map ClassRecord.tag

section

variable {host : Host σ C S} {session : S} {handle : C} {first : Tracker S}
  {before after : Scene σ C S}

theorem Screened.assigned_eq (passed : Screened host session handle before after) :
    assignedIn after.calls = assignedIn before.calls := by
  cases passed with
  | unchecked => rfl
  | untagged => exact assignedIn_unmarked _ rfl

/-- What an attempt to track a class assigns is the tag with which it succeeds. -/
theorem Attempt.assigned_eq {result : Except Stop Tag} (sound : before.tracker.Sound)
    (opened : before.tracker.session = some session)
    (attempt : Attempt host session handle before result after) :
    assignedIn after.calls = assignedIn before.calls ++ result.toOption.toList := by
  cases attempt with
  | unscreened => exact (assignedIn_unmarked _ rfl).trans (List.append_nil _).symm
  | duplicate => exact (assignedIn_unmarked _ rfl).trans (List.append_nil _).symm
  | exhausted passed => exact passed.assigned_eq.trans (List.append_nil _).symm
  | unnamed passed =>
      rw [← passed.assigned_eq]
      exact (assignedIn_unmarked _ rfl).trans (List.append_nil _).symm
  | untagged passed =>
      rw [← passed.assigned_eq]
      refine (assignedIn_unmarked _ rfl).trans ?_
      exact (assignedIn_unmarked _ rfl).trans (List.append_nil _).symm
  | clash passed taken _ _ refused =>
      exact ((passed.sound sound).not_refused taken (passed.opened opened) refused).elim
  | tracked passed =>
      rw [← passed.assigned_eq]
      exact assignedIn_tagged _ _ _ _

/-- A new record has the tag that was assigned for it. -/
theorem Attempt.tallied {result : Except Stop Tag} (sound : before.tracker.Sound)
    (opened : before.tracker.session = some session)
    (attempt : Attempt host session handle before result after) (tallied : Tallied first before) :
    Tallied first after := by
  have assigned := attempt.assigned_eq sound opened
  obtain ⟨kept, -⟩ := attempt.bookkeeping sound opened
  rw [Tallied, assigned, List.reverse_append, List.append_assoc, ← tallied]
  cases result with
  | error stop => exact congrArg (List.map ClassRecord.tag) kept.of_error.1
  | ok tag =>
      obtain ⟨signature, records⟩ := kept.of_ok
      exact congrArg (List.map ClassRecord.tag) records

theorem trackAll_tallied (handles : List C) {scene : Scene σ C S} (sound : scene.tracker.Sound)
    (opened : scene.tracker.session = some session) (tallied : Tallied first scene) :
    (trackAll host handles).Ends scene
      (fun _ after => Tallied first after) (fun _ after => Tallied first after) := by
  refine (trackAll_keeps (fun now => now.tracker.Sound ∧ Tallied first now) ?_ handles opened
    ⟨sound, tallied⟩).mono (fun _ _ both => both.2) (fun _ _ both => both.2)
  rintro now _ _ _ openedNow ⟨soundNow, talliedNow⟩ attempt
  have soundAfter := (attempt.bookkeeping soundNow openedNow).2
  exact ⟨soundAfter, attempt.tallied soundNow openedNow talliedNow⟩

theorem Tallied.called {scene : Scene σ C S} (tallied : Tallied first scene) {call : Call C S}
    {failure? : Option HostError} (unmarked : CallRecord.mark? ⟨call, failure?⟩ = none)
    (state : σ) : Tallied first (scene.called call failure? state) := by
  rw [Tallied, Scene.calls_called, assignedIn_unmarked _ unmarked]
  exact tallied

/-- The records of a startup enumeration have the tags that were assigned for them. -/
theorem Population.tallied {result : Except Stop Unit}
    (populated : Population host before result after) (nothing : first.tracked = [])
    (quiet : before.calls = []) : Tallied first after := by
  have emptied : Tallied first (before.registered before.tracker.registry.clear) := by
    have noRecords : (before.registered before.tracker.registry.clear).tracker.tracked = [] :=
      Registry.Keeps.empty.records_eq
    have noCalls : (before.registered before.tracker.registry.clear).calls = [] := quiet
    rw [Tallied, nothing, noRecords, noCalls]
    rfl
  have opened : ∀ session state, Tallied first (((before.registered
      before.tracker.registry.clear).called .openSession none state).opened session) := by
    intro session state
    exact emptied.called rfl state
  have listed : ∀ session opening state, Tallied first (before.listed session opening state) := by
    intro session opening state
    exact (opened session opening).called rfl state
  cases populated with
  | unopened => exact emptied.called rfl _
  | unlisted => exact (opened _ _).called rfl _
  | halted _ _ stopped =>
      exact (trackAll_tallied _ (.of_empty rfl) rfl (listed _ _ _)).error stopped
  | complete _ _ tracked =>
      have talliedAfter := (trackAll_tallied _ (.of_empty rfl) rfl (listed _ _ _)).ok tracked
      exact talliedAfter

/-- A tracker that has grown has assigned the tags of the fresh records, from the oldest. -/
theorem Tallied.of_grown {scene : Scene σ C S} {fresh : List ClassRecord} {spent : Nat}
    (tallied : Tallied first scene) (grown : Grown first scene.tracker fresh spent) :
    assignedIn scene.calls = (fresh.map ClassRecord.tag).reverse := by
  rw [Tallied, grown.tracked, List.map_append] at tallied
  rw [List.append_cancel_right tallied, List.reverse_reverse]

theorem Tallied.settled {scene : Scene σ C S} (tallied : Tallied first scene) (stop : Stop) :
    Tallied first (scene.settled stop) := by
  rw [Tallied, Scene.calls, Scene.dialogue_settled, Scene.tracker_settled]
  exact tallied

end

/-! ## What a command assigns -/

/-- What a command does with the tags that it is handed.  It assigns them to fresh records,
and may spend one more on none; or it is handed no tags. -/
inductive Assigns (before : Tracker S) (result : Except Stop Reply)
    (calls : List (CallRecord C S)) : Tracker S → Prop where
  | grown {after : Tracker S} {fresh : List ClassRecord} :
      Grown before after fresh (tagsSpent result) →
      assignedIn calls = (fresh.map ClassRecord.tag).reverse → Assigns before result calls after
  | quiet {after : Tracker S} : after.tags = before.tags → tagsSpent result = 0 →
      after.tracked.Sublist before.tracked → assignedIn calls = [] →
        Assigns before result calls after

section

variable {host : Host σ C S} {tracker : Tracker S} {state : σ} {command : Command C}

/-- A pass hangs no tag on a class. -/
theorem assignedIn_of_isPass (isPass : command = .processUnloads ∨ command = .processPendingUnloads)
    {calls : List (CallRecord C S)}
    (made : ∀ record ∈ calls, MayMake host tracker state command record.call) :
    assignedIn calls = [] := by
  have unmarked : marks calls = [] := by
    rw [marks, List.filterMap_eq_nil_iff]
    rintro ⟨call, failure?⟩ member
    have counting := made _ member
    obtain rfl | rfl := isPass <;> cases counting <;> rfl
  rw [assignedIn, unmarked, List.map_nil]

theorem Course.assigns {result : Except Stop Reply} {after : Scene σ C S} (sound : tracker.Sound)
    (course : Course host (.start tracker state) command result after)
    (made : ∀ record ∈ after.calls, MayMake host tracker state command record.call) :
    Assigns tracker result after.calls after.tracker := by
  have start : Tallied tracker (.start tracker state : Scene σ C S) := rfl
  have emptied : (Registry.empty).records.Sublist tracker.tracked := by
    rw [Registry.Keeps.empty.records_eq]
    exact List.nil_sublist _
  cases course with
  | refused refuses =>
      obtain rfl | rfl | rfl := refuses.isRefusal <;>
        exact .grown (.of_same rfl rfl rfl) rfl
  | viewed => exact .grown (.of_same rfl rfl rfl) rfl
  | noted => exact .grown (.of_same rfl rfl rfl) rfl
  | started usable closed populated =>
      obtain ⟨-, fresh, grown⟩ := populated.grown sound closed
      have tallied := populated.tallied (sound.uninitialized closed) rfl
      exact .grown grown (tallied.of_grown grown)
  | unstarted usable closed populated =>
      obtain ⟨-, fresh, grown⟩ := populated.grown sound closed
      have tallied := populated.tallied (sound.uninitialized closed) rfl
      exact .grown (grown.settled _) ((tallied.settled _).of_grown (grown.settled _))
  | added usable opened attempt =>
      obtain ⟨kept, -⟩ := attempt.bookkeeping sound opened
      obtain ⟨fresh, grown⟩ := kept.grown
      exact .grown grown ((attempt.tallied sound opened start).of_grown grown)
  | unadded usable opened attempt =>
      obtain ⟨kept, -⟩ := attempt.bookkeeping sound opened
      obtain ⟨fresh, grown⟩ := kept.grown
      have tallied := attempt.tallied sound opened start
      exact .grown (grown.settled _) ((tallied.settled _).of_grown (grown.settled _))
  | passed isPass usable opened inspection =>
      have assigned := assignedIn_of_isPass isPass made
      cases inspection with
      | completed fits answered keeps => exact .quiet rfl rfl (sublist_of_inquest keeps) assigned
  | unpassed isPass usable opened inspection =>
      have assigned := assignedIn_of_isPass isPass made
      cases inspection with
      | overfull => exact .quiet rfl rfl (List.Sublist.refl _) assigned
      | failed fits failed keeps =>
          have verdict := isVerdict_of_inquest failed
          exact .quiet rfl (tagsSpent_of_isVerdict verdict) (sublist_of_inquest keeps) assigned
  | resetUnopened => exact .quiet rfl rfl emptied rfl
  | resetClosed => exact .quiet rfl rfl emptied rfl
  | resetUnclosed => exact .quiet rfl rfl emptied rfl

/-- **A command assigns the tags that it is handed to fresh records**, but for one that it
may spend. -/
theorem perform_assigns (sound : tracker.Sound) (host : Host σ C S) (command : Command C)
    (state : σ) :
    Assigns tracker (tracker.perform host command state).result
      (tracker.perform host command state).calls (tracker.perform host command state).tracker := by
  obtain ⟨after, outcome, course⟩ := perform_course host command tracker state sound.keeps
  have made := mayMake_of_mem_calls host command state sound.keeps
  rw [outcome] at made ⊢
  exact course.assigns sound made

/-- The tag that an addition gives is the one that it has assigned. -/
theorem assignedIn_of_tag (sound : tracker.Sound) {tag : Tag}
    (added : (tracker.perform host command state).result = .ok (.tag tag)) :
    assignedIn (tracker.perform host command state).calls = [tag] := by
  obtain ⟨after, outcome, course⟩ := perform_course host command tracker state sound.keeps
  have sameCalls := congrArg Outcome.calls outcome
  rw [sameCalls]
  rw [added] at course
  cases course with
  | viewed _ _ view => cases view
  | added usable opened attempt => exact attempt.assigned_eq sound opened

end

/-! ## Episodes -/

namespace Episode

variable (lived : Episode σ C S)

/-- The tags that are assigned in the episode. -/
def assigned : List Tag := assignedIn lived.outcome.calls

/-- The numbers of the tags that are handed out in the episode: those that are assigned,
and then the one that is spent. -/
def handedOut : List Nat := lived.assigned.map Tag.number ++ lived.spent

end Episode

namespace Assigns

variable {host : Host σ C S} {lived : Episode σ C S}

/-- What is handed out in an episode are the next numbers in their order. -/
theorem handedOut_eq (honest : Honest lived.outcome.result lived.outcome.calls)
    (assigns : Assigns lived.before lived.outcome.result lived.outcome.calls lived.after) :
    lived.handedOut = List.range' (lived.before.tags.allocated + 1)
      (lived.after.tags.allocated - lived.before.tags.allocated) := by
  cases assigns with
  | @grown fresh grown assigned =>
      have allocated := grown.allocated
      have spent : lived.spent = List.range' (lived.before.tags.allocated + 1 + fresh.length)
          (tagsSpent lived.outcome.result) := Episode.spent_eq honest (by omega)
      have numbered : lived.assigned.map Tag.number =
          List.range' (lived.before.tags.allocated + 1) fresh.length := by
        rw [Episode.assigned, assigned, List.map_reverse, List.map_map]
        exact grown.numbers
      have many : lived.after.tags.allocated - lived.before.tags.allocated =
          fresh.length + tagsSpent lived.outcome.result := by omega
      rw [Episode.handedOut, numbered, spent, many]
      exact List.range'_append_1
  | quiet sameTags spends _ assigned =>
      rw [Episode.handedOut, Episode.assigned, assigned, Episode.spent_eq_nil honest spends,
        sameTags, Nat.sub_self]
      rfl

/-- An assigned tag is above all that were handed out before the episode. -/
theorem assigned_bounds (honest : Honest lived.outcome.result lived.outcome.calls)
    (assigns : Assigns lived.before lived.outcome.result lived.outcome.calls lived.after) :
    ∀ tag ∈ lived.assigned, lived.before.tags.allocated < tag.number ∧
      tag.number ≤ lived.after.tags.allocated := by
  intro tag assigned
  have handedOut : tag.number ∈ lived.handedOut :=
    List.mem_append_left _ (List.mem_map_of_mem assigned)
  rw [assigns.handedOut_eq honest] at handedOut
  have bounds := List.mem_range'_1.mp handedOut
  omega

/-- No tag is assigned twice in an episode. -/
theorem assigned_nodup (honest : Honest lived.outcome.result lived.outcome.calls)
    (assigns : Assigns lived.before lived.outcome.result lived.outcome.calls lived.after) :
    lived.assigned.Nodup := by
  have handedOut : lived.handedOut.Nodup := by
    rw [assigns.handedOut_eq honest]
    exact List.nodup_range' 1
  exact (List.nodup_append.mp handedOut).1.of_map _

/-- A record that is tracked after an episode was tracked before, or has a tag that was
assigned in the episode. -/
theorem tracked_or_assigned
    (assigns : Assigns lived.before lived.outcome.result lived.outcome.calls lived.after)
    {record : ClassRecord} (member : record ∈ lived.after.tracked) :
    record ∈ lived.before.tracked ∨ record.tag ∈ lived.assigned := by
  cases assigns with
  | grown grown assigned =>
      rw [grown.tracked] at member
      rcases List.mem_append.mp member with isFresh | wasTracked
      · rw [Episode.assigned, assigned, List.mem_reverse]
        exact .inr (List.mem_map_of_mem isFresh)
      · exact .inl wasTracked
  | quiet _ _ fewer => exact .inl (fewer.subset member)

end Assigns

theorem assigns_of_mem {host : Host σ C S} {settings : Settings} {history : List (Command C × σ)}
    {lived : Episode σ C S} (member : lived ∈ episodes host (new settings) history) :
    Assigns lived.before lived.outcome.result lived.outcome.calls lived.after := by
  obtain ⟨tracker, command, state, reached, rfl⟩ := mem_episodes member
  exact perform_assigns reached.sound host command state

/-- An addition gives the one tag that it has assigned. -/
theorem assigned_of_tag {host : Host σ C S} {settings : Settings} {history : List (Command C × σ)}
    {lived : Episode σ C S} (member : lived ∈ episodes host (new settings) history) {tag : Tag}
    (added : lived.outcome.result = .ok (.tag tag)) : lived.assigned = [tag] := by
  obtain ⟨tracker, command, state, reached, rfl⟩ := mem_episodes member
  exact assignedIn_of_tag reached.sound added

/-- **What a tracker is handed over its whole life are the numbers from one in their
order.** -/
theorem handedOut_eq (host : Host σ C S) (settings : Settings) (history : List (Command C × σ)) :
    (episodes host (new settings) history).flatMap Episode.handedOut =
      List.range' 1 (afterAll host (new settings) history).tags.allocated := by
  induction history using List.reverseRecOn with
  | nil =>
      rw [episodes, afterAll]
      rfl
  | append_singleton earlier entry ih =>
      obtain ⟨command, state⟩ := entry
      have reached : Reachable host settings (afterAll host (new settings) earlier) :=
        ⟨earlier, rfl⟩
      rw [afterAll_snoc, episodes_snoc, List.flatMap_append, List.flatMap_singleton, ih]
      generalize afterAll host (new settings) earlier = before at reached ⊢
      have legal := episode_legal host reached.sound command state
      have assigns := perform_assigns reached.sound host command state
      have next : (episode host before command state).handedOut =
          List.range' (before.tags.allocated + 1)
            ((before.perform host command state).tracker.tags.allocated - before.tags.allocated) :=
        Assigns.handedOut_eq legal.honest assigns
      have more : before.tags.allocated ≤
          (before.perform host command state).tracker.tags.allocated :=
        legal.entry.allocated_le
      rw [next, Nat.add_comm before.tags.allocated 1, List.range'_append_1,
        Nat.add_sub_cancel' more]

end Tracker

end ClassLiveness

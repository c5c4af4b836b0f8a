import ClassLiveness.Proofs.Tracker.Books

/-!
# What it takes to add a class

Whether a class comes to be tracked, and under which tag, depends on the answers of the host
and on the supply of tags, and on nothing else of the tracker (`Tracker.Admission`).  In
particular it does not depend on the records that are tracked, so two trackers in one session
that differ in these come to track the same classes under the same tags
(`Tracker.admission_of_ok`, `Tracker.Admission.perform`).
-/

set_option autoImplicit false

namespace ClassLiveness

namespace Tracker

variable {σ C S : Type}

/-- A class passes the check for duplicates, if there is one, and the host comes into a
state. -/
inductive Passes (host : Host σ C S) (session : S) (handle : C) (state : σ) :
    Bool → σ → Prop where
  | unchecked : Passes host session handle state false state
  | untagged {after : σ} : host.answer (.tagOf session handle) state = (.ok none, after) →
      Passes host session handle state true after

/-- A class is admitted with a record: it passes the check for duplicates, there is a tag for
it, and the host gives its signature and hangs the tag on it. -/
inductive Admission (host : Host σ C S) (session : S) (handle : C) (checked : Bool)
    (tags : TagSupply) (state : σ) : ClassRecord → TagSupply → σ → Prop where
  | intro {screened named after : σ} {tag : Tag} {left : TagSupply} {signature : String} :
      Passes host session handle state checked screened →
      tags.allocate = .ok (tag, left) →
      host.answer (.signatureOf handle) screened = (.ok signature, named) →
      host.answer (.setTag session handle tag) named = (.ok (), after) →
        Admission host session handle checked tags state ⟨tag, signature⟩ left after

/-- A tracker has a record more, and nothing else is changed but the supply of tags. -/
structure Enlarged (before after : Tracker S) (record : ClassRecord) (left : TagSupply) :
    Prop where
  sound : after.Sound
  tracked : after.tracked = record :: before.tracked
  tags : after.tags = left
  session : after.session = before.session
  settings : after.settings = before.settings
  poisoned : after.poisoned = before.poisoned
  passes : after.passes = before.passes

section

variable {host : Host σ C S} {session : S} {handle : C} {before after : Scene σ C S}
  {record : ClassRecord} {left : TagSupply} {state : σ}

/-- The check for duplicates lets a class pass in one way only. -/
theorem Screened.passes {screened : Scene σ C S}
    (passed : Screened host session handle before screened) :
    Passes host session handle before.host before.tracker.settings.checkDuplicates
      screened.host := by
  cases passed with
  | unchecked unchecked =>
      rw [unchecked]
      exact .unchecked
  | untagged checked untagged =>
      rw [checked]
      exact .untagged untagged

theorem Passes.unique {checked : Bool} {first second : σ}
    (one : Passes host session handle state checked first)
    (other : Passes host session handle state checked second) : first = second := by
  cases one with
  | unchecked =>
      cases other
      rfl
  | untagged told =>
      cases other with
      | untagged toldOther =>
          cases told.symm.trans toldOther
          rfl

/-- An attempt that succeeds is an admission. -/
theorem Attempt.admission {tag : Tag} (attempt : Attempt host session handle before (.ok tag) after)
    (sound : before.tracker.Sound) (opened : before.tracker.session = some session) :
    ∃ record left, record.tag = tag ∧
      Admission host session handle before.tracker.settings.checkDuplicates before.tracker.tags
        before.host record left after.host ∧
      Enlarged before.tracker after.tracker record left := by
  have soundAfter := (attempt.bookkeeping sound opened).2
  cases attempt with
  | @tracked screened _ tags signature _ _ registry passed taken named tagged pushed =>
      have same := passed.tracker_eq
      have takenBefore := taken
      rw [same] at takenBefore
      rw [same] at pushed
      obtain ⟨records, -⟩ := sound.of_push takenBefore opened pushed
      exact ⟨⟨tag, signature⟩, tags, rfl, .intro passed.passes takenBefore named tagged,
        soundAfter, records, rfl, congrArg (·.session) same, congrArg (·.settings) same,
        congrArg (·.poisoned) same, congrArg (·.passes) same⟩

/-- **A class that is admitted comes to be tracked with its record**, however the attempt
ends. -/
theorem Admission.attempt {result : Except Stop Tag}
    (admitted : Admission host session handle before.tracker.settings.checkDuplicates
      before.tracker.tags before.host record left state)
    (attempt : Attempt host session handle before result after) (sound : before.tracker.Sound)
    (opened : before.tracker.session = some session) :
    result = .ok record.tag ∧ after.host = state ∧
      Enlarged before.tracker after.tracker record left := by
  cases admitted with
  | @intro screenedState named _ tag _ signature passes taken naming tagging =>
      have screenedHost : ∀ {screened : Scene σ C S},
          Screened host session handle before screened → screened.host = screenedState :=
        fun passed => passed.passes.unique passes
      obtain ⟨registry, pushed, records, soundAfter⟩ := sound.push taken opened signature
      cases attempt with
      | unscreened checked failed =>
          rw [checked] at passes
          cases passes with
          | untagged told => cases told.symm.trans failed
      | duplicate checked found =>
          rw [checked] at passes
          cases passes with
          | untagged told => cases told.symm.trans found
      | exhausted passed exhausted =>
          rw [passed.tracker_eq] at exhausted
          cases taken.symm.trans exhausted
      | unnamed passed _ failed =>
          rw [screenedHost passed] at failed
          cases naming.symm.trans failed
      | untagged passed taken' named' failed =>
          rw [screenedHost passed] at named'
          rw [passed.tracker_eq] at taken'
          cases taken.symm.trans taken'
          cases naming.symm.trans named'
          cases tagging.symm.trans failed
      | clash passed taken' named' _ refused =>
          rw [screenedHost passed] at named'
          rw [passed.tracker_eq] at taken' refused
          cases taken.symm.trans taken'
          cases naming.symm.trans named'
          cases pushed.symm.trans refused
      | @tracked screened _ tags _ _ _ registry' passed taken' named' tagged accepted =>
          have same := passed.tracker_eq
          rw [screenedHost passed] at named'
          rw [same] at taken' accepted
          cases taken.symm.trans taken'
          cases naming.symm.trans named'
          cases tagging.symm.trans tagged
          cases pushed.symm.trans accepted
          refine ⟨rfl, rfl, ?_, records, rfl, congrArg (·.session) same,
            congrArg (·.settings) same, congrArg (·.poisoned) same, congrArg (·.passes) same⟩
          change ({ screened.tracker with registry := registry, tags := left } : Tracker S).Sound
          rw [same]
          exact soundAfter

end

/-! ## The command -/

variable {host : Host σ C S} {tracker : Tracker S} {state : σ} {handle : C}

/-- A class that is added is so by an attempt to track it. -/
theorem add_ends (host : Host σ C S) (tracker : Tracker S) (state : σ) (handle : C) :
    (operation host (.add handle)).Ends (.start tracker state)
      (fun reply after => ∃ tag, reply = .tag tag ∧
        Course host (.start tracker state) (.add handle) (.ok (.tag tag)) after)
      (fun stop => Course host (.start tracker state) (.add handle) (.error stop)) :=
  (add_course host handle _).bind fun tag _ course => ⟨tag, rfl, course⟩

/-- **A class that is added was admitted.** -/
theorem admission_of_ok (sound : tracker.Sound) {reply : Reply}
    (added : (tracker.perform host (.add handle) state).result = .ok reply) :
    ∃ session record left, tracker.session = some session ∧ reply = .tag record.tag ∧
      Admission host session handle tracker.settings.checkDuplicates tracker.tags state record left
        (tracker.perform host (.add handle) state).host ∧
      Enlarged tracker (tracker.perform host (.add handle) state).tracker record left := by
  obtain ⟨after, outcome, returned, -⟩ := perform_ends (add_ends host tracker state handle)
  obtain ⟨tag, rfl, course⟩ := returned reply added
  rw [outcome]
  cases course with
  | viewed _ _ view => exact view.elim
  | added usable opened attempt =>
      obtain ⟨record, left, rfl, admitted, enlarged⟩ := attempt.admission sound opened
      exact ⟨_, record, left, opened, rfl, admitted, enlarged⟩

/-- **A class that is admitted is added.** -/
theorem Admission.perform {session : S} {record : ClassRecord} {left : TagSupply} {last : σ}
    (admitted : Admission host session handle tracker.settings.checkDuplicates tracker.tags state
      record left last)
    (sound : tracker.Sound) (usable : tracker.poisoned = false)
    (opened : tracker.session = some session) :
    (tracker.perform host (.add handle) state).result = .ok (.tag record.tag) ∧
      (tracker.perform host (.add handle) state).host = last ∧
      Enlarged tracker (tracker.perform host (.add handle) state).tracker record left := by
  obtain ⟨after, outcome, returned, stopped⟩ := perform_ends (add_ends host tracker state handle)
  rw [outcome]
  cases ended : (tracker.perform host (.add handle) state).result with
  | ok reply =>
      obtain ⟨tag, rfl, course⟩ := returned reply ended
      cases course with
      | viewed _ _ view => exact view.elim
      | added _ openedHere attempt =>
          cases opened.symm.trans openedHere
          obtain ⟨same, host, enlarged⟩ := admitted.attempt attempt sound opened
          cases same
          exact ⟨rfl, host, enlarged⟩
  | error stop =>
      cases stopped stop ended with
      | refused refuses =>
          cases refuses with
          | poisoned _ poisoned => cases usable.symm.trans poisoned
          | notInitialized _ _ _ closed => cases opened.symm.trans closed
      | unpassed isPass => simp at isPass
      | unadded _ openedHere attempt =>
          cases opened.symm.trans openedHere
          obtain ⟨impossible, -⟩ := admitted.attempt attempt sound opened
          cases impossible

end Tracker

end ClassLiveness

import ClassLiveness.Proofs.Contract.Agreement
import ClassLiveness.Proofs.Contract.Enrolment

/-!
# Trackers on a lawful host

Whatever a tracker has come to on a host that keeps its promises, its records are
attributed, and unless it is poisoned its session agrees with its calls
(`Lives.sustained`).  A startup enumeration begins with a session without tags, a pass
only asks questions, and a reset leaves neither session nor records; so every course
of a command keeps this up (`Tracker.Course.sustained`).
-/

set_option autoImplicit false

namespace ClassLiveness

variable {σ C S : Type}

/-- The host is lawful, the records are attributed, and unless the tracker is poisoned
its session agrees with the calls. -/
structure Sustained {host : Host σ C S} (contract : SessionContract host) (settings : Settings)
    (tracker : Tracker S) (state : σ) (log : List (CallRecord C S)) : Prop where
  lawful : contract.lawful state
  attributed : Attributed settings tracker log
  agrees : tracker.poisoned = false → ∀ session, tracker.session = some session →
    Agrees contract settings session state log

section

variable {host : Host σ C S} {contract : SessionContract host} {settings : Settings} {session : S}
  {log : List (CallRecord C S)} {before after : Scene σ C S}

theorem Upheld.sustained (upheld : Upheld contract settings session log after) :
    Sustained contract settings after.tracker after.host (log ++ after.calls) := by
  refine ⟨upheld.lawful, upheld.attributed, fun _ other held => ?_⟩
  obtain rfl : session = other := Option.some.inj (upheld.opened.symm.trans held)
  exact upheld.agrees

theorem Upheld.written (upheld : Upheld contract settings session log before)
    (entry : TraceEntry) : Upheld contract settings session log (before.written entry) :=
  ⟨upheld.opened, upheld.lawful, upheld.attributed, upheld.agrees⟩

theorem Attributed.settled (attributed : Attributed settings after.tracker log) (stop : Stop) :
    Attributed settings (after.settled stop).tracker log := by
  have sound := attributed.sound.settled stop
  rw [Scene.tracker_settled] at sound ⊢
  exact attributed.shrink sound rfl id (fun _ member => member) (Nat.le_refl _)

theorem Shaken.sustained {stop : Stop} (shaken : Shaken contract settings session log stop after) :
    Sustained contract settings (after.settled stop).tracker after.host
      (log ++ after.calls) := by
  refine ⟨shaken.lawful, shaken.attributed.settled stop, fun usable other held => ?_⟩
  rw [Scene.tracker_settled] at held
  obtain rfl : session = other := Option.some.inj (shaken.opened.symm.trans held)
  exact shaken.agrees usable

namespace Tracker

/-! ## A startup enumeration -/

/-- A session that has just been opened agrees with the calls. -/
theorem upheld_opened {afterOpening : σ} (lawful : contract.lawful before.host)
    (attributed : Attributed settings before.tracker (log ++ before.calls))
    (closed : before.tracker.session = none)
    (opening : host.answer .openSession before.host = (.ok session, afterOpening)) :
    Upheld contract settings session log
      (((before.registered before.tracker.registry.clear).called .openSession none
        afterOpening).opened session) := by
  have noMarks := attributed.unopened closed
  have attributedAfter : Attributed settings before.tracker
      (log ++ (before.calls ++ [⟨.openSession, none⟩])) := attributed.called rfl
  refine ⟨rfl, contract.lawful_of_answer lawful opening, ?_, fun _ => none,
    contract.opens lawful opening, ?_⟩
  · exact attributedAfter.clear rfl rfl nofun (Nat.le_refl _)
  · intro _ handle tag
    change none = some tag ↔ (handle, tag) ∈ marks (log ++ (before.calls ++ [⟨.openSession, none⟩]))
    rw [← List.append_assoc, marks_append, noMarks]
    simp only [reduceCtorEq, false_iff]
    exact List.not_mem_nil

/-- In the scene in which the classes of an enumeration come to be tracked, the
session is new and agrees with the calls. -/
theorem upheld_listed {enumerated : List (LoadedClass C)} {afterOpening afterListing : σ}
    (lawful : contract.lawful before.host)
    (attributed : Attributed settings before.tracker (log ++ before.calls))
    (closed : before.tracker.session = none)
    (opening : host.answer .openSession before.host = (.ok session, afterOpening))
    (listing : host.answer .loadedClasses afterOpening = (.ok enumerated, afterListing)) :
    Upheld contract settings session log (before.listed session afterOpening afterListing) :=
  (upheld_opened lawful attributed closed opening).called rfl listing

theorem Population.sustained_of_ok (populated : Population host before (.ok ()) after)
    (lawful : contract.lawful before.host)
    (attributed : Attributed settings before.tracker (log ++ before.calls))
    (closed : before.tracker.session = none) :
    Sustained contract settings after.tracker after.host (log ++ after.calls) := by
  cases populated with
  | complete opening listing tracked =>
      have listed := upheld_listed lawful attributed closed opening listing
      have upheld := (trackAll_upheld _ listed).ok tracked
      exact upheld.sustained

theorem Population.sustained {stop : Stop} (populated : Population host before (.error stop) after)
    (lawful : contract.lawful before.host)
    (attributed : Attributed settings before.tracker (log ++ before.calls))
    (closed : before.tracker.session = none) :
    Sustained contract settings (after.settled stop).tracker after.host (log ++ after.calls) := by
  cases populated with
  | @unopened failure state failed =>
      have attributedAfter : Attributed settings before.tracker
          (log ++ (before.calls ++ [⟨.openSession, some failure⟩])) := attributed.called rfl
      refine ⟨contract.lawful_of_answer lawful failed, Attributed.settled ?_ _, ?_⟩
      · exact attributedAfter.clear rfl rfl id (Nat.le_refl _)
      · intro usable
        cases usable
  | unlisted opening failed =>
      have shaken := (upheld_opened lawful attributed closed opening).failed failed
      exact shaken.sustained
  | halted opening listing stopped =>
      have listed := upheld_listed lawful attributed closed opening listing
      have shaken := (trackAll_upheld _ listed).error stopped
      exact shaken.sustained

/-! ## A pass -/

/-- Questions about the live holders of tags have been answered since the start of a
dialogue. -/
structure Consulted (contract : SessionContract host) (start now : Dialogue σ C S) : Prop where
  lawful : contract.lawful now.host
  tags_eq : contract.tags now.host = contract.tags start.host
  loaded_eq : contract.loaded now.host = contract.loaded start.host
  calls_eq : ∃ more, marks more = [] ∧ now.calls = start.calls ++ more

namespace Consulted

variable {start now later : Dialogue σ C S} {tag : Tag}

/-- A question about a tag hangs no tag. -/
theorem asked (consulted : Consulted contract start now) {failure? : Option HostError}
    (grown : later.calls = now.calls ++ [⟨.liveCount session tag, failure?⟩]) :
    ∃ more, marks more = [] ∧ later.calls = start.calls ++ more := by
  obtain ⟨more, none, grownBefore⟩ := consulted.calls_eq
  refine ⟨more ++ [⟨.liveCount session tag, failure?⟩], ?_, ?_⟩
  · rw [marks_append, none, List.nil_append]
    exact marks_of_leavesTags (.liveCount session tag) rfl failure?
  · rw [grown, grownBefore, List.append_assoc]

/-- A question that is answered. -/
theorem answered (consulted : Consulted contract start now) {live : Bool}
    (told : host.isLive session tag now = .ok live later) : Consulted contract start later := by
  obtain ⟨count, counted, grown, -⟩ := Host.isLive_ok told
  have sameTags := contract.leaves consulted.lawful rfl counted
  have sameLoaded := contract.loaded_after consulted.lawful counted
  exact ⟨contract.lawful_of_answer consulted.lawful counted, sameTags.trans consulted.tags_eq,
    sameLoaded.trans consulted.loaded_eq, consulted.asked grown⟩

/-- A question that fails leaves the host lawful, and hangs no tag. -/
theorem failed (consulted : Consulted contract start now) {reason : TrackingError}
    (told : host.isLive session tag now = .error reason later) :
    contract.lawful later.host ∧ ∃ more, marks more = [] ∧ later.calls = start.calls ++ more := by
  obtain ⟨answer, failure?, counted, grown⟩ := Host.isLive_error told
  exact ⟨contract.lawful_of_answer consulted.lawful counted, consulted.asked grown⟩

end Consulted

theorem consulted_inquest (tracker : Tracker S) (session : S) {dialogue : Dialogue σ C S}
    (lawful : contract.lawful dialogue.host) :
    ((tracker.inquest host session dialogue).failure? = none →
      Consulted contract dialogue (tracker.inquest host session dialogue).state) ∧
    ∀ reason, (tracker.inquest host session dialogue).failure? = some reason →
      contract.lawful (tracker.inquest host session dialogue).state.host ∧
        ∃ more, marks more = [] ∧
          (tracker.inquest host session dialogue).state.calls = dialogue.calls ++ more := by
  refine Registry.inquire_ends (host.isLive session) tracker.tracked dialogue
    (Consulted contract dialogue) (fun _ now => contract.lawful now.host ∧
      ∃ more, marks more = [] ∧ now.calls = dialogue.calls ++ more) ?_ ?_ ?_
  · intro _ _ _ _ consulted told
    exact consulted.answered told
  · intro _ _ _ _ consulted told
    exact consulted.failed told
  · exact ⟨lawful, rfl, rfl, [], rfl, (List.append_nil _).symm⟩

/-- A completed pass leaves the session in agreement with the calls. -/
theorem Inspection.upheld {report : UnloadReport}
    (inspection : Inspection host session before (.ok report) after)
    (upheld : Upheld contract settings session log before) :
    Upheld contract settings session log after := by
  cases inspection with
  | completed fits answered keeps =>
      have fewer := Registry.kept_sublist (host.isLive session) before.tracker.tracked
        before.dialogue
      have consulted := (consulted_inquest before.tracker session upheld.lawful).1 answered
      obtain ⟨more, none, grown⟩ := consulted.calls_eq
      refine ⟨upheld.opened, consulted.lawful, ?_, ?_⟩
      · change Attributed settings _
          (log ++ (before.tracker.inquest host session before.dialogue).state.calls)
        rw [grown, ← List.append_assoc]
        exact (upheld.attributed.unmarked none).sweep keeps fewer rfl rfl rfl
      · change Agrees contract settings session
          (before.tracker.inquest host session before.dialogue).state.host
          (log ++ (before.tracker.inquest host session before.dialogue).state.calls)
        rw [grown, ← List.append_assoc]
        obtain ⟨given, opened, same⟩ := upheld.agrees.unmarked none
        refine ⟨given, ?_, same⟩
        rw [consulted.tags_eq]
        exact opened

/-- However a pass is stopped, the records stay attributed. -/
theorem Inspection.sustained {stop : Stop}
    (inspection : Inspection host session before (.error stop) after)
    (upheld : Upheld contract settings session log before) :
    Sustained contract settings after.tracker after.host (log ++ after.calls) := by
  cases inspection with
  | overfull => exact upheld.sustained
  | failed fits failed keeps =>
      have fewer := Registry.kept_sublist (host.isLive session) before.tracker.tracked
        before.dialogue
      obtain ⟨lawful, more, none, grown⟩ :=
        (consulted_inquest before.tracker session upheld.lawful).2 _ failed
      refine ⟨lawful, ?_, fun usable => by cases usable⟩
      change Attributed settings _
        (log ++ (before.tracker.inquest host session before.dialogue).state.calls)
      rw [grown, ← List.append_assoc]
      exact (upheld.attributed.unmarked none).sweep keeps fewer rfl rfl rfl

end Tracker

/-! ## Every command -/

open Tracker

variable {tracker : Tracker S} {state : σ}

/-- The scene in which a command starts, in a session of a usable tracker. -/
theorem Sustained.upheld (sustained : Sustained contract settings tracker state log)
    (usable : tracker.poisoned = false) (opened : tracker.session = some session) :
    Upheld contract settings session log (.start tracker state) := by
  refine ⟨opened, sustained.lawful, ?_, ?_⟩
  · rw [Scene.calls_start, List.append_nil]
    exact sustained.attributed
  · rw [Scene.calls_start, List.append_nil]
    exact sustained.agrees usable session opened

/-- What a command does to a tracker without a session. -/
theorem Sustained.emptied (sustained : Sustained contract settings tracker state log)
    {other : Tracker S} {after : σ} (lawful : contract.lawful after)
    (nothing : other.registry = .empty) (closed : other.session = none)
    (sameSettings : other.settings = tracker.settings) :
    Sustained contract settings other after [] := by
  refine ⟨lawful, .of_empty nothing (sameSettings.trans sustained.attributed.settings_eq), ?_⟩
  intro _ session opened
  cases closed.symm.trans opened

/-- **Every course of a command keeps the records attributed and the session in
agreement.** -/
theorem Tracker.Course.sustained {command : Command C} {result : Except Stop Reply}
    (sustained : Sustained contract settings tracker state log)
    (course : Course host (.start tracker state) command result after) :
    Sustained contract settings after.tracker after.host
      (command.remembered (log ++ after.calls)) := by
  have attributedAtStart : Attributed settings tracker
      (log ++ (Scene.start tracker state : Scene σ C S).calls) := by
    rw [Scene.calls_start, List.append_nil]
    exact sustained.attributed
  cases course with
  | refused refuses =>
      rw [remembered_of_ne refuses.ne_reset, Scene.calls_start, List.append_nil]
      exact sustained
  | viewed notReset notStart view =>
      rw [remembered_of_ne notReset, Scene.calls_start, List.append_nil]
      exact sustained
  | noted times =>
      rw [remembered_of_ne (by simp), Scene.calls_changed, Scene.calls_start, List.append_nil]
      have attributed := sustained.attributed
      exact ⟨sustained.lawful, attributed.shrink (attributed.sound.congr rfl rfl rfl) rfl id
        (fun _ member => member) (Nat.le_refl _), sustained.agrees⟩
  | started usable closed populated =>
      exact populated.sustained_of_ok sustained.lawful attributedAtStart closed
  | unstarted usable closed populated =>
      rename_i stop stopped
      have settled := populated.sustained sustained.lawful attributedAtStart closed
      change Sustained contract settings (stopped.settled stop).tracker
        (stopped.settled stop).dialogue.host (log ++ (stopped.settled stop).dialogue.calls)
      rw [Scene.dialogue_settled]
      exact settled
  | added usable opened attempt =>
      exact (attempt.upheld (sustained.upheld usable opened)).sustained
  | unadded usable opened attempt =>
      rename_i stop stopped
      have settled := (attempt.shaken (sustained.upheld usable opened)).sustained
      change Sustained contract settings (stopped.settled stop).tracker
        (stopped.settled stop).dialogue.host (log ++ (stopped.settled stop).dialogue.calls)
      rw [Scene.dialogue_settled]
      exact settled
  | passed isPass usable opened inspection =>
      rw [remembered_of_ne (by rintro rfl; simp at isPass)]
      have upheld := inspection.upheld ((sustained.upheld usable opened).written _)
      exact upheld.sustained
  | unpassed isPass usable opened inspection =>
      rw [remembered_of_ne (by rintro rfl; simp at isPass)]
      exact inspection.sustained ((sustained.upheld usable opened).written _)
  | resetUnopened closed =>
      exact sustained.emptied sustained.lawful rfl rfl rfl
  | resetClosed opened closing =>
      exact sustained.emptied (contract.lawful_of_answer sustained.lawful closing) rfl rfl rfl
  | resetUnclosed opened closing =>
      exact sustained.emptied (contract.lawful_of_answer sustained.lawful closing) rfl rfl rfl

/-- **A tracker that lives on a lawful host has attributed records, and its session
agrees with its calls unless it is poisoned.** -/
theorem Lives.sustained {roll : List (C × ClassRecord)}
    (lives : Lives contract settings tracker state log roll) :
    Sustained contract settings tracker state log := by
  induction lives with
  | new lawful =>
      refine ⟨lawful, .of_empty rfl rfl, ?_⟩
      intro _ session opened
      cases opened
  | change _ lawful sameTags ih =>
      refine ⟨lawful, ih.attributed, ?_⟩
      intro usable session opened
      obtain ⟨given, isOpen, same⟩ := ih.agrees usable session opened
      exact ⟨given, (sameTags session opened).trans isOpen, same⟩
  | @perform tracker state log roll command _ ih =>
      have keeps := ih.attributed.sound.keeps
      obtain ⟨after, outcome, course⟩ := perform_course host command tracker state keeps
      have sustained := course.sustained ih
      rw [outcome]
      exact sustained

/-- **The records of a tracker that lives are on the roll.** -/
theorem Lives.listed {roll : List (C × ClassRecord)}
    (lives : Lives contract settings tracker state log roll) : Listed tracker log roll := by
  induction lives with
  | new => exact .of_empty rfl
  | change _ _ _ ih => exact ih
  | @perform tracker state log roll command lives ih =>
      have sound := lives.sustained.attributed.sound
      obtain ⟨after, outcome, course⟩ := perform_course host command tracker state sound.keeps
      have listed := course.listed sound ih
      rw [outcome]
      exact listed

/-- A command that is not a reset forgets nothing. -/
theorem Lives.perform_of_ne {roll : List (C × ClassRecord)}
    (lives : Lives contract settings tracker state log roll) (command : Command C)
    (notReset : command ≠ .reset) :
    Lives contract settings (tracker.perform host command state).tracker
      (tracker.perform host command state).host
      (log ++ (tracker.perform host command state).calls)
      (listen host state roll (tracker.perform host command state).calls).roll := by
  have performed := lives.perform command
  rwa [remembered_of_ne notReset, remembered_of_ne notReset] at performed

end

end ClassLiveness

import ClassLiveness.Machine.Host
import ClassLiveness.Proofs.Tracker.Admission

/-!
# A startup enumeration adds its classes in turn

A startup enumeration tracks a list of classes in one go, and an addition tracks one.  The two
guard the attempt differently: the one poisons the tracker if the list cannot be tracked to its
end, the other if the class cannot be tracked.  They come to the same all the same.  A tracker
that starts up with a list of classes is, after this, like one that starts up with an empty list
and is then told to add the wanted classes of the list one after the other, until one of them
fails: it has the same records under the same tags, is poisoned or not for the same reason, and
has made the same calls on the host (`Tracker.startUp_adds_in_turn`).  The wanted classes are
those whose status shares a bit with the wanted one (`Tracker.wanted_eq`).

What makes the difference small is that tracking a class does not look at what was said before
(`TrackerM.Oblivious`), so that it matters little in which operation it happens.
-/

set_option autoImplicit false

namespace ClassLiveness

variable {σ C S α β : Type}

/-! ## What was said before -/

/-- The scene with calls and entries of the trace that were there before. -/
def Scene.after (calls : List (CallRecord C S)) (trace : List TraceEntry) (scene : Scene σ C S) :
    Scene σ C S :=
  ⟨scene.tracker, ⟨scene.host, calls ++ scene.calls⟩, trace ++ scene.trace⟩

theorem Scene.settled_after (calls : List (CallRecord C S)) (trace : List TraceEntry)
    (scene : Scene σ C S) (stop : Stop) :
    (scene.after calls trace).settled stop = (scene.settled stop).after calls trace := by
  cases stop with
  | abort abort => rfl
  | error error =>
      rw [settled, settled]
      split
      · simp only [poisoned, written, changed, after, host, Scene.calls, List.append_assoc]
      · rfl

namespace TrackerM

/-- An ending with calls and entries of the trace that were there before. -/
def endingAfter (calls : List (CallRecord C S)) (trace : List TraceEntry) :
    EStateM.Result Stop (Scene σ C S) α → EStateM.Result Stop (Scene σ C S) α
  | .ok value last => .ok value (last.after calls trace)
  | .error stop last => .error stop (last.after calls trace)

/-- An operation does not look at what was said before it. -/
def Oblivious (operation : TrackerM σ C S α) : Prop :=
  ∀ calls trace scene,
    operation (scene.after calls trace) = endingAfter calls trace (operation scene)

namespace Oblivious

theorem pure (value : α) : (pure value : TrackerM σ C S α).Oblivious := fun _ _ _ => rfl

theorem fail (error : TrackingError) : (fail error : TrackerM σ C S α).Oblivious :=
  fun _ _ _ => rfl

theorem bind {first : TrackerM σ C S α} {second : α → TrackerM σ C S β}
    (oblivious : first.Oblivious) (next : ∀ value, (second value).Oblivious) :
    (first >>= second).Oblivious := by
  intro calls trace scene
  rw [bind_apply, bind_apply, oblivious calls trace scene]
  cases first scene with
  | ok value middle => exact next value calls trace middle
  | error stop last => rfl

/-- An operation may look at the tracker. -/
theorem current_bind {second : Tracker S → TrackerM σ C S α}
    (next : ∀ tracker, (second tracker).Oblivious) : (current >>= second).Oblivious :=
  bind (fun _ _ _ => rfl) next

theorem update (change : Tracker S → Tracker S) :
    (update change : TrackerM σ C S Unit).Oblivious :=
  fun _ _ _ => rfl

theorem orAbort (result : Except Abort α) : (orAbort result : TrackerM σ C S α).Oblivious := by
  intro calls trace scene
  cases result <;> rfl

theorem emit (event : Event) : (emit event : TrackerM σ C S Unit).Oblivious := by
  intro calls trace scene
  rw [emit_apply, emit_apply]
  simp only [endingAfter, Scene.after, Scene.written, Scene.host, Scene.calls, List.append_assoc]

theorem ask (host : Host σ C S) (call : Call C S) : (ask (host.request call)).Oblivious := by
  intro calls trace scene
  rcases told : host.answer call scene.host with ⟨failure | reply, state⟩
  · rw [ask_error scene told, ask_error (scene.after calls trace) told]
    simp only [endingAfter, Scene.after, Scene.called, Scene.host, Scene.calls, List.append_assoc]
  · rw [ask_ok scene told, ask_ok (scene.after calls trace) told]
    simp only [endingAfter, Scene.after, Scene.called, Scene.host, Scene.calls, List.append_assoc]

end Oblivious

end TrackerM

namespace Tracker

open TrackerM

/-- **Tracking a class does not look at what was said before.** -/
theorem track_oblivious (host : Host σ C S) (handle : C) : (track host handle).Oblivious := by
  have refuses : ∀ session, (refuseDuplicate host session handle).Oblivious := by
    intro session
    refine .current_bind fun tracker => ?_
    split
    · refine (Oblivious.ask host _).bind fun carried => ?_
      cases carried with
      | none => exact .pure ()
      | some tag => exact .fail _
    · exact .pure ()
  have takes : (takeTag : TrackerM σ C S Tag).Oblivious :=
    .current_bind fun tracker => (Oblivious.orAbort _).bind fun _ =>
      (Oblivious.update _).bind fun _ => .pure _
  have remembers : ∀ record, (remember record : TrackerM σ C S Unit).Oblivious := fun record =>
    .current_bind fun tracker => (Oblivious.orAbort _).bind fun _ => .update _
  have requires : (requireSession : TrackerM σ C S S).Oblivious := by
    refine .current_bind fun tracker => ?_
    cases tracker.session with
    | none => exact .fail _
    | some session => exact .pure session
  refine requires.bind fun session => (refuses session).bind fun _ => takes.bind fun tag => ?_
  refine (Oblivious.ask host _).bind fun signature => (Oblivious.ask host _).bind fun _ => ?_
  exact (Oblivious.emit _).bind fun _ => (remembers _).bind fun _ => .pure tag

/-! ## Commands in turn -/

/-- Carries out commands one after the other, each against the host as the one before it has
left it, up to the first that does not return. -/
def performInTurn (host : Host σ C S) : Tracker S → σ → List (Command C) → Outcome σ C S Unit
  | tracker, state, [] => ⟨.ok (), tracker, state, [], []⟩
  | tracker, state, command :: rest =>
      let first := tracker.perform host command state
      match first.result with
      | .error stop => ⟨.error stop, first.tracker, first.host, first.calls, first.trace⟩
      | .ok _ =>
          let later := performInTurn host first.tracker first.host rest
          { later with calls := first.calls ++ later.calls, trace := first.trace ++ later.trace }

/-- An outcome is that of work which starts after some calls and ends in a scene. -/
structure ComesTo (outcome : Outcome σ C S Unit) (earlier : List (CallRecord C S))
    (result : Except Stop Unit) (last : Scene σ C S) : Prop where
  result : outcome.result = result
  tracker : outcome.tracker = last.tracker
  host : outcome.host = last.host
  calls : earlier ++ outcome.calls = last.calls

section

variable {host : Host σ C S} {tracker : Tracker S} {state : σ} {command : Command C}
  {rest : List (Command C)} {earlier : List (CallRecord C S)}

/-- If the first command returns, it is the others that decide. -/
theorem ComesTo.cons {reply : Reply} {result : Except Stop Unit} {last : Scene σ C S}
    (returned : (tracker.perform host command state).result = .ok reply)
    (comes : ComesTo
      (performInTurn host (tracker.perform host command state).tracker
        (tracker.perform host command state).host rest)
      (earlier ++ (tracker.perform host command state).calls) result last) :
    ComesTo (performInTurn host tracker state (command :: rest)) earlier result last := by
  simp only [performInTurn, returned]
  exact ⟨comes.result, comes.tracker, comes.host,
    (List.append_assoc _ _ _).symm.trans comes.calls⟩

/-- If the first command does not return, nothing else is done. -/
theorem performInTurn_cons_of_error {stop : Stop}
    (stopped : (tracker.perform host command state).result = .error stop) :
    performInTurn host tracker state (command :: rest) =
      ⟨.error stop, (tracker.perform host command state).tracker,
        (tracker.perform host command state).host, (tracker.perform host command state).calls,
        (tracker.perform host command state).trace⟩ := by
  simp only [performInTurn, stopped]

end

section

variable {session : S}

/-- An attempt that starts after some calls ends as it does without them. -/
theorem track_after (host : Host σ C S) (handle : C) (scene : Scene σ C S) :
    track host handle scene = endingAfter scene.calls scene.trace
      (track host handle (.start scene.tracker scene.host)) := by
  rw [← track_oblivious]
  simp only [Scene.after, Scene.start, List.append_nil, Scene.host, Scene.calls]

/-- **Classes that are added in turn come to be tracked as a list of classes does.** -/
theorem performInTurn_add (host : Host σ C S) (handles : List C)
    {scene : Scene σ C S} (usable : scene.tracker.poisoned = false)
    (opened : scene.tracker.session = some session) :
    (trackAll host handles).Ends scene
      (fun value last =>
        ComesTo (performInTurn host scene.tracker scene.host (handles.map .add)) scene.calls
          (.ok value) last)
      (fun stop last =>
        ComesTo (performInTurn host scene.tracker scene.host (handles.map .add)) scene.calls
          (.error stop) (last.settled stop)) := by
  induction handles generalizing scene with
  | nil => exact ⟨rfl, rfl, rfl, List.append_nil _⟩
  | cons handle rest ih =>
      have first := track_after host handle scene
      rw [List.map_cons]
      cases attempt : track host handle (.start scene.tracker scene.host) with
      | ok tag middle =>
          have performed := perform_add_of_ok usable opened attempt
          rw [attempt] at first
          have goesOn : trackAll host (handle :: rest) scene =
              trackAll host rest (middle.after scene.calls scene.trace) := by
            rw [trackAll_cons, bind_of_ok first]
          -- What was added leaves the tracker usable and in its session.
          have openedAtStart :
              (Scene.start scene.tracker scene.host : Scene σ C S).tracker.session = some session :=
            opened
          have tracked := (track_ends openedAtStart).ok attempt
          obtain ⟨registry, tags, framed⟩ := tracked.frame
          have usableAfter : middle.tracker.poisoned = false :=
            (congrArg Tracker.poisoned framed).trans usable
          have openedAfter : middle.tracker.session = some session :=
            tracked.session_eq.trans opened
          have later := @ih (middle.after scene.calls scene.trace) usableAfter openedAfter
          refine Ends.congr goesOn (later.mono ?_ ?_)
          · intro value last comes
            refine ComesTo.cons (congrArg Outcome.result performed) ?_
            rw [performed]
            exact comes
          · intro stop last comes
            refine ComesTo.cons (congrArg Outcome.result performed) ?_
            rw [performed]
            exact comes
      | error stop middle =>
          have performed := perform_add_of_error usable opened attempt
          rw [attempt] at first
          have halts : trackAll host (handle :: rest) scene =
              .error stop (middle.after scene.calls scene.trace) := by
            rw [trackAll_cons, bind_of_error first]
          refine Ends.of_error halts ?_
          rw [performInTurn_cons_of_error (congrArg Outcome.result performed), performed,
            Scene.settled_after]
          exact ⟨rfl, rfl, rfl, rfl⟩

end

end Tracker

/-! ## What is enumerated -/

/-- The host with an enumeration of its loaded classes that is given.  It makes no difference to
any answer but that to the call for the enumeration, and none to what becomes of the host. -/
def Host.enumerating (host : Host σ C S) (entries : List (LoadedClass C)) : Host σ C S where
  answer
    | .loadedClasses, state =>
        let told := host.answer .loadedClasses state
        (told.1.map fun _ => entries, told.2)
    | call, state => host.answer call state

theorem Host.answer_enumerating (host : Host σ C S) (entries : List (LoadedClass C)) (state : σ) :
    (host.enumerating entries).answer .loadedClasses state =
      ((host.answer .loadedClasses state).1.map fun _ => entries,
        (host.answer .loadedClasses state).2) := rfl

namespace Tracker

open TrackerM

theorem track_enumerating (host : Host σ C S) (entries : List (LoadedClass C)) (handle : C) :
    track (host.enumerating entries) handle = track host handle := rfl

theorem trackAll_enumerating (host : Host σ C S) (entries : List (LoadedClass C))
    (handles : List C) :
    trackAll (host.enumerating entries) handles = trackAll host handles := by
  induction handles with
  | nil => rfl
  | cons handle rest ih => rw [trackAll, trackAll, ih, track_enumerating]

theorem intersects_iff (first second : ClassStatus) :
    first.intersects second = decide (first.bits &&& second.bits ≠ 0) := by
  simp [ClassStatus.intersects, ClassStatus.inter, ClassStatus.empty, bne, beq_eq_decide]

/-- The wanted classes are those whose status shares a bit with the wanted one. -/
theorem wanted_eq (status : ClassStatus) (entries : List (LoadedClass C)) :
    wanted status entries =
      (entries.filter fun entry => entry.status.bits &&& status.bits ≠ 0).map
        LoadedClass.handle := by
  rw [wanted]
  simp only [intersects_iff]

/-! ## Who is admitted -/

/-- Classes are admitted one after the other, with a list of records. -/
inductive Admissions (host : Host σ C S) (session : S) (checked : Bool) :
    List C → TagSupply → σ → List ClassRecord → TagSupply → σ → Prop where
  | nil {tags : TagSupply} {state : σ} : Admissions host session checked [] tags state [] tags state
  | cons {handle : C} {rest : List C} {tags next last : TagSupply} {state middle after : σ}
      {record : ClassRecord} {records : List ClassRecord} :
      Admission host session handle checked tags state record next middle →
      Admissions host session checked rest next middle records last after →
        Admissions host session checked (handle :: rest) tags state (record :: records) last after

section

variable {host : Host σ C S} {session : S} {checked : Bool} {handles : List C}
  {tags last : TagSupply} {state after : σ} {records : List ClassRecord}

/-- Classes that are admitted get the tags that come next, in their order. -/
theorem Admissions.numbers
    (admitted : Admissions host session checked handles tags state records last after) :
    records.map (fun record => record.tag.number) =
      List.range' (tags.allocated + 1) handles.length := by
  induction admitted with
  | nil => rfl
  | cons first _ ih =>
      cases first with
      | intro _ taken _ _ =>
          obtain ⟨number, allocated⟩ := TagSupply.allocate_ok taken
          rw [List.map_cons, ih, List.length_cons, List.range'_succ, number, allocated]

/-- **The classes of a list that is tracked were admitted one after the other.** -/
theorem admissions_of_trackAll {scene ended : Scene σ C S} (sound : scene.tracker.Sound)
    (opened : scene.tracker.session = some session)
    (tracked : trackAll host handles scene = .ok () ended) :
    ∃ records,
      Admissions host session scene.tracker.settings.checkDuplicates handles scene.tracker.tags
        scene.host records ended.tracker.tags ended.host ∧
      ended.tracker.tracked = records.reverse ++ scene.tracker.tracked := by
  induction handles generalizing scene with
  | nil =>
      cases tracked
      exact ⟨[], .nil, rfl⟩
  | cons handle rest ih =>
      rw [trackAll_cons, bind_apply] at tracked
      cases attempt : track host handle scene with
      | error stop middle =>
          rw [attempt] at tracked
          cases tracked
      | ok tag middle =>
          rw [attempt] at tracked
          obtain ⟨record, next, -, admitted, enlarged⟩ :=
            ((track_ends opened).ok attempt).admission sound opened
          obtain ⟨records, later, remaining⟩ :=
            ih enlarged.sound (enlarged.session.trans opened) tracked
          rw [enlarged.settings, enlarged.tags] at later
          refine ⟨record :: records, .cons admitted later, ?_⟩
          rw [remaining, enlarged.tracked, List.reverse_cons, List.append_assoc,
            List.singleton_append]

end

/-! ## In turn -/

/-- A startup enumeration that halts before its classes halts whatever they are. -/
theorem startUp_halts_in_turn {host : Host σ C S} {tracker : Tracker S} {state : σ} {stop : Stop}
    {last : Scene σ C S} (usable : tracker.poisoned = false) (closed : tracker.session = none)
    (halts : ∀ entries, Population (host.enumerating entries) (startupScene tracker state)
      (.error stop) last) (entries : List (LoadedClass C)) (rest : List (Command C)) :
    ComesTo (performInTurn (host.enumerating []) tracker state (.startUp :: rest)) [] (.error stop)
      (last.settled stop) ∧
    tracker.perform (host.enumerating entries) .startUp state =
      ⟨.error stop, (last.settled stop).tracker, (last.settled stop).host,
        (last.settled stop).calls, (last.settled stop).trace ++ [.left .startup]⟩ := by
  have bare := perform_startUp_of_error usable closed (halts [])
  refine ⟨?_, perform_startUp_of_error usable closed (halts entries)⟩
  rw [performInTurn_cons_of_error (congrArg Outcome.result bare), bare]
  exact ⟨rfl, rfl, rfl, rfl⟩

/-- A startup enumeration that comes to its classes ends as their tracking does, and so do the
additions in turn. -/
theorem startUp_tracks_in_turn {host : Host σ C S} {tracker : Tracker S} {session : S}
    {state afterOpening afterListing : σ} {entries : List (LoadedClass C)} {handles : List C}
    (usable : tracker.poisoned = false) (closed : tracker.session = none)
    (opening : host.answer .openSession state = (.ok session, afterOpening))
    (listed : ∀ entries, (host.enumerating entries).answer .loadedClasses afterOpening =
      (.ok entries, afterListing))
    (chosen : wanted tracker.settings.wantedStatus entries = handles) :
    let whole := tracker.perform (host.enumerating entries) .startUp state
    let inTurn := performInTurn (host.enumerating []) tracker state
      (.startUp :: handles.map .add)
    (trackAll host handles).Ends
      ((startupScene tracker state).listed session afterOpening afterListing)
      (fun value last =>
        ComesTo inTurn [] (.ok value) last ∧
        ∃ trace, whole = ⟨.ok .done, last.tracker, last.host, last.calls, trace⟩)
      (fun stop last =>
        ComesTo inTurn [] (.error stop) (last.settled stop) ∧
        ∃ trace, whole = ⟨.error stop, (last.settled stop).tracker, (last.settled stop).host,
          (last.settled stop).calls, trace⟩) := by
  intro whole inTurn
  let begun : Scene σ C S := (startupScene tracker state).listed session afterOpening afterListing
  have openedHere : begun.tracker.session = some session := rfl
  have empty : Population (host.enumerating []) (startupScene tracker state) (.ok ())
      (begun.written (.event (.initialized 0 begun.tracker.len))) :=
    .complete opening (listed []) rfl
  have bare := perform_startUp_of_ok usable closed empty
  have goesOn : ∀ result last, ComesTo (performInTurn (host.enumerating []) begun.tracker begun.host
      (handles.map .add)) begun.calls result last → ComesTo inTurn [] result last := by
    intro result last comes
    refine ComesTo.cons (congrArg Outcome.result bare) ?_
    rw [bare]
    exact comes
  have adds := performInTurn_add (host.enumerating []) handles usable openedHere
  rw [trackAll_enumerating] at adds
  have sameClasses : ∀ result, trackAll host handles begun = result →
      trackAll (host.enumerating entries) (wanted tracker.settings.wantedStatus entries) begun =
        result := by
    rintro result rfl
    rw [trackAll_enumerating, chosen]
  change (trackAll host handles).Ends begun _ _
  unfold Ends
  cases tracked : trackAll host handles begun with
  | ok value last =>
      have completed : Population (host.enumerating entries) (startupScene tracker state) (.ok ())
          (last.written (.event (.initialized entries.length last.tracker.len))) :=
        .complete opening (listed entries) (sameClasses _ tracked)
      have performed := perform_startUp_of_ok usable closed completed
      exact ⟨goesOn _ _ (adds.ok tracked), _, performed⟩
  | error stop last =>
      have halted : Population (host.enumerating entries) (startupScene tracker state) (.error stop)
          last := .halted opening (listed entries) (sameClasses _ tracked)
      exact ⟨goesOn _ _ (adds.error tracked), _, perform_startUp_of_error usable closed halted⟩

/-- **A startup enumeration adds its classes in turn.**  Whatever the host lists, the result and
the tracker, the host and the calls after it are those of a startup with an empty list and of the
additions of the wanted classes, one after the other, up to the first that fails.  If it succeeds,
the classes were admitted in the order of the list, under the tags that come next. -/
theorem startUp_adds_in_turn (host : Host σ C S) {tracker : Tracker S}
    (usable : tracker.poisoned = false) (closed : tracker.session = none)
    (entries : List (LoadedClass C)) (state : σ) :
    let chosen := entries.filter fun entry =>
      entry.status.bits &&& tracker.settings.wantedStatus.bits ≠ 0
    let whole := tracker.perform (host.enumerating entries) .startUp state
    let inTurn := performInTurn (host.enumerating []) tracker state
      (.startUp :: chosen.map fun entry => .add entry.handle)
    whole.result.map (fun _ => ()) = inTurn.result ∧
    whole.tracker = inTurn.tracker ∧
    whole.host = inTurn.host ∧
    whole.calls = inTurn.calls ∧
    ∀ reply, whole.result = .ok reply →
      ∃ session afterOpening afterListing records,
        host.answer .openSession state = (.ok session, afterOpening) ∧
        (host.answer .loadedClasses afterOpening).2 = afterListing ∧
        Admissions host session tracker.settings.checkDuplicates (chosen.map LoadedClass.handle)
          tracker.tags afterListing records whole.tracker.tags whole.host ∧
        whole.tracker.tracked = records.reverse ∧
        records.map (fun record => record.tag.number) =
          List.range' (tracker.tags.allocated + 1) chosen.length := by
  intro chosen whole inTurn
  have additions : (chosen.map LoadedClass.handle).map Command.add =
      chosen.map fun entry => .add entry.handle := List.map_map
  rcases opening : host.answer .openSession state with ⟨failure | session, afterOpening⟩
  · obtain ⟨comes, ended⟩ := startUp_halts_in_turn usable closed
      (fun _ => Population.unopened opening) entries (chosen.map fun entry => .add entry.handle)
    have isWhole : whole = _ := ended
    rw [isWhole]
    exact ⟨comes.result.symm, comes.tracker.symm, comes.host.symm, comes.calls.symm, nofun⟩
  rcases listing : host.answer .loadedClasses afterOpening with ⟨failure | given, afterListing⟩
  · have unlisted : ∀ entries, (host.enumerating entries).answer .loadedClasses afterOpening =
        (.error failure, afterListing) := by
      intro entries
      rw [Host.answer_enumerating, listing]
      rfl
    obtain ⟨comes, ended⟩ := startUp_halts_in_turn usable closed
      (fun entries => Population.unlisted opening (unlisted entries)) entries
      (chosen.map fun entry => .add entry.handle)
    have isWhole : whole = _ := ended
    rw [isWhole]
    exact ⟨comes.result.symm, comes.tracker.symm, comes.host.symm, comes.calls.symm, nofun⟩
  have listed : ∀ entries, (host.enumerating entries).answer .loadedClasses afterOpening =
      (.ok entries, afterListing) := by
    intro entries
    rw [Host.answer_enumerating, listing]
    rfl
  have tracks := startUp_tracks_in_turn usable closed opening listed (wanted_eq _ entries)
  rw [additions] at tracks
  let begun : Scene σ C S := (startupScene tracker state).listed session afterOpening afterListing
  cases tracked : trackAll host (chosen.map LoadedClass.handle) begun with
  | error stop last =>
      obtain ⟨comes, trace, ended⟩ := tracks.error tracked
      have isWhole : whole = _ := ended
      rw [isWhole]
      exact ⟨comes.result.symm, comes.tracker.symm, comes.host.symm, comes.calls.symm, nofun⟩
  | ok value last =>
      obtain ⟨comes, trace, ended⟩ := tracks.ok tracked
      have isWhole : whole = _ := ended
      rw [isWhole]
      refine ⟨comes.result.symm, comes.tracker.symm, comes.host.symm, comes.calls.symm, ?_⟩
      intro reply _
      have tracksNothing : begun.tracker.tracked = [] := tracked_of_empty rfl
      obtain ⟨records, admitted, remaining⟩ := admissions_of_trackAll (.of_empty rfl) rfl tracked
      have numbers := admitted.numbers
      rw [List.length_map] at numbers
      rw [tracksNothing, List.append_nil] at remaining
      exact ⟨session, afterOpening, afterListing, records, rfl, congrArg Prod.snd listing, admitted,
        remaining, numbers⟩

/-- Two classes are listed, the first of them twice.  The second has no bit of the wanted status
and is passed over, and the first is refused when it comes again, with the tag that it has got. -/
theorem startUp_repeats_class :
    let machine : Machine := { Machine.empty with
      classes := #[⟨"LFirst;", .ofFlag .prepared, true⟩, ⟨"LSecond;", .ofFlag .verified, true⟩] }
    let entries : List (LoadedClass Nat) :=
      [⟨0, ⟨0x42⟩⟩, ⟨1, .ofFlag .verified⟩, ⟨0, .ofFlag .array⟩]
    let whole := (new .default).perform (Machine.host.enumerating entries) .startUp machine
    let inTurn := performInTurn (Machine.host.enumerating []) (new .default) machine
      [.startUp, .add 0, .add 0]
    whole.result = .error (.error (.duplicateClass ⟨1, by decide, by decide⟩)) ∧
    whole.tracker.tracked = [⟨⟨1, by decide, by decide⟩, "LFirst;"⟩] ∧
    whole.tracker = inTurn.tracker ∧ whole.calls = inTurn.calls ∧ whole.calls.length = 6 := by
  intro machine entries whole inTurn
  have usable : (new .default : Tracker Nat).poisoned = false := rfl
  have closed : (new .default : Tracker Nat).session = none := rfl
  obtain ⟨-, tracker, -, calls, -⟩ :=
    startUp_adds_in_turn Machine.host usable closed entries machine
  exact ⟨by decide +kernel, by decide +kernel, tracker, calls, by decide +kernel⟩

end Tracker

end ClassLiveness

import ClassLiveness.Proofs.Scenario.Likeness
import ClassLiveness.Proofs.Tracker.Books
import Mathlib.Data.List.Find

/-!
# Two runs abreast

An operation is run on two trackers of two machines, and every part of it is done to both
at the same time.  The runs stay abreast (`Abreast`) if they end alike: both return, or
both are stopped for the same reason, and the scenes that they leave are alike.  Each part
of an operation has a rule that keeps the runs abreast, and a chain of parts is followed
by these rules (`Abreast.bind` and those after it).

The runs come apart if the tags of the one run out before those of the other.  So
nothing is said of two runs if the first leaves a number of allocated tags that cannot be
read; and since tags are never taken back, no part of it has left such a number then.
-/

set_option autoImplicit false

namespace ClassLiveness

variable {α β γ δ : Type}

/-- The scene that an operation leaves, however it ends. -/
def TrackerM.left {σ C S : Type} (operation : TrackerM σ C S α) (scene : Scene σ C S) :
    Scene σ C S :=
  match operation scene with
  | .ok _ after => after
  | .error _ after => after

/-- How many tags have been handed out in a scene. -/
def Scene.allocated {σ C S : Type} (scene : Scene σ C S) : Nat := scene.tracker.tags.allocated

theorem TrackerM.Ends.left {σ C S : Type} {operation : TrackerM σ C S α} {scene : Scene σ C S}
    {Left : Scene σ C S → Prop}
    (ends : operation.Ends scene (fun _ => Left) (fun _ => Left)) :
    Left (operation.left scene) := by
  unfold TrackerM.left
  cases result : operation scene with
  | ok value after => exact ends.ok result
  | error stop after => exact ends.error result

theorem TrackerM.left_bind {σ C S : Type} {operation : TrackerM σ C S α} {scene after : Scene σ C S}
    {value : α} (returned : operation scene = .ok value after) (next : α → TrackerM σ C S β) :
    (operation >>= next).left scene = (next value).left after := by
  unfold TrackerM.left
  rw [TrackerM.bind_apply, returned]

namespace Reading

/-! ## What is alike -/

/-- Two trackers are alike: the one shows what the other shows, as it is read. -/
structure Trackers (reading : Reading) (first second : Tracker Nat) : Prop where
  sound : first.Sound
  soundOther : second.Sound
  session : second.session = first.session.map reading.session
  tracked : second.tracked = first.tracked.map reading.record
  allocated : second.tags.allocated = first.tags.allocated + reading.shift
  settings : second.settings = first.settings
  passes : second.passes = reading.passes first.passes
  pendingUnloads : second.pendingUnloads = first.pendingUnloads
  poisoned : second.poisoned = first.poisoned

/-- Two scenes are alike. -/
structure Scenes (reading : Reading) (first second : Scene Machine Nat Nat) : Prop where
  tracker : reading.Trackers first.tracker second.tracker
  machine : reading.Machines first.tracker.session first.host second.host
  calls : second.calls = first.calls.map reading.callRecord
  trace : second.trace = first.trace.map reading.entry

/-- Two operations end alike: both return, and what they return agrees, or both are stopped for
the same reason. -/
inductive Endings (reading : Reading) (agree : α → β → Prop) :
    EStateM.Result Stop (Scene Machine Nat Nat) α →
    EStateM.Result Stop (Scene Machine Nat Nat) β → Prop where
  | ok {one : α} {other : β} {first second : Scene Machine Nat Nat} : agree one other →
      reading.Scenes first second → Endings reading agree (.ok one first) (.ok other second)
  | error {stop : Stop} {first second : Scene Machine Nat Nat} : reading.Scenes first second →
      Endings reading agree (.error stop first) (.error (reading.stop stop) second)

namespace Trackers

variable {reading : Reading} {first second : Tracker Nat}

theorem fits_of_le (alike : reading.Trackers first second) {tag : Tag}
    (isOld : tag.number ≤ first.tags.allocated) : reading.Fits tag := by
  have bound := second.tags.allocated_le_limit
  rw [alike.allocated] at bound
  rw [Fits]
  omega

theorem fits (alike : reading.Trackers first second) {record : ClassRecord}
    (tracked : record ∈ first.tracked) : reading.Fits record.tag :=
  alike.fits_of_le (alike.sound.bounded record tracked)

theorem isInitialized (alike : reading.Trackers first second) :
    second.isInitialized = first.isInitialized := by
  rw [Tracker.isInitialized, Tracker.isInitialized, alike.session, Option.isSome_map]

theorem len (alike : reading.Trackers first second) : second.len = first.len := by
  rw [alike.sound.len_eq, alike.soundOther.len_eq, alike.tracked, List.length_map]

theorem metrics (alike : reading.Trackers first second) :
    second.metrics = reading.metrics first.metrics := by
  have sameLen : second.registry.len = first.registry.len := alike.len
  rw [Tracker.metrics, sameLen, alike.allocated, alike.passes]
  rfl

/-- Two trackers have a record of the same tags. -/
theorem get? (alike : reading.Trackers first second) {tag : Tag} (fits : reading.Fits tag) :
    second.registry.get? (reading.tag tag) = (first.registry.get? tag).map reading.record := by
  rw [alike.sound.keeps.get?_eq, alike.soundOther.keeps.get?_eq, Ledger.get?, Ledger.get?,
    Ledger.all, Ledger.all, List.append_nil, List.append_nil, alike.tracked, List.find?_map]
  refine congrArg _ (List.find?_congr fun record tracked => ?_)
  exact decide_eq_decide.mpr (tag_inj (alike.fits tracked) fits)

theorem isTracked (alike : reading.Trackers first second) {tag : Tag} (fits : reading.Fits tag) :
    second.isTracked (reading.tag tag) = first.isTracked tag := by
  have found := congrArg Option.isSome (alike.get? fits)
  rw [Option.isSome_map, alike.sound.keeps.get?_eq, alike.soundOther.keeps.get?_eq] at found
  rw [Tracker.isTracked, Tracker.isTracked, alike.sound.keeps.contains_eq,
    alike.soundOther.keeps.contains_eq]
  exact found

theorem signature? (alike : reading.Trackers first second) {tag : Tag}
    (fits : reading.Fits tag) : second.signature? (reading.tag tag) = first.signature? tag := by
  rw [Tracker.signature?, Tracker.signature?, alike.get? fits, Option.map_map]
  rfl

end Trackers

end Reading

/-! ## Operations side by side -/

open Reading TrackerM

/-- The runs of two operations stay abreast: if the tags that the first leaves allocated can be
read, the runs end alike. -/
def Abreast (reading : Reading) (one : TrackerM Machine Nat Nat α)
    (other : TrackerM Machine Nat Nat β) (first second : Scene Machine Nat Nat)
    (agree : α → β → Prop) : Prop :=
  (one.left first).allocated + reading.shift ≤ Tag.limit →
    reading.Endings agree (one first) (other second)

namespace Abreast

variable {reading : Reading} {one : TrackerM Machine Nat Nat α} {other : TrackerM Machine Nat Nat β}
  {first second : Scene Machine Nat Nat} {agree : α → β → Prop}

theorem congr {one' : TrackerM Machine Nat Nat α} {other' : TrackerM Machine Nat Nat β}
    {first' second' : Scene Machine Nat Nat} (same : one first = one' first')
    (sameOther : other second = other' second')
    (abreast : Abreast reading one' other' first' second' agree) :
    Abreast reading one other first second agree := by
  unfold Abreast TrackerM.left at abreast ⊢
  rw [same, sameOther]
  exact abreast

theorem of_ok {a : α} {b : β} {first' second' : Scene Machine Nat Nat}
    (returned : one first = .ok a first') (returnedOther : other second = .ok b second')
    (agreed : agree a b) (alike : reading.Scenes first' second') :
    Abreast reading one other first second agree := by
  intro _
  rw [returned, returnedOther]
  exact .ok agreed alike

theorem of_error (stop : Stop) {first' second' : Scene Machine Nat Nat}
    (stopped : one first = .error stop first')
    (stoppedOther : other second = .error (reading.stop stop) second')
    (alike : reading.Scenes first' second') : Abreast reading one other first second agree := by
  intro _
  rw [stopped, stoppedOther]
  exact .error alike

/-- Two chains stay abreast if their first operations do, and the second ones do then.  The
first chain goes on without taking tags back. -/
theorem bind {next : α → TrackerM Machine Nat Nat γ} {next' : β → TrackerM Machine Nat Nat δ}
    {last : γ → δ → Prop} (abreast : Abreast reading one other first second agree)
    (onwards : ∀ a b first' second', one first = .ok a first' → other second = .ok b second' →
      agree a b → reading.Scenes first' second' →
        Abreast reading (next a) (next' b) first' second' last)
    (grows : ∀ a first', one first = .ok a first' →
      first'.allocated ≤ ((next a).left first').allocated) :
    Abreast reading (one >>= next) (other >>= next') first second last := by
  unfold Abreast TrackerM.left at abreast ⊢
  rw [bind_apply, bind_apply]
  cases result : one first with
  | ok a first' =>
      intro room
      have grown := grows a first' result
      unfold TrackerM.left at grown
      have ended := abreast (by
        rw [result]
        exact Nat.le_trans (Nat.add_le_add_right grown _) room)
      rw [result] at ended
      cases resultOther : other second with
      | ok b second' =>
          rw [resultOther] at ended
          cases ended with
          | ok agreed alike => exact onwards a b first' second' result resultOther agreed alike room
      | error stop second' =>
          rw [resultOther] at ended
          cases ended
  | error stop first' =>
      intro room
      have ended := abreast (by
        rw [result]
        exact room)
      rw [result] at ended
      cases resultOther : other second with
      | ok b second' =>
          rw [resultOther] at ended
          cases ended
      | error stop' second' =>
          rw [resultOther] at ended
          cases ended with
          | error alike => exact .error alike

/-- Returning something else keeps the runs abreast. -/
theorem map {value : α → γ} {value' : β → δ} {last : γ → δ → Prop}
    (abreast : Abreast reading one other first second agree)
    (agreed : ∀ a b, agree a b → last (value a) (value' b)) :
    Abreast reading (one >>= fun a => pure (value a)) (other >>= fun b => pure (value' b))
      first second last :=
  abreast.bind (fun a b _ _ _ _ agrees alike => .of_ok rfl rfl (agreed a b agrees) alike)
    fun _ _ _ => Nat.le_refl _

/-! The rules for chains that start with one of the parts. -/

section

variable {next : α → TrackerM Machine Nat Nat γ} {next' : β → TrackerM Machine Nat Nat δ}
  {last : γ → δ → Prop}

theorem current_bind {next next' : Tracker Nat → TrackerM Machine Nat Nat γ}
    {last : γ → γ → Prop}
    (onwards : Abreast reading (next first.tracker) (next' second.tracker) first second last) :
    Abreast reading (current >>= next) (current >>= next') first second last :=
  congr (bind_apply current next first) (bind_apply current next' second) onwards

theorem update_bind {change change' : Tracker Nat → Tracker Nat}
    {next next' : Unit → TrackerM Machine Nat Nat γ} {last : γ → γ → Prop}
    (onwards : Abreast reading (next ()) (next' ()) (first.changed change)
      (second.changed change') last) :
    Abreast reading (update change >>= next) (update change' >>= next') first second last :=
  congr (bind_apply (update change) next first) (bind_apply (update change') next' second) onwards

theorem emit_bind {event event' : Event} {next next' : Unit → TrackerM Machine Nat Nat γ}
    {last : γ → γ → Prop}
    (onwards : Abreast reading (next ()) (next' ()) (first.written (.event event))
      (second.written (.event event')) last) :
    Abreast reading (emit event >>= next) (emit event' >>= next') first second last :=
  congr (bind_apply (emit event) next first) (bind_apply (emit event') next' second) onwards

/-- Calls that are answered alike. -/
theorem ask {call call' : Call Nat Nat} {held : Option Nat}
    {answered : call.Reply → call'.Reply → Machine → Machine → Prop}
    {agree : call.Reply → call'.Reply → Prop} (sameSort : call'.op = call.op)
    (echo : reading.Echoes held answered (Machine.host.answer call first.host)
      (Machine.host.answer call' second.host))
    (onwards : ∀ a b machine machine', answered a b machine machine' →
      agree a b ∧ reading.Scenes (first.called call none machine)
        (second.called call' none machine'))
    (failed : ∀ failure machine machine', reading.Machines held machine machine' →
      reading.Scenes (first.called call (some failure) machine)
        (second.called call' (some failure) machine')) :
    Abreast reading (TrackerM.ask (Machine.host.request call))
      (TrackerM.ask (Machine.host.request call')) first second agree := by
  generalize told : Machine.host.answer call first.host = answer at echo
  generalize told' : Machine.host.answer call' second.host = answer' at echo
  cases echo with
  | ok agreed =>
      obtain ⟨agrees, alike⟩ := onwards _ _ _ _ agreed
      exact of_ok (ask_ok first told) (ask_ok second told') agrees alike
  | @error failure _ _ alike =>
      refine of_error (.error (.host call.op failure)) (ask_error first told) ?_
        (failed failure _ _ alike)
      rw [ask_error second told', sameSort]
      rfl

/-- Calls that are answered alike, and are followed by something else. -/
theorem ask_bind {call call' : Call Nat Nat} {held : Option Nat}
    {answered : call.Reply → call'.Reply → Machine → Machine → Prop}
    {next : call.Reply → TrackerM Machine Nat Nat γ}
    {next' : call'.Reply → TrackerM Machine Nat Nat δ} (sameSort : call'.op = call.op)
    (echo : reading.Echoes held answered (Machine.host.answer call first.host)
      (Machine.host.answer call' second.host))
    (onwards : ∀ a b machine machine', answered a b machine machine' →
      Abreast reading (next a) (next' b) (first.called call none machine)
        (second.called call' none machine') last)
    (failed : ∀ failure machine machine', reading.Machines held machine machine' →
      reading.Scenes (first.called call (some failure) machine)
        (second.called call' (some failure) machine')) :
    Abreast reading (TrackerM.ask (Machine.host.request call) >>= next)
      (TrackerM.ask (Machine.host.request call') >>= next') first second last := by
  generalize told : Machine.host.answer call first.host = answer at echo
  generalize told' : Machine.host.answer call' second.host = answer' at echo
  cases echo with
  | ok agreed =>
      refine congr ?_ ?_ (onwards _ _ _ _ agreed)
      · rw [bind_apply, ask_ok first told]
      · rw [bind_apply, ask_ok second told']
  | @error failure _ _ alike =>
      refine of_error (.error (.host call.op failure)) ?_ ?_ (failed failure _ _ alike)
      · rw [bind_apply, ask_error first told]
      · rw [bind_apply, ask_error second told', sameSort]
        rfl

/-- A poisoned tracker is refused in both runs. -/
theorem requireUsable_bind {next : Unit → TrackerM Machine Nat Nat γ}
    {next' : Unit → TrackerM Machine Nat Nat δ} (alike : reading.Scenes first second)
    (onwards : Abreast reading (next ()) (next' ()) first second last) :
    Abreast reading (requireUsable >>= next) (requireUsable >>= next') first second last := by
  have same := alike.tracker.poisoned
  cases poisoned : first.tracker.poisoned with
  | false =>
      rw [poisoned] at same
      refine congr ?_ ?_ onwards
      · rw [bind_apply, requireUsable_apply poisoned]
      · rw [bind_apply, requireUsable_apply same]
  | true =>
      rw [poisoned] at same
      refine of_error (.error .poisoned) ?_ ?_ alike
      · rw [bind_apply, requireUsable_of_poisoned poisoned]
      · rw [bind_apply, requireUsable_of_poisoned same]
        rfl

/-- A tracker without a session is refused in both runs. -/
theorem requireSession_bind {next : Nat → TrackerM Machine Nat Nat γ}
    {next' : Nat → TrackerM Machine Nat Nat δ} (alike : reading.Scenes first second)
    (onwards : ∀ session, first.tracker.session = some session →
      second.tracker.session = some (reading.session session) →
      Abreast reading (next session) (next' (reading.session session)) first second last) :
    Abreast reading (requireSession >>= next) (requireSession >>= next') first second last := by
  have same := alike.tracker.session
  cases opened : first.tracker.session with
  | none =>
      rw [opened] at same
      refine of_error (.error .notInitialized) ?_ ?_ alike
      · rw [bind_apply, requireSession_of_none opened]
      · rw [bind_apply, requireSession_of_none same]
        rfl
  | some session =>
      rw [opened] at same
      refine congr ?_ ?_ (onwards session opened same)
      · rw [bind_apply, requireSession_apply opened]
      · rw [bind_apply, requireSession_apply same]

end

end Abreast

namespace Reading.Scenes

variable {reading : Reading} {first second : Scene Machine Nat Nat}

/-- Scenes stay alike with an entry in the trace. -/
theorem written (alike : reading.Scenes first second) (entry : TraceEntry) :
    reading.Scenes (first.written entry) (second.written (reading.entry entry)) := by
  refine ⟨alike.tracker, alike.machine, alike.calls, ?_⟩
  rw [Scene.written, Scene.written, alike.trace, List.map_append]
  rfl

/-- Scenes stay alike with a call. -/
theorem called (alike : reading.Scenes first second) {machine machine' : Machine}
    (machines : reading.Machines first.tracker.session machine machine') (call : Call Nat Nat)
    (failure? : Option HostError) :
    reading.Scenes (first.called call failure? machine)
      (second.called (reading.call call) failure? machine') := by
  refine ⟨alike.tracker, machines, ?_, alike.trace⟩
  rw [Scene.calls_called, Scene.calls_called, alike.calls, List.map_append]
  rfl

/-- Scenes stay alike with trackers that are changed alike, and stay in their sessions. -/
theorem changed (alike : reading.Scenes first second) {change change' : Tracker Nat → Tracker Nat}
    (trackers : reading.Trackers (change first.tracker) (change' second.tracker))
    (stays : (change first.tracker).session = first.tracker.session ∨
      (change first.tracker).session = none) :
    reading.Scenes (first.changed change) (second.changed change') := by
  refine ⟨trackers, ?_, alike.calls, alike.trace⟩
  rcases stays with same | closed
  · change reading.Machines (change first.tracker).session first.host second.host
    rw [same]
    exact alike.machine
  · change reading.Machines (change first.tracker).session first.host second.host
    rw [closed]
    exact alike.machine.leave

/-- What is read and what is not do not differ in whether they poison the tracker. -/
theorem settled (alike : reading.Scenes first second) (stop : Stop) :
    reading.Scenes (first.settled stop) (second.settled (reading.stop stop)) := by
  cases stop with
  | abort abort => exact alike
  | error error =>
      simp only [Reading.stop, Scene.settled, isUnrecoverable_error]
      split
      · have tracker := alike.tracker
        have poisoned : reading.Scenes
            (first.changed fun tracker => { tracker with poisoned := true })
            (second.changed fun tracker => { tracker with poisoned := true }) :=
          alike.changed ⟨tracker.sound.congr rfl rfl rfl, tracker.soundOther.congr rfl rfl rfl,
            tracker.session, tracker.tracked, tracker.allocated, tracker.settings, tracker.passes,
            tracker.pendingUnloads, rfl⟩ (.inl rfl)
        exact poisoned.written (.event (.unrecoverable error))
      · exact alike

end Reading.Scenes

namespace Abreast

variable {reading : Reading} {one : TrackerM Machine Nat Nat α} {other : TrackerM Machine Nat Nat β}
  {first second : Scene Machine Nat Nat} {agree : α → β → Prop}

theorem within {span : Span}
    (abreast : Abreast reading one other (first.written (.entered span))
      (second.written (.entered (reading.span span))) agree) :
    Abreast reading (TrackerM.within span one) (TrackerM.within (reading.span span) other)
      first second agree := by
  unfold Abreast TrackerM.left at abreast ⊢
  rw [within_apply, within_apply]
  generalize one (first.written (.entered span)) = result at abreast ⊢
  generalize other (second.written (.entered (reading.span span))) = result' at abreast ⊢
  intro room
  cases result with
  | ok a first' =>
      cases abreast room with
      | ok agreed alike => exact .ok agreed (alike.written (.left span))
  | error stop first' =>
      cases abreast room with
      | error alike => exact .error (alike.written (.left span))

theorem poisoning (abreast : Abreast reading one other first second agree) :
    Abreast reading (TrackerM.poisoning one) (TrackerM.poisoning other) first second agree := by
  unfold Abreast TrackerM.left at abreast ⊢
  rw [poisoning_apply, poisoning_apply]
  generalize one first = result at abreast ⊢
  generalize other second = result' at abreast ⊢
  intro room
  cases result with
  | ok a first' =>
      cases abreast room with
      | ok agreed alike => exact .ok agreed alike
  | error stop first' =>
      have sameTags : (first'.settled stop).allocated = first'.allocated := by
        rw [Scene.allocated, Scene.tracker_settled]
        rfl
      simp only [sameTags] at room
      cases abreast room with
      | error alike => exact .error (alike.settled stop)

end Abreast

end ClassLiveness

import ClassLiveness.Scenario.Run

/-!
# Reading one run as another

Two runs of a tracker can be the same up to names: the tags of one are the tags of the
other with their numbers shifted, its sessions are numbered differently, and more unload
passes have gone before.  A reading (`Reading`) says how the one is read as the other, and
everything that a run shows is read with it: tags and records, errors and aborts, calls,
the trace, replies and statistics.

Numbers that no tag can carry are not reached by a shift, so a tag is read faithfully
if the shifted number fits (`Reading.Fits`, `Reading.tag_inj`).
-/

set_option autoImplicit false

namespace ClassLiveness

/-- How a run is read as another. -/
structure Reading where
  /-- By how much the numbers of the tags are shifted. -/
  shift : Nat
  /-- The numbers of the sessions. -/
  session : Nat → Nat
  /-- The passes that have completed, given those of the run. -/
  passes : PassHistory → PassHistory
  /-- How many passes have completed before those of the run. -/
  earlier : Nat
  completed_passes : ∀ own, (passes own).completed = own.completed + earlier
  passes_record : ∀ own pass, passes (own.record pass) = (passes own).record pass

namespace Reading

variable (reading : Reading)

/-! ## Tags -/

/-- The tag whose number is shifted.  A number that would pass the limit stays at it. -/
def tag (tag : Tag) : Tag where
  number := min (tag.number + reading.shift) Tag.limit
  number_pos := Nat.lt_min.mpr ⟨Nat.add_pos_left tag.number_pos _, by decide⟩
  number_le_limit := Nat.min_le_right _ _

/-- The number of a tag, or zero, which is none. -/
def number (number : Nat) : Nat := if number = 0 then 0 else number + reading.shift

def record (record : ClassRecord) : ClassRecord := ⟨reading.tag record.tag, record.signature⟩

/-! ## Errors and aborts -/

def error : TrackingError → TrackingError
  | .duplicateClass tag => .duplicateClass (reading.tag tag)
  | .inconsistentTags tag count => .inconsistentTags (reading.tag tag) count
  | .host op failure => .host op failure
  | .notInitialized => .notInitialized
  | .alreadyInitialized => .alreadyInitialized
  | .poisoned => .poisoned

def abort : Abort → Abort
  | .trackedTwice tag => .trackedTwice (reading.tag tag)
  | .tagsExhausted allocated => .tagsExhausted (allocated + reading.shift)
  | .capacityOverflow => .capacityOverflow
  | .chainReachedVacant slot => .chainReachedVacant slot
  | .releasedVacant slot => .releasedVacant slot

def stop : Stop → Stop
  | .error error => .error (reading.error error)
  | .abort abort => .abort (reading.abort abort)

@[simp]
theorem isUnrecoverable_error (error : TrackingError) :
    (reading.error error).isUnrecoverable = error.isUnrecoverable := by
  cases error <;> rfl

/-! ## Calls and the trace -/

def call : Call Nat Nat → Call Nat Nat
  | .openSession => .openSession
  | .loadedClasses => .loadedClasses
  | .tagOf session handle => .tagOf (reading.session session) handle
  | .signatureOf handle => .signatureOf handle
  | .setTag session handle tag => .setTag (reading.session session) handle (reading.tag tag)
  | .liveCount session tag => .liveCount (reading.session session) (reading.tag tag)
  | .close session => .close (reading.session session)

def callRecord (record : CallRecord Nat Nat) : CallRecord Nat Nat :=
  ⟨reading.call record.call, record.failure?⟩

def span : Span → Span
  | .startup => .startup
  | .unloadPass passId tracked => .unloadPass (passId + reading.earlier) tracked

def event : Event → Event
  | .classTracked tag signature => .classTracked (reading.tag tag) signature
  | .initialized enumerated tracked => .initialized enumerated tracked
  | .classUnloaded signature => .classUnloaded signature
  | .passEnd examined unloaded => .passEnd examined unloaded
  | .reset released => .reset released
  | .unrecoverable error => .unrecoverable (reading.error error)
  | .fatal error => .fatal (reading.error error)

def entry : TraceEntry → TraceEntry
  | .entered span => .entered (reading.span span)
  | .left span => .left (reading.span span)
  | .event event => .event (reading.event event)

/-! ## Commands and replies -/

def command : Command Nat → Command Nat
  | .isTracked number => .isTracked (reading.number number)
  | .signature number => .signature (reading.number number)
  | command => command

def metrics (metrics : Metrics) : Metrics :=
  ⟨metrics.classesTracked, metrics.tagsAllocated + reading.shift, reading.passes metrics.passes⟩

def reply : Reply → Reply
  | .tag tag => .tag (reading.tag tag)
  | .records records => .records (records.map reading.record)
  | .metrics metrics => .metrics (reading.metrics metrics)
  | reply => reply

/-! ## Steps of a scenario -/

def change : Machine.Change → Machine.Change
  | .setHolders number count => .setHolders (reading.number number) count
  | .writeTag session handle number =>
      .writeTag (reading.session session) handle (reading.number number)
  | change => change

def action : Scenario.Action → Scenario.Action
  | .command command reporting => .command (reading.command command) reporting
  | action => action

def step : Scenario.Step → Scenario.Step
  | .change change => .change (reading.change change)
  | .act tracker action => .act tracker (reading.action action)

/-! ## What fits -/

/-- A tag is read with its number shifted, and not cut off at the limit. -/
def Fits (tag : Tag) : Prop := tag.number + reading.shift ≤ Tag.limit

/-- A number is read within the limit, if it is within it. -/
def NumberFits (number : Nat) : Prop :=
  number ≤ Tag.limit → number + reading.shift ≤ Tag.limit

/-- The numbers that a command names are read as those of tags, if they are any. -/
def CommandFits : Command Nat → Prop
  | .isTracked number | .signature number => reading.NumberFits number
  | _ => True

def ActionFits : Scenario.Action → Prop
  | .command command _ => reading.CommandFits command
  | _ => True

/-- The numbers that a step names are read as those of tags, if they are any. -/
def StepFits : Scenario.Step → Prop
  | .change (.writeTag _ _ number) => reading.NumberFits number
  | .change _ => True
  | .act _ action => reading.ActionFits action

variable {reading}

theorem number_tag {tag : Tag} (fits : reading.Fits tag) :
    (reading.tag tag).number = tag.number + reading.shift :=
  Nat.min_eq_left fits

theorem tag_inj {first second : Tag} (fitsFirst : reading.Fits first)
    (fitsSecond : reading.Fits second) :
    reading.tag first = reading.tag second ↔ first = second := by
  refine ⟨fun same => Tag.ext ?_, congrArg reading.tag⟩
  have numbers := congrArg Tag.number same
  rw [number_tag fitsFirst, number_tag fitsSecond] at numbers
  omega

/-- A number that fits is that of a tag as before, or of none as before. -/
theorem ofNat?_number {number : Nat} (fits : reading.NumberFits number) :
    Tag.ofNat? (reading.number number) = (Tag.ofNat? number).map reading.tag := by
  unfold Reading.number
  split
  · rename_i isZero
    rw [isZero]
    rfl
  · rename_i positive
    rcases Nat.lt_or_ge Tag.limit number with above | within
    · have untagged : Tag.ofNat? number = none := dif_neg (by omega)
      have stays : Tag.ofNat? (number + reading.shift) = none := dif_neg (by omega)
      rw [untagged, stays, Option.map_none]
    · have asTag : Tag.ofNat? number = some ⟨number, by omega, within⟩ :=
        Tag.ofNat?_eq_some_iff.mpr rfl
      rw [asTag, Option.map_some]
      exact Tag.ofNat?_eq_some_iff.mpr (Nat.min_eq_left (fits within))

/-- The tag of a number that fits does so itself. -/
theorem fits_of_ofNat? {number : Nat} (fits : reading.NumberFits number) {tag : Tag}
    (asTag : Tag.ofNat? number = some tag) : reading.Fits tag := by
  have isNumber := Tag.ofNat?_eq_some_iff.mp asTag
  have within := tag.number_le_limit
  rw [isNumber] at within
  rw [Fits, isNumber]
  exact fits within

end Reading

end ClassLiveness

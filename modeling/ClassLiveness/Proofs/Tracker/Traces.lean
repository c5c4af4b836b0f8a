import ClassLiveness.Class.Record
import ClassLiveness.Tracker.Settings
import ClassLiveness.Tracker.Trace
import Mathlib.Data.List.Basic

/-!
# What a trace tells

A trace is well nested if it leaves every span that it has entered, the one entered last
first (`WellNested`).  The events of one sort are picked out of a trace with what they tell
(`told`), so that two traces can be compared in what they tell of one thing.

A command writes its events one after the other, and works within one span at most.  Such a
trace is a recital of its events (`recital`): it is well nested (`wellNested_recital`), and it
tells what its events tell (`told_recital`).
-/

set_option autoImplicit false

namespace ClassLiveness

variable {α : Type}

/-! ## Nesting -/

/-- The trace leaves every span that it has entered, the one entered last first. -/
inductive WellNested : List TraceEntry → Prop where
  | nil : WellNested []
  | event (event : Event) {rest : List TraceEntry} :
      WellNested rest → WellNested (.event event :: rest)
  | span (span : Span) {inner rest : List TraceEntry} :
      WellNested inner → WellNested rest →
        WellNested (.entered span :: (inner ++ .left span :: rest))

/-- Events alone are well nested. -/
theorem wellNested_events (events : List Event) :
    WellNested (events.map TraceEntry.event) := by
  induction events with
  | nil => exact .nil
  | cons event rest ih => exact .event event ih

/-! ## The sorts of events -/

namespace Event

/-- The record of which it is told that it is tracked. -/
def tracked? : Event → Option ClassRecord
  | .classTracked tag signature => some ⟨tag, signature⟩
  | _ => none

/-- How many classes a startup enumeration is told to have listed, and how many to have left
tracked. -/
def initialized? : Event → Option (Nat × Nat)
  | .initialized enumerated tracked => some (enumerated, tracked)
  | _ => none

/-- The signature of which it is told that its class was unloaded. -/
def unloaded? : Event → Option String
  | .classUnloaded signature => some signature
  | _ => none

/-- What an unload pass is told to have done. -/
def passEnd? : Event → Option PassStats
  | .passEnd examined unloaded => some ⟨examined, unloaded⟩
  | _ => none

/-- How many records a reset is told to have given up. -/
def reset? : Event → Option Nat
  | .reset released => some released
  | _ => none

/-- The error that is told to have poisoned the tracker. -/
def unrecoverable? : Event → Option TrackingError
  | .unrecoverable error => some error
  | _ => none

end Event

/-- What the events of one sort tell, in the order of the trace. -/
def told (pick : Event → Option α) (trace : List TraceEntry) : List α :=
  trace.filterMap fun
    | .event event => pick event
    | .entered _ | .left _ => none

theorem told_append (pick : Event → Option α) (first second : List TraceEntry) :
    told pick (first ++ second) = told pick first ++ told pick second :=
  List.filterMap_append

theorem told_events (pick : Event → Option α) (events : List Event) :
    told pick (events.map TraceEntry.event) = events.filterMap pick :=
  List.filterMap_map

/-! ## Recitals -/

/-- The trace of events that are written one after the other, within a span if there is
one. -/
def recital (span? : Option Span) (events : List Event) : List TraceEntry :=
  match span? with
  | none => events.map .event
  | some span => .entered span :: (events.map .event ++ [.left span])

/-- **A recital is well nested.** -/
theorem wellNested_recital (span? : Option Span) (events : List Event) :
    WellNested (recital span? events) := by
  cases span? with
  | none => exact wellNested_events events
  | some span => exact .span span (wellNested_events events) .nil

/-- **A recital tells what its events tell.** -/
theorem told_recital (pick : Event → Option α) (span? : Option Span) (events : List Event) :
    told pick (recital span? events) = events.filterMap pick := by
  cases span? with
  | none => exact told_events pick events
  | some span =>
      refine (told_append pick (events.map .event) [.left span]).trans ?_
      rw [told_events]
      exact List.append_nil _

end ClassLiveness

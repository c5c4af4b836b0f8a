import ClassLiveness.Diagnosis.Error

/-!
# The trace of a tracker

A tracker tells what it does in a trace.  An entry of the trace is an event, or
marks that a span of work is entered or left.  Every event and every span has a
name, a level and named fields.
-/

set_option autoImplicit false

namespace ClassLiveness

/-- How much an entry of the trace matters. -/
inductive Level where
  | trace
  | debug
  | error
deriving DecidableEq

/-- The name of a level. -/
def Level.name : Level → String
  | .trace => "TRACE"
  | .debug => "DEBUG"
  | .error => "ERROR"

/-- The value of a field. -/
inductive FieldValue where
  | number (value : Nat)
  | text (value : String)
deriving DecidableEq

/-! ## Spans -/

/-- A stretch of work. -/
inductive Span where
  /-- The startup enumeration. -/
  | startup
  /-- An unload pass: its number, counted from one, and how many classes it starts with. -/
  | unloadPass (passId tracked : Nat)
deriving DecidableEq

namespace Span

/-- The name of a span. -/
def name : Span → String
  | .startup => "class_track_initialize"
  | .unloadPass .. => "process_unloads"

/-- The level of a span. -/
def level : Span → Level
  | .startup | .unloadPass .. => .debug

/-- The fields of a span. -/
def fields : Span → List (String × FieldValue)
  | .startup => []
  | .unloadPass passId tracked => [("pass_id", .number passId), ("tracked", .number tracked)]

end Span

/-! ## Events -/

/-- Something that happened. -/
inductive Event where
  /-- A class is tracked from here on. -/
  | classTracked (tag : Tag) (signature : String)
  /-- The startup enumeration is complete. -/
  | initialized (enumerated tracked : Nat)
  /-- A class was found unloaded. -/
  | classUnloaded (signature : String)
  /-- An unload pass is complete. -/
  | passEnd (examined unloaded : Nat)
  /-- The tracker was reset, and gave up its records. -/
  | reset (released : Nat)
  /-- An error poisoned the tracker. -/
  | unrecoverable (error : TrackingError)
  /-- An error was handed to a reporter. -/
  | fatal (error : TrackingError)
deriving DecidableEq

namespace Event

/-- The name of an event. -/
def name : Event → String
  | .classTracked .. => "class_tracked"
  | .initialized .. => "initialized"
  | .classUnloaded .. => "class_unloaded"
  | .passEnd .. => "pass_end"
  | .reset .. => "reset"
  | .unrecoverable .. => "unrecoverable"
  | .fatal .. => "fatal"

/-- The level of an event. -/
def level : Event → Level
  | .classTracked .. => .trace
  | .initialized .. | .classUnloaded .. | .passEnd .. | .reset .. => .debug
  | .unrecoverable .. | .fatal .. => .error

/-- The fields of an event. -/
def fields : Event → List (String × FieldValue)
  | .classTracked tag signature => [("tag", .number tag.number), ("signature", .text signature)]
  | .initialized enumerated tracked =>
      [("enumerated", .number enumerated), ("tracked", .number tracked)]
  | .classUnloaded signature => [("signature", .text signature)]
  | .passEnd examined unloaded => [("examined", .number examined), ("unloaded", .number unloaded)]
  | .reset released => [("released", .number released)]
  | .unrecoverable error | .fatal error =>
      [("kind", .text error.kind.name), ("error", .text error.message)]

end Event

/-! ## Traces -/

/-- An entry of the trace. -/
inductive TraceEntry where
  | entered (span : Span)
  | left (span : Span)
  | event (event : Event)
deriving DecidableEq

end ClassLiveness

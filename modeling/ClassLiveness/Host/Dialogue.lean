import ClassLiveness.Diagnosis.Error
import ClassLiveness.Host.Interface

/-!
# Talking to the host

A dialogue is the host's state together with the calls made so far.  Every call
goes through `Host.request`, which writes it down whether it succeeds or not and
turns a failure into an error that names the sort of call.  The first failure
ends the computation, so a failed call is the last one of its dialogue.
-/

set_option autoImplicit false

namespace ClassLiveness

/-- The host's state and the calls made on it, in order. -/
structure Dialogue (σ C S : Type) where
  host : σ
  calls : List (CallRecord C S)

/-- A computation that talks to the host and does nothing else. -/
abbrev HostM (σ C S : Type) := EStateM TrackingError (Dialogue σ C S)

namespace Host

variable {σ C S : Type}

/-- Makes a call. -/
def request (host : Host σ C S) (call : Call C S) : HostM σ C S call.Reply := fun dialogue =>
  match host.answer call dialogue.host with
  | (.ok reply, after) => .ok reply ⟨after, dialogue.calls ++ [⟨call, none⟩]⟩
  | (.error failure, after) =>
      .error (.host call.op failure) ⟨after, dialogue.calls ++ [⟨call, some failure⟩]⟩

/-- Whether a tag has a live holder in a session.  A tag that has more than one
was not given out by the tracker alone, and that is an error. -/
def isLive (host : Host σ C S) (session : S) (tag : Tag) : HostM σ C S Bool := do
  let count : Nat ← host.request (.liveCount session tag)
  match count with
  | 0 => return false
  | 1 => return true
  | extra => throw (.inconsistentTags tag extra)

end Host

end ClassLiveness

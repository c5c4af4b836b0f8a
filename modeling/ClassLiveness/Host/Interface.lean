import ClassLiveness.Class.Record
import ClassLiveness.Host.Failure

/-!
# What a tracker asks of its host

The host is the machine whose classes are tracked.  It lists its loaded classes
and resolves their signatures, and it opens private tagging sessions in which a
class carries a tag and the live holders of a tag can be counted.

A call is a value here (`Call`), and the type of its reply is computed from it
(`Call.Reply`).  So a host is one function from calls to replies, and nothing is
assumed of it: it has a state of its own, and it may answer the same call in
different ways, or fail it, as it likes.
-/

set_option autoImplicit false

namespace ClassLiveness

/-- A call on a host whose classes are named by `C` and whose sessions by `S`. -/
inductive Call (C S : Type) where
  | openSession
  | loadedClasses
  | tagOf (session : S) (handle : C)
  | signatureOf (handle : C)
  | setTag (session : S) (handle : C) (tag : Tag)
  | liveCount (session : S) (tag : Tag)
  | close (session : S)
deriving DecidableEq

namespace Call

variable {C S : Type}

/-- What a host replies to a call that succeeds. -/
@[reducible]
def Reply : Call C S → Type
  | .openSession => S
  | .loadedClasses => List (LoadedClass C)
  | .tagOf _ _ => Option Tag
  | .signatureOf _ => String
  | .setTag _ _ _ => Unit
  | .liveCount _ _ => Nat
  | .close _ => Unit

/-- The sort of a call. -/
def op : Call C S → HostOp
  | .openSession => .openSession
  | .loadedClasses => .loadedClasses
  | .tagOf _ _ => .getTag
  | .signatureOf _ => .signature
  | .setTag _ _ _ => .setTag
  | .liveCount _ _ => .liveCount
  | .close _ => .closeSession

/-- The session that a call names. -/
def session? : Call C S → Option S
  | .openSession | .loadedClasses | .signatureOf _ => none
  | .tagOf session _ | .setTag session _ _ | .liveCount session _ | .close session => some session

/-- The text of a call: its name, then the session, the class and the tag that
it names, parted by spaces. -/
def text [ToString C] [ToString S] : Call C S → String
  | .openSession => "open_session"
  | .loadedClasses => "loaded_classes"
  | .tagOf session handle => "tag_of " ++ toString session ++ " " ++ toString handle
  | .signatureOf handle => "signature_of " ++ toString handle
  | .setTag session handle tag =>
      "set_tag " ++ toString session ++ " " ++ toString handle ++ " " ++ tag.text
  | .liveCount session tag => "live_count " ++ toString session ++ " " ++ tag.text
  | .close session => "close " ++ toString session

end Call

/-- A host with states `σ`: how it answers a call, and what becomes of it. -/
structure Host (σ C S : Type) where
  answer : (call : Call C S) → σ → Except HostError call.Reply × σ

/-- A call that was made, and why it failed, if it did. -/
structure CallRecord (C S : Type) where
  call : Call C S
  failure? : Option HostError
deriving DecidableEq

end ClassLiveness

import ClassLiveness.Proofs.Registry.Keeping
import ClassLiveness.Tracker.Command
import Mathlib.Data.List.Nodup

/-!
# What a host promises of its sessions

A tracker can only be right about classes if the host keeps some promises about
tagging sessions (`SessionContract`): a session gives a class at most one tag, only
the calls that hang a tag on a class write it, and the live holders of a tag are the
loaded classes that have it.  Nothing is promised of a call that fails, except that
the host goes on keeping its promises.

Which class a tag was hung on is told by the calls that the tracker has made since
it was last reset (`marks`), and somebody who listens to them also hears the signature
that the host gave of the class (`listen`, `owner?`).  `Lives` says that a tracker has
come to its present state on such a host: between its commands anything may happen to
the host but to the tags of the tracker's own session.
-/

set_option autoImplicit false

namespace ClassLiveness

variable {σ C S : Type}

/-! ## The promises -/

/-- A call that writes no tag of a session and opens or closes none. -/
def Call.leavesTags : Call C S → Bool
  | .loadedClasses | .tagOf .. | .signatureOf _ | .liveCount .. => true
  | .openSession | .setTag .. | .close _ => false

/-- What a host promises of its tagging sessions. -/
structure SessionContract (host : Host σ C S) where
  /-- The promises hold in a state. -/
  lawful : σ → Prop
  loaded : σ → C → Bool
  /-- The tags that an open session has given. -/
  tags : σ → S → Option (C → Option Tag)
  lawful_after : ∀ (call : Call C S) (state : σ), lawful state →
    lawful (host.answer call state).2
  /-- A session starts without tags. -/
  opens : ∀ {state after : σ} {session : S}, lawful state →
    host.answer .openSession state = (.ok session, after) →
      tags after session = some fun _ => none
  /-- Only hanging a tag on a class writes the tags of a session. -/
  leaves : ∀ {state after : σ} {call : Call C S} {reply : call.Reply}, lawful state →
    call.leavesTags = true → host.answer call state = (.ok reply, after) →
      tags after = tags state
  /-- Hanging a tag on a class changes the tag of this class. -/
  writes : ∀ {state after : σ} {session : S} {handle : C} {tag : Tag} {given : C → Option Tag},
    lawful state → tags state session = some given →
    host.answer (.setTag session handle tag) state = (.ok (), after) →
      ∃ givenAfter, tags after session = some givenAfter ∧ givenAfter handle = some tag ∧
        ∀ other, other ≠ handle → givenAfter other = given other
  /-- The tag that is read of a class is the one that it has. -/
  reads : ∀ {state after : σ} {session : S} {handle : C} {carried : Option Tag}
    {given : C → Option Tag}, lawful state → tags state session = some given →
    host.answer (.tagOf session handle) state = (.ok carried, after) → carried = given handle
  /-- The live holders of a tag are counted. -/
  counts : ∀ {state after : σ} {session : S} {tag : Tag} {count : Nat} {given : C → Option Tag},
    lawful state → tags state session = some given →
    host.answer (.liveCount session tag) state = (.ok count, after) →
      ∃ holders : List C, holders.Nodup ∧ holders.length = count ∧
        ∀ handle, handle ∈ holders ↔ loaded state handle = true ∧ given handle = some tag
  /-- Counting loads and unloads no class. -/
  loaded_after : ∀ {state after : σ} {session : S} {tag : Tag} {count : Nat}, lawful state →
    host.answer (.liveCount session tag) state = (.ok count, after) → loaded after = loaded state

/-- A host goes on keeping its promises, whatever it answers. -/
theorem SessionContract.lawful_of_answer {host : Host σ C S} (contract : SessionContract host)
    {call : Call C S} {state after : σ} {answer : Except HostError call.Reply}
    (lawful : contract.lawful state) (answered : host.answer call state = (answer, after)) :
    contract.lawful after := by
  have goesOn := contract.lawful_after call state lawful
  rw [answered] at goesOn
  exact goesOn

/-! ## What the calls of a session tell -/

/-- The class and the tag of a call that has hung the tag on the class. -/
def CallRecord.mark? : CallRecord C S → Option (C × Tag)
  | ⟨.setTag _ handle tag, none⟩ => some (handle, tag)
  | _ => none

/-- The classes on which tags were hung, with their tags. -/
def marks (log : List (CallRecord C S)) : List (C × Tag) := log.filterMap CallRecord.mark?

/-- The class whose signature was asked for in a call. -/
def CallRecord.named? : CallRecord C S → Option C
  | ⟨.signatureOf handle, _⟩ => some handle
  | _ => none

/-- The classes whose signatures were asked for.  A class that is given to the
tracker twice, and passes the check for duplicates, is here twice. -/
def offered (log : List (CallRecord C S)) : List C := log.filterMap CallRecord.named?

/-- Duplicates are checked for, or no class was given to the tracker twice. -/
def Undisputed (settings : Settings) (log : List (CallRecord C S)) : Prop :=
  settings.checkDuplicates = true ∨ (offered log).Nodup

/-! ## Listening to the calls -/

/-- What is known to somebody who listens to the calls on a host: its state, the
signature that it gave last, and the classes that were tagged, each with its tag and
the signature that the host gave just before. -/
structure Listener (σ C : Type) where
  host : σ
  signature : String
  roll : List (C × ClassRecord)

/-- The listener after one more call. -/
def Listener.hear (host : Host σ C S) (listener : Listener σ C) (record : CallRecord C S) :
    Listener σ C :=
  match record.call with
  | .signatureOf handle =>
      match host.answer (.signatureOf handle) listener.host with
      | (.ok signature, after) => ⟨after, signature, listener.roll⟩
      | (.error _, after) => { listener with host := after }
  | .setTag session handle tag =>
      match host.answer (.setTag session handle tag) listener.host with
      | (.ok (), after) =>
          ⟨after, listener.signature, listener.roll ++ [(handle, ⟨tag, listener.signature⟩)]⟩
      | (.error _, after) => { listener with host := after }
  | call => { listener with host := (host.answer call listener.host).2 }

/-- The class that a record is of. -/
def owner? (roll : List (C × ClassRecord)) (record : ClassRecord) : Option C :=
  (roll.find? fun entry => entry.2 = record).map Prod.fst

/-- What is known after a list of calls, of which the first meets the host in a state. -/
def listen (host : Host σ C S) (state : σ) (roll : List (C × ClassRecord))
    (calls : List (CallRecord C S)) : Listener σ C :=
  calls.foldl (Listener.hear host) ⟨state, "", roll⟩

/-! ## Runs on a lawful host -/

/-- What is remembered of the past of a tracker after a command: a reset begins anew. -/
def Command.remembered {α : Type} (command : Command C) (past : List α) : List α :=
  match command with
  | .reset => []
  | _ => past

/-- A tracker that started new has come to its present state, on a host that has
come to its state and keeps its promises.  The log is of the calls since the last
reset, and the roll of the classes that were tagged in them. -/
inductive Lives {host : Host σ C S} (contract : SessionContract host) (settings : Settings) :
    Tracker S → σ → List (CallRecord C S) → List (C × ClassRecord) → Prop where
  | new {state : σ} : contract.lawful state →
      Lives contract settings (.new settings) state [] []
  /-- Something happens to the host, but not to the tags of the tracker's session. -/
  | change {tracker : Tracker S} {before after : σ} {log : List (CallRecord C S)}
      {roll : List (C × ClassRecord)} :
      Lives contract settings tracker before log roll → contract.lawful after →
      (∀ session, tracker.session = some session →
        contract.tags after session = contract.tags before session) →
        Lives contract settings tracker after log roll
  | perform {tracker : Tracker S} {state : σ} {log : List (CallRecord C S)}
      {roll : List (C × ClassRecord)} (command : Command C) :
      Lives contract settings tracker state log roll →
        Lives contract settings (tracker.perform host command state).tracker
          (tracker.perform host command state).host
          (command.remembered (log ++ (tracker.perform host command state).calls))
          (command.remembered
            (listen host state roll (tracker.perform host command state).calls).roll)

/-! ## Reading a log -/

theorem marks_append (log more : List (CallRecord C S)) :
    marks (log ++ more) = marks log ++ marks more :=
  List.filterMap_append

theorem offered_append (log more : List (CallRecord C S)) :
    offered (log ++ more) = offered log ++ offered more :=
  List.filterMap_append

/-- The two calls with which a class gets its tag. -/
theorem marks_tagged (log : List (CallRecord C S)) (session : S) (handle : C) (tag : Tag) :
    marks (log ++ [⟨.signatureOf handle, none⟩] ++ [⟨.setTag session handle tag, none⟩]) =
      marks log ++ [(handle, tag)] := by
  rw [marks_append, marks_append]
  exact congrArg (· ++ _) (List.append_nil _)

theorem offered_tagged (log : List (CallRecord C S)) (session : S) (handle : C) (tag : Tag) :
    offered (log ++ [⟨.signatureOf handle, none⟩] ++ [⟨.setTag session handle tag, none⟩]) =
      offered log ++ [handle] := by
  rw [offered_append, offered_append]
  exact List.append_nil _

/-- What was undisputed later was so before. -/
theorem Undisputed.of_append {settings : Settings} {log more : List (CallRecord C S)}
    (undisputed : Undisputed settings (log ++ more)) : Undisputed settings log := by
  rcases undisputed with checked | distinct
  · exact .inl checked
  · rw [offered_append] at distinct
    exact .inr (List.nodup_append.mp distinct).1

/-- A record that is on the roll once is of the class that it is there with. -/
theorem owner?_eq_some_iff {roll : List (C × ClassRecord)} (once : (roll.map Prod.snd).Nodup)
    {record : ClassRecord} {handle : C} :
    owner? roll record = some handle ↔ (handle, record) ∈ roll := by
  rw [owner?, Option.map_eq_some_iff]
  constructor
  · rintro ⟨entry, found, rfl⟩
    obtain ⟨member, rfl⟩ := (find?_key_eq_some_iff once).mp found
    exact member
  · intro member
    exact ⟨(handle, record), (find?_key_eq_some_iff once).mpr ⟨member, rfl⟩, rfl⟩

end ClassLiveness

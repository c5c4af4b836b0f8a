import ClassLiveness.Registry.Requests

/-!
# What a registry amounts to

A registry is read through its answers, and its slots are nobody's business.  A
ledger gives the same answers with two lists and nothing else: the records on the
chain, and the records that were forgotten in a drain.  No slot, link or free
list has to be kept in step here, so what a request does can be read off.

Forgotten records are on no chain, and they are still counted, still found by
their tag, and still keep a second record with their tag out.
-/

set_option autoImplicit false

namespace ClassLiveness

/-- The records of a registry, without the slots. -/
structure Ledger where
  /-- The records on the chain, the one pushed last in front. -/
  chain : List ClassRecord
  /-- The records that no chain leads to. -/
  forgotten : List ClassRecord
deriving DecidableEq

namespace Ledger

open Registry (Request Answer Verdict)

/-- The ledger without records. -/
def empty : Ledger := ⟨[], []⟩

/-! ## Views -/

/-- All the records, forgotten or not. -/
def all (ledger : Ledger) : List ClassRecord := ledger.chain ++ ledger.forgotten

/-- How many records there are. -/
def len (ledger : Ledger) : Nat := ledger.all.length

/-- There is no record. -/
def isEmpty (ledger : Ledger) : Bool := ledger.all.isEmpty

/-- The record of a tag. -/
def get? (ledger : Ledger) (tag : Tag) : Option ClassRecord :=
  ledger.all.find? fun record => record.tag = tag

/-- A tag has a record. -/
def contains (ledger : Ledger) (tag : Tag) : Bool := (ledger.get? tag).isSome

/-! ## Requests -/

/-- Puts a record in front, unless its tag has one already. -/
def push (ledger : Ledger) (record : ClassRecord) : Except Abort Ledger :=
  if ledger.contains record.tag then
    .error (.trackedTwice record.tag)
  else
    .ok { ledger with chain := record :: ledger.chain }

/-- Pushes one record, named by the number of its tag. -/
def servePush (ledger : Ledger) (number : Nat) (signature : String) : Answer × Ledger :=
  match Tag.ofNat? number with
  | none => (.notATag, ledger)
  | some tag =>
      match ledger.push ⟨tag, signature⟩ with
      | .ok after => (.done, after)
      | .error abort => (.aborted abort, ledger)

/-- Pushes records with consecutive tags until one cannot be pushed; `number` of
them have been pushed and `count` are left. -/
def servePushMany (first : Nat) (stem : String) : Nat → Nat → Ledger → Answer × Ledger
  | 0, _, ledger => (.done, ledger)
  | count + 1, number, ledger =>
      match ledger.servePush (first + number) (numberedSignature stem number) with
      | (.done, after) => servePushMany first stem count (number + 1) after
      | stopped => stopped

/-- The question about a record is answered. -/
def isAnswered (verdict : Tag → Verdict) (record : ClassRecord) : Bool :=
  verdict record.tag ≠ .fails

/-- The record is found dead. -/
def isDead (verdict : Tag → Verdict) (record : ClassRecord) : Bool := verdict record.tag = .dead

/-- The records whose questions are answered before one fails. -/
def examined (ledger : Ledger) (verdict : Tag → Verdict) : List ClassRecord :=
  ledger.chain.takeWhile (isAnswered verdict)

/-- The record whose question fails, and the records behind it. -/
def unexamined (ledger : Ledger) (verdict : Tag → Verdict) : List ClassRecord :=
  ledger.chain.dropWhile (isAnswered verdict)

/-- The records that a sweep leaves on the chain: the survivors, and whatever it
did not come to. -/
def kept (ledger : Ledger) (verdict : Tag → Verdict) : List ClassRecord :=
  (ledger.examined verdict).filter (fun record => !isDead verdict record) ++
    ledger.unexamined verdict

/-- The records that a sweep finds dead, the one it came to last in front. -/
def dead (ledger : Ledger) (verdict : Tag → Verdict) : List ClassRecord :=
  ((ledger.examined verdict).filter (isDead verdict)).reverse

/-- Takes the dead records off the chain and hands some of them out, or all
without a limit.  The rest is dropped or forgotten; a failed sweep drops all. -/
def serveDrain (ledger : Ledger) (verdict : Tag → Verdict) (limit : Option Nat) (forget : Bool) :
    Answer × Ledger :=
  let asked := (ledger.examined verdict).map ClassRecord.tag
  let dead := ledger.dead verdict
  let count := limit.getD dead.length
  match ledger.unexamined verdict with
  | failing :: _ =>
      (.failed failing.tag (asked ++ [failing.tag]), ⟨ledger.kept verdict, ledger.forgotten⟩)
  | [] =>
      (.drained (dead.take count) asked,
        ⟨ledger.kept verdict, (if forget then dead.drop count else []) ++ ledger.forgotten⟩)

/-- The answer to a request and the ledger after it. -/
def serve (ledger : Ledger) : Request → Answer × Ledger
  | .push number signature => ledger.servePush number signature
  | .pushMany first count stem => servePushMany first stem count 0 ledger
  | .get number => (.record ((Tag.ofNat? number).bind ledger.get?), ledger)
  | .contains number =>
      match Tag.ofNat? number with
      | none => (.notATag, ledger)
      | some tag => (.truth (ledger.contains tag), ledger)
  | .list => (.records ledger.chain, ledger)
  | .clear => (.done, empty)
  | .drain verdict limit forget => ledger.serveDrain verdict limit forget

/-- The answers to a list of requests, each with the ledger as it stood after
the request. -/
def serveAll : Ledger → List Request → List (Answer × Ledger)
  | _, [] => []
  | ledger, request :: rest =>
      let served := ledger.serve request
      served :: served.2.serveAll rest

end Ledger

end ClassLiveness

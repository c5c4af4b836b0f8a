import ClassLiveness.Registry.Sweep

/-!
# Requests to a registry

A registry can be worked with directly, one request after the other.  The
requests that change it are a push, a drain and a clearing; the others read it.

A drain request comes with a verdict for every tag, so it covers every way in
which a host may answer a sweep: within one sweep no tag is asked about twice.
It also says how many of the dead records are taken, and whether the rest is
released or forgotten.  Requests name a tag by a number, and zero names none.
-/

set_option autoImplicit false

namespace ClassLiveness

namespace Registry

/-- What is answered when a sweep asks about a tag. -/
inductive Verdict where
  | alive
  | dead
  | fails
deriving DecidableEq

/-- What can be asked of a registry in turn. -/
inductive Request where
  /-- Push a record. -/
  | push (number : Nat) (signature : String)
  /-- Push records with consecutive tags, their signatures numbered from zero. -/
  | pushMany (first count : Nat) (stem : String)
  /-- The record of a tag. -/
  | get (number : Nat)
  /-- Whether a tag has a record. -/
  | contains (number : Nat)
  /-- The records on the chain. -/
  | list
  /-- Give up every record. -/
  | clear
  /-- Sweep, take some of the dead (or all), and release or forget the rest. -/
  | drain (verdict : Tag → Verdict) (limit : Option Nat) (forget : Bool)

/-- What a request is answered with. -/
inductive Answer where
  | done
  | record (found : Option ClassRecord)
  | truth (value : Bool)
  | records (found : List ClassRecord)
  /-- The number given is not that of a tag. -/
  | notATag
  /-- The records taken by a drain, and the tags that its sweep asked about. -/
  | drained (taken : List ClassRecord) (asked : List Tag)
  /-- The tag whose question failed, and the tags that the sweep asked about. -/
  | failed (tag : Tag) (asked : List Tag)
  | aborted (abort : Abort)
deriving DecidableEq

/-- Answers a question about a tag by its verdict, and notes the tag. -/
def consult (verdict : Tag → Verdict) (tag : Tag) : EStateM Tag (List Tag) Bool := do
  modify fun asked => asked ++ [tag]
  match verdict tag with
  | .alive => return true
  | .dead => return false
  | .fails => throw tag

/-- Pushes one record, named by the number of its tag. -/
def servePush (registry : Registry) (number : Nat) (signature : String) : Answer × Registry :=
  match Tag.ofNat? number with
  | none => (.notATag, registry)
  | some tag =>
      match registry.push ⟨tag, signature⟩ with
      | .ok after => (.done, after)
      | .error abort => (.aborted abort, registry)

/-- Pushes records with consecutive tags until one cannot be pushed; `number` of
them have been pushed and `count` are left. -/
def servePushMany (first : Nat) (stem : String) :
    Nat → Nat → Registry → Answer × Registry
  | 0, _, registry => (.done, registry)
  | count + 1, number, registry =>
      match registry.servePush (first + number) (numberedSignature stem number) with
      | (.done, after) => servePushMany first stem count (number + 1) after
      | stopped => stopped

/-- Sweeps the registry and drains the dead. -/
def serveDrain (registry : Registry) (verdict : Tag → Verdict) (limit : Option Nat)
    (forget : Bool) : Answer × Registry :=
  match registry.sweep (consult verdict) [] with
  | (.failed tag after, asked) => (.failed tag asked, after)
  | (.broken abort after, _) => (.aborted abort, after)
  | (.drained drain, asked) =>
      match drain.take (limit.getD drain.registry.capacity) with
      | .error abort => (.aborted abort, drain.registry)
      | .ok (taken, rest) =>
          if forget then
            (.drained taken asked, rest.forget)
          else
            match rest.finish with
            | .ok after => (.drained taken asked, after)
            | .error abort => (.aborted abort, rest.registry)

/-- The answer to a request and the registry after it. -/
def serve (registry : Registry) : Request → Answer × Registry
  | .push number signature => registry.servePush number signature
  | .pushMany first count stem => servePushMany first stem count 0 registry
  | .get number => (.record ((Tag.ofNat? number).bind registry.get?), registry)
  | .contains number =>
      match Tag.ofNat? number with
      | none => (.notATag, registry)
      | some tag => (.truth (registry.contains tag), registry)
  | .list => (.records registry.records, registry)
  | .clear => (.done, registry.clear)
  | .drain verdict limit forget => registry.serveDrain verdict limit forget

/-- The answers to a list of requests, each with the registry as it stood after
the request. -/
def serveAll : Registry → List Request → List (Answer × Registry)
  | _, [] => []
  | registry, request :: rest =>
      let served := registry.serve request
      served :: served.2.serveAll rest

end Registry

end ClassLiveness

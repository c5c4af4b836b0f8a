import ClassLiveness.Host.Interface
import ClassLiveness.Machine.State

/-!
# The simulated machine as a host

A call meets the fault in store for its sort first.  If the fault lets it pass,
the machine answers it: a session that is opened takes the next number and
starts without tags, a class that is not loaded has no signature, and the live
holders of a tag are the loaded classes that carry it.

A session that the host has failed to close stays open.
-/

set_option autoImplicit false

namespace ClassLiveness

namespace Machine

/-- What becomes of a call of a sort before the machine looks at it, and the
machine with the fault counted down. -/
def strike (machine : Machine) (op : HostOp) : Option HostError × Machine :=
  match machine.fault? op with
  | none => (none, machine)
  | some fault =>
      (fault.strike.1,
        { machine with
          faults := machine.faults.map fun (sort, stored) =>
            if sort = op then (sort, fault.strike.2) else (sort, stored) })

/-- The failure of asking after the signature of a class that is not loaded. -/
def noSuchClass : HostError := ⟨.invalidClass, "no such class"⟩

/-- The machine's own answer to a call. -/
def reply : (call : Call Nat Nat) → Machine → Except HostError call.Reply × Machine
  | .openSession, machine =>
      (.ok machine.opened,
        { machine with
          sessions := machine.sessions.insert machine.opened ∅
          opened := machine.opened + 1 })
  | .loadedClasses, machine => (.ok (machine.enumeration.getD machine.loadedClasses), machine)
  | .tagOf session handle, machine => (.ok (machine.tagOf session handle), machine)
  | .signatureOf handle, machine =>
      match machine.classes[handle]? with
      | some found =>
          if found.loaded then (.ok found.signature, machine) else (.error noSuchClass, machine)
      | none => (.error noSuchClass, machine)
  | .setTag session handle tag, machine =>
      (.ok (), machine.changeTags session fun tags => tags.insert handle tag)
  | .liveCount session tag, machine =>
      (.ok (machine.holders[tag.number]?.getD (machine.holderCount session tag)), machine)
  | .close session, machine =>
      (.ok (), { machine with sessions := machine.sessions.erase session })

/-- The simulated machine answers the calls of a tracker. -/
def host : Host Machine Nat Nat where
  answer := fun call machine =>
    match machine.strike call.op with
    | (some failure, after) => (.error failure, after)
    | (none, after) => reply call after

end Machine

end ClassLiveness

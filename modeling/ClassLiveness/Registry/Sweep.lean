import ClassLiveness.Registry.Drain

/-!
# Sweeping the registry

A sweep walks the chain once and asks of every record whether it is alive.  It
remembers the link that leads to the record under examination: the head of the
chain, or the `next` field of the last survivor.  A dead record is taken off the
chain by rewriting that link, and is put in front of a second chain, that of the
doomed.  So the survivors keep their order, and the doomed come out in the
reverse order of their examination.

If every question is answered, the doomed are handed over as a drain.  If a
question fails, the records found dead so far are released and the failure is
passed on; the record in question and all behind it stay where they are.
-/

set_option autoImplicit false

namespace ClassLiveness

/-- A sweep under way. -/
structure Sweep where
  registry : Registry
  /-- The last survivor, whose `next` field leads to the record under
  examination; without one, the head of the chain does. -/
  link : Option Nat
  /-- The slot of the record under examination. -/
  cursor : Option Nat
  /-- The slot of the record found dead last. -/
  doomed : Option Nat

/-- How a sweep ends. -/
inductive Swept (ε : Type) where
  /-- Every record was examined, and the dead ones are ready to be drained. -/
  | drained (drain : Drain)
  /-- A question failed, and the records found dead before it were released. -/
  | failed (reason : ε) (registry : Registry)
  /-- The chains of the registry are broken. -/
  | broken (abort : Abort) (registry : Registry)

namespace Sweep

/-- Before the first question. -/
def start (registry : Registry) : Sweep := ⟨registry, none, registry.head, none⟩

/-- The record under examination is alive: from here on its slot is the link. -/
def spare (sweep : Sweep) (slot : Nat) (next : Option Nat) : Sweep :=
  { sweep with link := some slot, cursor := next }

/-- Makes the link lead to another slot. -/
def relink (sweep : Sweep) (target : Option Nat) : Registry :=
  match sweep.link with
  | none => { sweep.registry with head := target }
  | some survivor => sweep.registry.setNext survivor target

/-- The record under examination is dead: the link leads past it, and it becomes
the first of the doomed. -/
def condemn (sweep : Sweep) (slot : Nat) (next : Option Nat) : Sweep :=
  { sweep with
    registry := (sweep.relink next).setNext slot sweep.doomed
    cursor := next
    doomed := some slot }

/-- The doomed, ready to be drained. -/
def drain (sweep : Sweep) : Drain := ⟨sweep.registry, sweep.doomed⟩

/-- A question failed: the doomed are released. -/
def abandon {ε : Type} (sweep : Sweep) (reason : ε) : Swept ε :=
  match sweep.drain.finish with
  | .ok registry => .failed reason registry
  | .error abort => .broken abort sweep.registry

/-- Examines records until the chain ends, a question fails or the steps run
out. -/
def run {ε σ : Type} (ask : Tag → EStateM ε σ Bool) : Nat → Sweep → σ → Swept ε × σ
  | 0, sweep, state => (.drained sweep.drain, state)
  | steps + 1, sweep, state =>
      match sweep.cursor with
      | none => (.drained sweep.drain, state)
      | some slot =>
          match sweep.registry.occupant? slot with
          | none => (.broken (.chainReachedVacant slot) sweep.registry, state)
          | some (record, next) =>
              match ask record.tag state with
              | .ok true after => run ask steps (sweep.spare slot next) after
              | .ok false after => run ask steps (sweep.condemn slot next) after
              | .error reason after => (sweep.abandon reason, after)

end Sweep

/-- Asks of every record on the chain, in order, whether it is alive, and takes
the dead ones off the chain.  The questions may change a state of their own. -/
def Registry.sweep {ε σ : Type} (registry : Registry) (ask : Tag → EStateM ε σ Bool)
    (state : σ) : Swept ε × σ :=
  Sweep.run ask registry.capacity (Sweep.start registry) state

end ClassLiveness

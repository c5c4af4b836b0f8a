import ClassLiveness.Tracker.Command

/-!
# Histories of a tracker

A history is what one tracker goes through from the time it is made: commands,
one after the other, each carried out against a state of the host.  The host may
be in any state at any command, and between two commands it may come into any
other, so a history covers whatever a host and other users of it can do.
-/

set_option autoImplicit false

namespace ClassLiveness

namespace Tracker

variable {σ C S : Type}

/-- The outcomes of commands that are carried out one after the other, each
against a state of the host. -/
def performAll (host : Host σ C S) :
    Tracker S → List (Command C × σ) → List (Outcome σ C S Reply)
  | _, [] => []
  | tracker, (command, state) :: rest =>
      let outcome := tracker.perform host command state
      outcome :: performAll host outcome.tracker rest

/-- The tracker that a list of commands leaves behind. -/
def afterAll (host : Host σ C S) : Tracker S → List (Command C × σ) → Tracker S
  | tracker, [] => tracker
  | tracker, (command, state) :: rest =>
      afterAll host (tracker.perform host command state).tracker rest

/-- A tracker that some history leads to. -/
def Reachable (host : Host σ C S) (settings : Settings) (tracker : Tracker S) : Prop :=
  ∃ history : List (Command C × σ), tracker = afterAll host (new settings) history

/-! ## Joining histories -/

theorem afterAll_append (host : Host σ C S) (tracker : Tracker S)
    (first second : List (Command C × σ)) :
    afterAll host tracker (first ++ second) =
      afterAll host (afterAll host tracker first) second := by
  induction first generalizing tracker with
  | nil => rfl
  | cons entry rest ih => exact ih _

/-- Carrying out one more command leads from a reachable tracker to a reachable
one. -/
theorem Reachable.perform {host : Host σ C S} {settings : Settings} {tracker : Tracker S}
    (reached : Reachable host settings tracker) (command : Command C) (state : σ) :
    Reachable host settings (tracker.perform host command state).tracker := by
  obtain ⟨history, rfl⟩ := reached
  exact ⟨history ++ [(command, state)],
    (afterAll_append host (new settings) history [(command, state)]).symm⟩

/-- **What the new tracker has and every command keeps, every reachable tracker
has.** -/
theorem Reachable.invariant {host : Host σ C S} {settings : Settings} {Kept : Tracker S → Prop}
    (atFirst : Kept (new settings))
    (keeps : ∀ tracker command state,
      Kept tracker → Kept (tracker.perform host command state).tracker)
    {tracker : Tracker S} (reached : Reachable host settings tracker) : Kept tracker := by
  obtain ⟨history, rfl⟩ := reached
  suffices onwards : ∀ start, Kept start → Kept (afterAll host start history) from
    onwards _ atFirst
  intro start kept
  induction history generalizing start with
  | nil => exact kept
  | cons entry rest ih => exact ih _ (keeps start entry.1 entry.2 kept)

end Tracker

end ClassLiveness

import ClassLiveness.Proofs.Tracker.Books
import ClassLiveness.Proofs.Tracker.Honesty
import Mathlib.Data.List.Induction

/-!
# The episodes of a history

An episode is one command of a history together with the tracker before it and
its outcome.  What a history does is told episode by episode: the last episode is
that of the last command (`Tracker.episodes_snoc`), and every episode starts with a tracker
that the history before it leads to (`Tracker.mem_episodes`).
-/

set_option autoImplicit false

namespace ClassLiveness

variable {σ C S : Type}

namespace Tracker

/-- One command of a history. -/
structure Episode (σ C S : Type) where
  before : Tracker S
  command : Command C
  /-- The state of the host when the command was given. -/
  state : σ
  outcome : Outcome σ C S Reply

/-- The episode of a command. -/
def episode (host : Host σ C S) (tracker : Tracker S) (command : Command C) (state : σ) :
    Episode σ C S :=
  ⟨tracker, command, state, tracker.perform host command state⟩

/-- The episodes of a history. -/
def episodes (host : Host σ C S) : Tracker S → List (Command C × σ) → List (Episode σ C S)
  | _, [] => []
  | tracker, (command, state) :: rest =>
      episode host tracker command state ::
        episodes host (tracker.perform host command state).tracker rest

/-! ## Episodes and histories -/

/-- The outcomes of the episodes are those of the commands. -/
theorem map_outcome_episodes (host : Host σ C S) (tracker : Tracker S)
    (history : List (Command C × σ)) :
    (episodes host tracker history).map Episode.outcome = performAll host tracker history := by
  induction history generalizing tracker with
  | nil => rfl
  | cons entry rest ih =>
      simp only [episodes, performAll, List.map_cons, ih, episode]

theorem episodes_append (host : Host σ C S) (tracker : Tracker S)
    (first second : List (Command C × σ)) :
    episodes host tracker (first ++ second) =
      episodes host tracker first ++ episodes host (afterAll host tracker first) second := by
  induction first generalizing tracker with
  | nil => rfl
  | cons entry rest ih => exact congrArg _ (ih _)

theorem episodes_snoc (host : Host σ C S) (tracker : Tracker S) (earlier : List (Command C × σ))
    (command : Command C) (state : σ) :
    episodes host tracker (earlier ++ [(command, state)]) =
      episodes host tracker earlier ++
        [episode host (afterAll host tracker earlier) command state] :=
  episodes_append host tracker earlier [(command, state)]

theorem afterAll_snoc (host : Host σ C S) (tracker : Tracker S) (earlier : List (Command C × σ))
    (command : Command C) (state : σ) :
    afterAll host tracker (earlier ++ [(command, state)]) =
      ((afterAll host tracker earlier).perform host command state).tracker :=
  afterAll_append host tracker earlier [(command, state)]

/-- Every episode of a history is that of a command on a reachable tracker. -/
theorem mem_episodes {host : Host σ C S} {settings : Settings} {history : List (Command C × σ)}
    {lived : Episode σ C S} (member : lived ∈ episodes host (new settings) history) :
    ∃ tracker command state, Reachable host settings tracker ∧
      lived = episode host tracker command state := by
  induction history using List.reverseRecOn with
  | nil => cases member
  | append_singleton earlier entry ih =>
      rw [episodes_snoc] at member
      rcases List.mem_append.mp member with member | member
      · exact ih member
      · exact ⟨_, _, _, ⟨earlier, rfl⟩, List.mem_singleton.mp member⟩

end Tracker

end ClassLiveness

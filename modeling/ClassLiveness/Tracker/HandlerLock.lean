/-!
# The handler lock

A tracker does no locking of its own.  The threads that deliver events share it
behind one coarse lock, so its operations happen one after the other: whoever
holds the lock works on the content alone.
-/

set_option autoImplicit false

namespace ClassLiveness

/-- A content that is worked on by one holder at a time. -/
structure HandlerLock (α : Type) where
  content : α
  held : Bool

namespace HandlerLock

variable {α β : Type}

/-- A new lock around a content, held by nobody. -/
def guarding (content : α) : HandlerLock α := ⟨content, false⟩

/-- Takes the lock, unless it is held. -/
def tryLock? (lock : HandlerLock α) : Option (HandlerLock α) :=
  if lock.held then none else some { lock with held := true }

/-- Lets go of the lock. -/
def unlock (lock : HandlerLock α) : HandlerLock α := { lock with held := false }

/-- Works on the content once the lock is free, and lets go of the lock. -/
def withLock (lock : HandlerLock α) (work : α → β × α) : β × HandlerLock α :=
  let worked := work lock.content
  (worked.1, guarding worked.2)

/-- Gives up the lock, and keeps its content. -/
def intoInner (lock : HandlerLock α) : α := lock.content

/-- A description of the lock for a developer, around that of its content. -/
def description (describe : α → String) (lock : HandlerLock α) : String :=
  "HandlerLock \x7b inner: Mutex \x7b data: " ++ describe lock.content ++ " \x7d \x7d"

/-- A lock can be taken exactly if nobody holds it. -/
theorem tryLock?_isSome (lock : HandlerLock α) : lock.tryLock?.isSome = !lock.held := by
  cases held : lock.held <;> simp [tryLock?, held]

end HandlerLock

end ClassLiveness

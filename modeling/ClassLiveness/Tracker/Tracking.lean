import ClassLiveness.Tracker.Operation

/-!
# Coming to track classes

A class is tracked in four steps: make sure that it has no tag of the session
yet, take a fresh tag, learn the signature, hang the tag on the class.  Only then
is a record pushed.  A tag whose class could not be tracked after all is spent.

An initialized tracker adds the classes that it is told of, one at a time
(`add`).  Before that, a startup enumeration opens the session and tracks the
classes that are loaded already and have a wanted status (`startUp`).
-/

set_option autoImplicit false

namespace ClassLiveness

namespace Tracker

open TrackerM

variable {σ C S : Type}

/-- Refuses a class that carries a tag of the session, if the settings ask for
that. -/
def refuseDuplicate (host : Host σ C S) (session : S) (handle : C) : TrackerM σ C S Unit := do
  let tracker ← current
  if tracker.settings.checkDuplicates then
    let carried : Option Tag ← ask (host.request (.tagOf session handle))
    match carried with
    | some tag => fail (.duplicateClass tag)
    | none => return ()

/-- Takes a tag from the supply. -/
def takeTag : TrackerM σ C S Tag := do
  let tracker ← current
  let (tag, tags) ← orAbort tracker.tags.allocate
  update fun tracker => { tracker with tags := tags }
  return tag

/-- Pushes a record. -/
def remember (record : ClassRecord) : TrackerM σ C S Unit := do
  let tracker ← current
  let registry ← orAbort (tracker.registry.push record)
  update fun tracker => { tracker with registry := registry }

/-- Tracks a class under a fresh tag, and gives the tag. -/
def track (host : Host σ C S) (handle : C) : TrackerM σ C S Tag := do
  let session ← requireSession
  refuseDuplicate host session handle
  let tag ← takeTag
  let signature : String ← ask (host.request (.signatureOf handle))
  ask (host.request (.setTag session handle tag))
  emit (.classTracked tag signature)
  remember ⟨tag, signature⟩
  return tag

/-- Tracks classes one after the other. -/
def trackAll (host : Host σ C S) : List C → TrackerM σ C S Unit
  | [] => return ()
  | handle :: rest => do
      let _ ← track host handle
      trackAll host rest

/-! ## Adding a class -/

/-- Adds a class that has just been prepared, and gives its tag. -/
def add (host : Host σ C S) (handle : C) : TrackerM σ C S Tag := do
  requireUsable
  let _ ← requireSession
  poisoning (track host handle)

/-! ## Starting up -/

/-- The classes of an enumeration whose status shares a bit with the wanted one. -/
def wanted (status : ClassStatus) (enumerated : List (LoadedClass C)) : List C :=
  (enumerated.filter fun entry => entry.status.intersects status).map LoadedClass.handle

/-- Opens a session and tracks the wanted classes that are loaded. -/
def populate (host : Host σ C S) : TrackerM σ C S Unit := do
  update fun tracker => { tracker with registry := tracker.registry.clear }
  let session : S ← ask (host.request .openSession)
  update fun tracker => { tracker with session := some session }
  let enumerated : List (LoadedClass C) ← ask (host.request .loadedClasses)
  let tracker ← current
  trackAll host (wanted tracker.settings.wantedStatus enumerated)
  let tracker ← current
  emit (.initialized enumerated.length tracker.len)

/-- Initializes a tracker that is not initialized. -/
def startUp (host : Host σ C S) : TrackerM σ C S Unit := do
  requireUsable
  let tracker ← current
  if tracker.isInitialized then
    fail .alreadyInitialized
  within .startup (poisoning (populate host))

end Tracker

end ClassLiveness

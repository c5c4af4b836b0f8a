import ClassLiveness.Proofs.Contract.Promises
import ClassLiveness.Proofs.Contract.Sharing
import ClassLiveness.Scenario.Run

/-!
# The simulated machine can be shared

The machine numbers its sessions in the order in which they were opened, so a session that
it opens is new (`Machine.IsNumbered`), and it keeps the tags of every session apart
(`Machine.sharedContract`).  Hence the trackers of a scenario share the machine as
`Hosting` says, whatever they do and whatever ordinary changes happen to the machine
(`Scenario.hosting_playAll`).
-/

set_option autoImplicit false

namespace ClassLiveness

/-- A contract with something more that a host keeps up. -/
def SessionContract.restrict {σ C S : Type} {host : Host σ C S} (contract : SessionContract host)
    (also : σ → Prop) (keeps : ∀ call state, also state → also (host.answer call state).2) :
    SessionContract host where
  lawful := fun state => contract.lawful state ∧ also state
  loaded := contract.loaded
  tags := contract.tags
  lawful_after := fun call state lawful =>
    ⟨contract.lawful_after call state lawful.1, keeps call state lawful.2⟩
  opens := fun lawful => contract.opens lawful.1
  leaves := fun lawful => contract.leaves lawful.1
  writes := fun lawful => contract.writes lawful.1
  reads := fun lawful => contract.reads lawful.1
  counts := fun lawful => contract.counts lawful.1
  loaded_after := fun lawful => contract.loaded_after lawful.1

namespace Machine

/-- The open sessions have numbers below the next one. -/
def IsNumbered (machine : Machine) : Prop :=
  ∀ session : Nat, machine.opened ≤ session → machine.sessions[session]? = none

/-! ## Calls -/

/-- A call leaves the machine as the fault does, or as the machine's own answer does. -/
theorem answer_snd (call : Call Nat Nat) (machine : Machine) :
    (host.answer call machine).2 = (machine.strike call.op).2 ∨
      (host.answer call machine).2 = (reply call (machine.strike call.op).2).2 := by
  simp only [host]
  split
  · rename_i same
    rw [same]
    exact .inl rfl
  · rename_i same
    rw [same]
    exact .inr rfl

/-- What the machine's own answer keeps, and a fault cannot touch, a call keeps. -/
theorem keeps_answer (Kept : Machine → Prop) (call : Call Nat Nat) {machine : Machine}
    (faults : ∀ machine : Machine, ∀ faults, Kept machine → Kept { machine with faults := faults })
    (replies : ∀ machine, Kept machine → Kept (reply call machine).2) (kept : Kept machine) :
    Kept (host.answer call machine).2 := by
  have struck : Kept (machine.strike call.op).2 := by
    rw [strike_eq]
    exact faults machine _ kept
  rcases answer_snd call machine with same | same
  · rw [same]
    exact struck
  · rw [same]
    exact replies _ struck

theorem isNumbered_reply (call : Call Nat Nat) {machine : Machine} (numbered : machine.IsNumbered) :
    (reply call machine).2.IsNumbered := by
  cases call with
  | openSession =>
      intro (session : Nat) (above : machine.opened + 1 ≤ session)
      have different : machine.opened ≠ session := by omega
      have closed := numbered session (by omega)
      simp [reply, Std.TreeMap.getElem?_insert, different, closed]
  | setTag session handle tag =>
      simp only [reply, changeTags]
      split
      · rename_i tags isOpen
        intro (other : Nat) (above : machine.opened ≤ other)
        have closed := numbered other above
        have different : session ≠ other := by
          rintro rfl
          cases closed.symm.trans isOpen
        simp [Std.TreeMap.getElem?_insert, different, closed]
      · exact numbered
  | close session =>
      intro (other : Nat) (above : machine.opened ≤ other)
      have closed := numbered other above
      simp [reply, Std.TreeMap.getElem?_erase, closed]
  | loadedClasses | tagOf | liveCount => exact numbered
  | signatureOf handle =>
      simp only [reply]
      split
      · split <;> exact numbered
      · exact numbered

/-- An answer of the machine touches the tags of no session but its own. -/
theorem given_reply {call : Call Nat Nat} {machine : Machine} {session : Nat}
    {tags : Nat → Option Tag} (numbered : machine.IsNumbered)
    (isOpen : machine.given session = some tags) (touches : call.touches? ≠ some session) :
    (reply call machine).2.given session = some tags := by
  have quiet : ∀ call : Call Nat Nat, call.leavesTags = true →
      (reply call machine).2.given session = some tags := by
    intro call leaves
    rw [given_congr (sessions_reply leaves machine)]
    exact isOpen
  rw [given, Option.map_eq_some_iff] at isOpen
  obtain ⟨inside, found, rfl⟩ := isOpen
  cases call with
  | openSession =>
      have different : machine.opened ≠ session := by
        rintro rfl
        cases (numbered _ (Nat.le_refl _)).symm.trans found
      simp [reply, given, Std.TreeMap.getElem?_insert, different, found]
  | setTag other handle tag =>
      have different : other ≠ session := fun same => touches (congrArg some same)
      simp only [reply, changeTags]
      split <;> simp [given, Std.TreeMap.getElem?_insert, different, found]
  | close other =>
      have different : other ≠ session := fun same => touches (congrArg some same)
      simp [reply, given, Std.TreeMap.getElem?_erase, different, found]
  | loadedClasses => exact quiet _ rfl
  | tagOf => exact quiet _ rfl
  | signatureOf => exact quiet _ rfl
  | liveCount => exact quiet _ rfl

theorem isSome_given_setTag {machine : Machine} {session handle : Nat} {tag : Tag}
    (isOpen : (machine.given session).isSome) :
    ((reply (.setTag session handle tag) machine).2.given session).isSome := by
  obtain ⟨tags, opened⟩ := Option.isSome_iff_exists.mp isOpen
  obtain ⟨tagsAfter, openedAfter, -⟩ := given_setTag opened
  exact Option.isSome_of_eq_some openedAfter

/-- **The simulated machine keeps the promises of a host that is shared.** -/
def sharedContract : SharedContract Machine.host where
  toSessionContract := contract.restrict IsNumbered fun call _ numbered =>
    keeps_answer IsNumbered call (fun _ _ kept => kept) (fun _ => isNumbered_reply call) numbered
  fresh := by
    intro state after session lawful answered
    obtain ⟨faults, replied⟩ := reply_of_ok answered
    cases replied
    have closed := lawful.2 state.opened (Nat.le_refl _)
    exact Option.map_eq_none_iff.mpr closed
  apart := by
    intro state call session tags lawful isOpen touches
    have kept := keeps_answer
      (fun machine => machine.IsNumbered ∧ machine.given session = some tags) call
      (fun _ _ kept => kept)
      (fun _ kept => ⟨isNumbered_reply call kept.1, given_reply kept.1 kept.2 touches⟩)
      ⟨lawful.2, isOpen⟩
    exact kept.2
  staysOpen := by
    intro state session handle tag _ isOpen
    exact keeps_answer (fun machine => (machine.given session).isSome) (.setTag session handle tag)
      (fun _ _ kept => kept) (fun _ => isSome_given_setTag) isOpen

/-! ## Changes -/

theorem opened_apply {change : Change} (ordinary : change.isOrdinary = true)
    (machine : Machine) : (machine.apply change).2.opened = machine.opened := by
  cases change with
  | writeTag => cases ordinary
  | setHolders number count => cases count <;> rfl
  | loadMany stem count status =>
      simp only [apply]
      rw [loadMany_eq]
  | load | unload | reload | unloadEvery | rename | setStatus | setFault | heal
  | setEnumeration => rfl

/-- An ordinary change leaves the trackers of a machine where they are. -/
theorem hosting_apply {trackers : List (Tracker Nat)} {machine : Machine}
    (hosting : Hosting sharedContract trackers machine) {change : Change}
    (ordinary : change.isOrdinary = true) :
    Hosting sharedContract trackers (machine.apply change).2 := by
  obtain ⟨lawful, numbered⟩ := hosting.hosted.lawful
  have sameSessions := sessions_apply ordinary machine
  refine .change hosting ⟨isLawful_apply ordinary lawful, ?_⟩ fun _ _ session _ => ?_
  · intro session above
    rw [opened_apply ordinary] at above
    rw [sameSessions]
    exact numbered session above
  · exact congrFun (given_congr sameSessions) session

end Machine

/-! ## Scenarios -/

namespace Scenario

open Machine

/-- A step that neither overrides a count nor writes a tag. -/
def Step.isOrdinary : Step → Bool
  | .change happened => happened.isOrdinary
  | .act .. => true

/-- New trackers share an empty machine. -/
theorem hosting_new (trackers : Nat) (settings : Settings) :
    Hosting sharedContract (Scenario.new trackers settings).trackers
      (Scenario.new trackers settings).machine := by
  have joined : Hosting sharedContract (List.replicate trackers (.new settings)) Machine.empty := by
    induction trackers with
    | zero =>
        refine .alone ⟨?_, ?_⟩
        · exact fun (_ : Nat) => Std.TreeMap.getElem?_emptyc
        · exact fun (_ : Nat) _ => Std.TreeMap.getElem?_emptyc
    | succ fewer ih =>
        rw [List.replicate_succ']
        exact ih.join settings
  have together : (Scenario.new trackers settings).trackers =
      List.replicate trackers (.new settings) := by
    rw [Scenario.trackers, Scenario.new, Array.toList_replicate, List.map_replicate]
    rfl
  rw [together]
  exact joined

/-- Whatever is done with one tracker leaves the trackers hosted. -/
theorem hosting_act {trackers : List (Tracker Nat)} {machine : Machine}
    (hosting : Hosting sharedContract trackers machine) {number : Nat}
    {lock : HandlerLock (Tracker Nat)} (found : trackers[number]? = some lock.content)
    (action : Action) :
    Hosting sharedContract (trackers.set number (act machine lock action).2.1.content)
      (act machine lock action).2.2 := by
  have same : trackers.set number lock.content = trackers := by
    obtain ⟨inside, isThere⟩ := List.getElem?_eq_some_iff.mp found
    rw [← isThere]
    exact List.set_getElem_self inside
  cases action with
  | command command reporting => exact hosting.perform number command found
  | tryLock | rewrap | describeLock =>
      change Hosting sharedContract (trackers.set number lock.content) machine
      rw [same]
      exact hosting

theorem hosting_play {scenario : Scenario}
    (hosting : Hosting sharedContract scenario.trackers scenario.machine) {step : Step}
    (ordinary : step.isOrdinary = true) :
    Hosting sharedContract (scenario.play step).2.trackers (scenario.play step).2.machine := by
  cases step with
  | change happened => exact hosting_apply hosting ordinary
  | act number action =>
      simp only [play]
      split
      · exact hosting
      · rename_i lock found
        have isThere : scenario.trackers[number]? = some lock.content := by
          rw [trackers, List.getElem?_map, Array.getElem?_toList, found]
          rfl
        have hosted := hosting_act hosting isThere action
        rw [trackers, Array.toList_setIfInBounds, List.map_set]
        exact hosted

/-- **The trackers of a scenario of ordinary steps share its machine.** -/
theorem hosting_playAll {scenario : Scenario}
    (hosting : Hosting sharedContract scenario.trackers scenario.machine) (steps : List Step)
    (ordinary : ∀ step ∈ steps, step.isOrdinary = true) :
    Hosting sharedContract (scenario.playAll steps).2.trackers
      (scenario.playAll steps).2.machine := by
  induction steps generalizing scenario with
  | nil => exact hosting
  | cons step rest ih =>
      exact ih (hosting_play hosting (ordinary step List.mem_cons_self))
        fun other member => ordinary other (List.mem_cons_of_mem _ member)

/-! ## A company -/

/-- Two trackers that do not check for duplicates track the same class, and the first of them
has been given it twice. -/
def company : Scenario :=
  ((Scenario.new 2 { Settings.default with checkDuplicates := false }).playAll
    [.change (.load "LFirst;" (.ofFlag .prepared)), .act 0 (.command .startUp false),
      .act 1 (.command .startUp false), .act 0 (.command (.add 0) false)]).2

theorem hosting_company : Hosting sharedContract company.trackers company.machine := by
  refine hosting_playAll (hosting_new _ _) _ ?_
  decide

theorem isSome_first : company.trackers[0]?.isSome = true := by decide +kernel

/-- The tracker that has been given the class twice. -/
def retagged : Tracker Nat := company.trackers[0]?.get isSome_first

theorem found_retagged : company.trackers[0]? = some retagged :=
  (Option.some_get isSome_first).symm

end Scenario

end ClassLiveness

import ClassLiveness.Machine.Change
import ClassLiveness.Machine.Host
import ClassLiveness.Proofs.Contract.Sustained

/-!
# The simulated machine keeps its promises

A machine on which no count of live holders is overridden is lawful, and keeps the
promises that a tracker relies on (`Machine.contract`), whatever faults are in store
for its calls.  Classes may be loaded, unloaded, loaded again and renamed, the
enumeration may be overridden and faults may be set: of all changes only an overridden
count and a tag that somebody else writes can break a promise
(`Machine.isLawful_apply`, `Machine.sessions_apply`).
-/

set_option autoImplicit false

namespace ClassLiveness

namespace Machine

/-- The machine counts the live holders itself. -/
def IsLawful (machine : Machine) : Prop := ∀ number : Nat, machine.holders[number]? = none

/-- The tags that an open session has given. -/
def given (machine : Machine) (session : Nat) : Option (Nat → Option Tag) :=
  machine.sessions[session]?.map fun tags handle => tags[handle]?

/-! ## Calls -/

/-- A fault does not touch the classes, the sessions and the counts. -/
theorem strike_eq (machine : Machine) (op : HostOp) :
    (machine.strike op).2 = { machine with faults := (machine.strike op).2.faults } := by
  unfold strike
  split <;> rfl

/-- A call that succeeds is answered by the machine itself. -/
theorem reply_of_ok {call : Call Nat Nat} {machine after : Machine} {answer : call.Reply}
    (answered : host.answer call machine = (.ok answer, after)) :
    ∃ faults, reply call { machine with faults := faults } = (.ok answer, after) := by
  have struck := strike_eq machine call.op
  simp only [host] at answered
  split at answered
  · cases answered
  · rename_i struckMachine same
    rw [same] at struck
    refine ⟨struckMachine.faults, ?_⟩
    rw [← show struckMachine = { machine with faults := struckMachine.faults } from struck]
    exact answered

theorem holders_reply (call : Call Nat Nat) (machine : Machine) :
    (reply call machine).2.holders = machine.holders := by
  cases call with
  | openSession | loadedClasses | tagOf | liveCount | close => rfl
  | signatureOf handle =>
      simp only [reply]
      split
      · split <;> rfl
      · rfl
  | setTag session handle tag =>
      simp only [reply, changeTags]
      split <;> rfl

theorem isLawful_answer (call : Call Nat Nat) {machine : Machine} (lawful : machine.IsLawful) :
    (host.answer call machine).2.IsLawful := by
  have struck : (machine.strike call.op).2.IsLawful := by
    rw [strike_eq]
    exact lawful
  simp only [host]
  split
  · rename_i same
    rw [same] at struck
    exact struck
  · rename_i same
    rw [same] at struck
    intro (number : Nat)
    rw [holders_reply]
    exact struck number

/-- The loaded classes that carry a tag in a session. -/
def holderList (machine : Machine) (session : Nat) (tag : Tag) : List Nat :=
  (List.range machine.classes.size).filter fun handle =>
    machine.isLoaded handle && machine.tagOf session handle == some tag

theorem mem_holderList {machine : Machine} {session handle : Nat} {tag : Tag} :
    handle ∈ machine.holderList session tag ↔
      machine.isLoaded handle = true ∧ machine.tagOf session handle = some tag := by
  rw [holderList, List.mem_filter, Bool.and_eq_true, beq_iff_eq, List.mem_range]
  refine and_iff_right_of_imp ?_
  rintro ⟨isLoaded, -⟩
  by_contra outside
  rw [Machine.isLoaded, Array.getElem?_eq_none (Nat.le_of_not_lt outside)] at isLoaded
  cases isLoaded

theorem length_holderList (machine : Machine) (session : Nat) (tag : Tag) :
    (machine.holderList session tag).length = machine.holderCount session tag :=
  List.countP_eq_length_filter.symm

theorem tagOf_eq {machine : Machine} {session : Nat} {tags : Nat → Option Tag}
    (opened : machine.given session = some tags) (handle : Nat) :
    machine.tagOf session handle = tags handle := by
  rw [given, Option.map_eq_some_iff] at opened
  obtain ⟨inside, found, rfl⟩ := opened
  rw [tagOf, found, Option.bind_some]

/-! ## The promises -/

/-- Hanging a tag on a class changes the tag of this class only. -/
theorem given_setTag {machine : Machine} {session handle : Nat} {tag : Tag}
    {tags : Nat → Option Tag} (opened : machine.given session = some tags) :
    ∃ tagsAfter,
      (machine.changeTags session fun tags => tags.insert handle tag).given session =
        some tagsAfter ∧ tagsAfter handle = some tag ∧
      ∀ other, other ≠ handle → tagsAfter other = tags other := by
  rw [given, Option.map_eq_some_iff] at opened
  obtain ⟨inside, found, rfl⟩ := opened
  refine ⟨fun other => (inside.insert handle tag)[other]?, ?_, ?_, ?_⟩
  · simp only [given, changeTags, found, Std.TreeMap.getElem?_insert_self, Option.map_some]
  · exact Std.TreeMap.getElem?_insert_self
  · intro other different
    simp [Std.TreeMap.getElem?_insert, Ne.symm different]

/-- A call that leaves tags alone leaves the sessions of the machine as they are. -/
theorem sessions_reply {call : Call Nat Nat} (leaves : call.leavesTags = true)
    (machine : Machine) : (reply call machine).2.sessions = machine.sessions := by
  cases call with
  | openSession | setTag | close => cases leaves
  | loadedClasses | tagOf | liveCount => rfl
  | signatureOf handle =>
      simp only [reply]
      split
      · split <;> rfl
      · rfl

theorem given_congr {machine other : Machine} (same : other.sessions = machine.sessions) :
    other.given = machine.given := by
  funext session
  rw [given, given, same]

/-- **The simulated machine keeps the promises of a host.** -/
def contract : SessionContract Machine.host where
  lawful := IsLawful
  loaded := isLoaded
  tags := given
  lawful_after := fun call _ lawful => isLawful_answer call lawful
  opens := by
    intro state after session _ answered
    obtain ⟨faults, replied⟩ := reply_of_ok answered
    cases replied
    simp only [given, Std.TreeMap.getElem?_insert_self, Option.map_some]
    rfl
  leaves := by
    intro state after call answer _ leaves answered
    obtain ⟨faults, replied⟩ := reply_of_ok answered
    have same := sessions_reply leaves { state with faults := faults }
    rw [replied] at same
    exact given_congr same
  writes := by
    intro state after session handle tag tags _ opened answered
    obtain ⟨faults, replied⟩ := reply_of_ok answered
    cases replied
    exact given_setTag opened
  reads := by
    intro state after session handle carried tags _ opened answered
    obtain ⟨faults, replied⟩ := reply_of_ok answered
    cases replied
    exact tagOf_eq opened handle
  counts := by
    intro state after session tag count tags lawful opened answered
    obtain ⟨faults, replied⟩ := reply_of_ok answered
    refine ⟨state.holderList session tag, ?_, ?_, ?_⟩
    · exact List.nodup_range.filter _
    · cases replied
      rw [length_holderList]
      change state.holderCount session tag =
        (state.holders[tag.number]?).getD (state.holderCount session tag)
      rw [lawful, Option.getD_none]
    · intro handle
      rw [mem_holderList, tagOf_eq opened]
  loaded_after := by
    intro state after session tag count _ answered
    obtain ⟨faults, replied⟩ := reply_of_ok answered
    cases replied
    rfl

/-! ## Changes -/

/-- A change that neither overrides a count nor writes a tag. -/
def Change.isOrdinary : Change → Bool
  | .setHolders _ (some _) | .writeTag .. => false
  | .load .. | .loadMany .. | .unload _ | .reload _ | .unloadEvery .. | .rename .. | .setStatus ..
  | .setFault .. | .heal _ | .setEnumeration _ | .setHolders _ none => true

/-- Loading classes does not touch the sessions and the counts. -/
theorem loadMany_eq (stem : String) (status : ClassStatus) (count number : Nat)
    (machine : Machine) :
    loadMany stem status count number machine =
      { machine with classes := (loadMany stem status count number machine).classes } := by
  induction count generalizing number machine with
  | zero => rfl
  | succ count ih =>
      rw [loadMany, ih]
      rfl

theorem sessions_apply {change : Change} (ordinary : change.isOrdinary = true)
    (machine : Machine) : (machine.apply change).2.sessions = machine.sessions := by
  cases change with
  | writeTag => cases ordinary
  | setHolders number count => cases count <;> rfl
  | loadMany stem count status =>
      simp only [apply]
      rw [loadMany_eq]
  | load | unload | reload | unloadEvery | rename | setStatus | setFault | heal
  | setEnumeration => rfl

/-- An ordinary change breaks no promise. -/
theorem isLawful_apply {change : Change} (ordinary : change.isOrdinary = true)
    {machine : Machine} (lawful : machine.IsLawful) : (machine.apply change).2.IsLawful := by
  cases change with
  | writeTag => cases ordinary
  | setHolders number count =>
      cases count with
      | some count => cases ordinary
      | none =>
          intro other
          simp [apply, Std.TreeMap.getElem?_erase, lawful other]
  | loadMany stem count status =>
      simp only [apply]
      rw [loadMany_eq]
      exact lawful
  | load | unload | reload | unloadEvery | rename | setStatus | setFault | heal
  | setEnumeration => exact lawful

/-- **A tracker on the simulated machine lives through every ordinary change.** -/
theorem lives_apply {settings : Settings} {tracker : Tracker Nat} {machine : Machine}
    {log : List (CallRecord Nat Nat)} {roll : List (Nat × ClassRecord)}
    (lives : Lives contract settings tracker machine log roll) (change : Change)
    (ordinary : change.isOrdinary = true) :
    Lives contract settings tracker (machine.apply change).2 log roll := by
  refine .change lives (isLawful_apply ordinary lives.sustained.lawful) fun session _ => ?_
  exact congrFun (given_congr (sessions_apply ordinary machine)) session

/-! ## A run -/

/-- A machine with two classes. -/
def sample : Machine :=
  (Machine.empty.load "LFirst;" (.ofFlag .prepared)).load "LSecond;" (.ofFlag .prepared)

/-- A tracker that has started up on it. -/
def started : Outcome Machine Nat Nat Reply :=
  (Tracker.new .default).perform host .startUp sample

/-- The classes that it tracks, with their records. -/
def enrolled : List (Nat × ClassRecord) := (listen host sample [] started.calls).roll

/-- The machine after the first class was renamed and unloaded. -/
def aged : Machine := ((started.host.apply (.rename 0 "LOther;")).2.apply (.unload 0)).2

/-- A pass of the tracker over this machine. -/
def swept : Outcome Machine Nat Nat Reply := started.tracker.perform host .processUnloads aged

/-- The machine after the first class was loaded again. -/
def revived : Machine := (swept.host.apply (.reload 0)).2

theorem lives_aged :
    Lives contract .default started.tracker aged started.calls enrolled := by
  have empty : contract.lawful sample := fun _ => rfl
  have new : Lives contract .default (.new .default) sample [] [] := .new empty
  have start := new.perform_of_ne .startUp nofun
  rw [List.nil_append] at start
  have renamed := lives_apply start (.rename 0 "LOther;") rfl
  exact lives_apply renamed (.unload 0) rfl

theorem lives_revived :
    Lives contract .default swept.tracker revived (started.calls ++ swept.calls)
      (listen host aged enrolled swept.calls).roll := by
  have pass := lives_aged.perform_of_ne .processUnloads nofun
  exact lives_apply pass (.reload 0) rfl

end Machine

end ClassLiveness

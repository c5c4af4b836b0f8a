import ClassLiveness.Proofs.Registry.Refinement
import Mathlib.Data.List.DropRight
import Mathlib.Data.List.Induction

/-!
# The reuse of slots

A registry makes a new slot only if it has no vacant one to give, and it never gives a slot
back before it is cleared.  So it has as many slots as it has had records at one time: its
capacity is its peak, the greatest number of records that it has held after any request since
the last clearing.

That is a matter of two numbers.  A sweep and a drain rewrite slots and make none
(`Registry.capacity_sweep`, `Drain.capacity_take`); and in a registry that keeps a ledger no
slot is vacant exactly if there are as many records as slots (`Registry.Keeps.free_eq_none_iff`).
One request that is no clearing therefore raises the capacity to the number of records, if it
raises it at all (`Registry.Keeps.capacity_serve`), and the peak follows by induction.

A slot that were lost would be vacant and out of reach.  There is none: the walk along the
vacant slots meets each of them once, and every other slot holds a record that is on the chain
or was forgotten (`Registry.Keeps.vacancies`).
-/

set_option autoImplicit false

namespace ClassLiveness

/-! ## What makes no slots -/

namespace Registry

variable {registry : Registry}

theorem capacity_setNext (registry : Registry) (slot : Nat) (target : Option Nat) :
    (registry.setNext slot target).capacity = registry.capacity := by
  unfold setNext
  split
  · exact Array.size_setIfInBounds
  · rfl

theorem capacity_release {slot : Nat} {record : ClassRecord} {next : Option Nat}
    {after : Registry} (released : registry.release slot = .ok (record, next, after)) :
    after.capacity = registry.capacity := by
  unfold release at released
  split at released
  · cases released
    exact Array.size_setIfInBounds
  · cases released

end Registry

namespace Drain

theorem capacity_take {count : Nat} {drain rest : Drain} {records : List ClassRecord}
    (taken : drain.take count = .ok (records, rest)) :
    rest.registry.capacity = drain.registry.capacity := by
  induction count generalizing drain records with
  | zero =>
      cases taken
      rfl
  | succ count ih =>
      unfold take at taken
      split at taken
      · cases taken
        rfl
      · rename_i slot _
        cases released : drain.registry.release slot with
        | error abort =>
            rw [released] at taken
            cases taken
        | ok handed =>
            obtain ⟨record, next, registry⟩ := handed
            simp only [released, bind, Except.bind, pure, Except.pure] at taken
            cases others : (⟨registry, next⟩ : Drain).take count with
            | error abort =>
                rw [others] at taken
                cases taken
            | ok left =>
                rw [others] at taken
                cases taken
                exact (ih others).trans (Registry.capacity_release released)

theorem capacity_finish {drain : Drain} {after : Registry} (finished : drain.finish = .ok after) :
    after.capacity = drain.registry.capacity := by
  unfold finish takeAll at finished
  cases taken : drain.take drain.registry.capacity with
  | error abort =>
      rw [taken] at finished
      cases finished
  | ok handed =>
      rw [taken] at finished
      cases finished
      exact capacity_take taken

end Drain

/-- The registry that a sweep leaves. -/
def Swept.registry {ε : Type} : Swept ε → Registry
  | .drained drain => drain.registry
  | .failed _ registry | .broken _ registry => registry

namespace Sweep

variable {ε σ : Type}

theorem capacity_condemn (sweep : Sweep) (slot : Nat) (next : Option Nat) :
    (sweep.condemn slot next).registry.capacity = sweep.registry.capacity := by
  refine (Registry.capacity_setNext _ _ _).trans ?_
  unfold relink
  split
  · rfl
  · exact Registry.capacity_setNext _ _ _

theorem capacity_abandon (sweep : Sweep) (reason : ε) :
    (sweep.abandon reason).registry.capacity = sweep.registry.capacity := by
  unfold abandon
  split
  · rename_i finished
    exact Drain.capacity_finish finished
  · rfl

theorem capacity_run (ask : Tag → EStateM ε σ Bool) (steps : Nat) (sweep : Sweep) (state : σ) :
    (run ask steps sweep state).1.registry.capacity = sweep.registry.capacity := by
  induction steps generalizing sweep state with
  | zero => rfl
  | succ steps ih =>
      unfold run
      split
      · rfl
      · split
        · rfl
        · split
          · exact ih _ _
          · exact (ih _ _).trans (capacity_condemn _ _ _)
          · exact capacity_abandon _ _

end Sweep

namespace Registry

/-- **A sweep makes no slots and gives none up.** -/
theorem capacity_sweep {ε σ : Type} (registry : Registry) (ask : Tag → EStateM ε σ Bool)
    (state : σ) : (registry.sweep ask state).1.registry.capacity = registry.capacity :=
  Sweep.capacity_run ask registry.capacity (Sweep.start registry) state

/-- Nor does a drain, however it is ended. -/
theorem capacity_serveDrain (registry : Registry) (verdict : Tag → Verdict) (limit : Option Nat)
    (forget : Bool) :
    (registry.serveDrain verdict limit forget).2.capacity = registry.capacity := by
  have swept := registry.capacity_sweep (consult verdict) []
  unfold serveDrain
  split
  · rename_i ended
    rw [ended] at swept
    exact swept
  · rename_i ended
    rw [ended] at swept
    exact swept
  · rename_i drain _ ended
    rw [ended] at swept
    have drained : drain.registry.capacity = registry.capacity := swept
    split
    · exact drained
    · rename_i taken
      have remaining := (Drain.capacity_take taken).trans drained
      split
      · exact remaining
      · split
        · rename_i finished
          exact (Drain.capacity_finish finished).trans remaining
        · exact remaining

/-! ## Vacant slots -/

/-- What became of the slots of a registry.  The walk along the vacant slots meets each of
them once, and every other slot holds one of some records. -/
structure Recycles (registry : Registry) (records : List ClassRecord) (vacant : List Nat) :
    Prop where
  vacancies : Vacancies registry.slots registry.free vacant
  nodup : vacant.Nodup
  held : ∀ slot < registry.capacity, slot ∉ vacant →
    ∃ record ∈ records, ∃ next, registry.slots[slot]? = some (.occupied record next)
  capacity_eq : registry.capacity = registry.len + vacant.length

namespace Keeps

variable {registry : Registry} {ledger : Ledger}

/-- **No slot is lost.** -/
theorem vacancies (keeps : registry.Keeps ledger) :
    ∃ vacant, registry.Recycles ledger.all vacant := by
  obtain ⟨layout, holds, -, all⟩ := keeps.layout
  refine ⟨layout.vacant, holds.vacant, holds.accounts.nodup.of_append_right, ?_, ?_⟩
  · intro slot inside taken
    have listed := holds.accounts.slots_perm.mem_iff.mpr (List.mem_range.mpr inside)
    rcases List.mem_append.mp listed with isCell | isVacant
    · obtain ⟨cell, member, rfl⟩ := List.mem_map.mp isCell
      refine ⟨cell.record, ?_, holds.occupied member⟩
      rw [← all]
      exact List.mem_map_of_mem member
    · exact absurd isVacant taken
  · exact holds.accounts.capacity_eq.trans
      (congrArg (· + layout.vacant.length) holds.accounts.len_eq.symm)

theorem len_le_capacity (keeps : registry.Keeps ledger) : registry.len ≤ registry.capacity := by
  obtain ⟨vacant, recycles⟩ := keeps.vacancies
  have slots := recycles.capacity_eq
  omega

/-- No slot is vacant exactly if there are as many records as slots. -/
theorem free_eq_none_iff (keeps : registry.Keeps ledger) :
    registry.free = none ↔ registry.len = registry.capacity := by
  obtain ⟨vacant, recycles⟩ := keeps.vacancies
  have slots := recycles.capacity_eq
  have vacancies := recycles.vacancies
  generalize registry.free = free at vacancies ⊢
  cases vacancies with
  | nil => exact iff_of_true rfl (by simpa using slots.symm)
  | cons => exact iff_of_false nofun (by simp only [List.length_cons] at slots; omega)

end Keeps

/-! ## One request -/

/-- A request clears the registry. -/
def Request.isClear : Request → Bool
  | .clear => true
  | .push .. | .pushMany .. | .get _ | .contains _ | .list | .drain .. => false

/-- The answer to a push is that it is done, or the registry stays as it was. -/
theorem servePush_cases (registry : Registry) (number : Nat) (signature : String) :
    (∃ record : ClassRecord, registry.contains record.tag = false ∧
        registry.servePush number signature = (.done, registry.pushFront record)) ∨
      ((registry.servePush number signature).1 ≠ .done ∧
        (registry.servePush number signature).2 = registry) := by
  unfold servePush
  cases Tag.ofNat? number with
  | none =>
      refine .inr ⟨?_, rfl⟩
      intro impossible
      cases impossible
  | some tag =>
      simp only [push]
      cases known : registry.contains tag with
      | true =>
          refine .inr ⟨?_, rfl⟩
          intro impossible
          cases impossible
      | false => exact .inl ⟨⟨tag, signature⟩, known, rfl⟩

namespace Keeps

variable {registry : Registry} {ledger : Ledger}

theorem len_pushFront (keeps : registry.Keeps ledger) {record : ClassRecord}
    (unknown : registry.contains record.tag = false) :
    (registry.pushFront record).len = registry.len + 1 := by
  have accepted : ledger.push record = .ok { ledger with chain := record :: ledger.chain } := by
    rw [Ledger.push, ← keeps.contains_eq, unknown]
    rfl
  obtain ⟨after, pushed, keepsAfter⟩ := keeps.push_ok accepted
  rw [Registry.push, unknown] at pushed
  cases pushed
  rw [keeps.len_eq, keepsAfter.len_eq]
  simp only [Ledger.len, Ledger.all, List.cons_append, List.length_cons]

/-- **A push makes a slot exactly if it is accepted and there are as many records as slots.** -/
theorem capacity_servePush (keeps : registry.Keeps ledger) (number : Nat) (signature : String) :
    (registry.servePush number signature).2.capacity = registry.capacity +
      if (registry.servePush number signature).1 = .done ∧ registry.len = registry.capacity
      then 1 else 0 := by
  rcases registry.servePush_cases number signature with ⟨record, -, done⟩ | ⟨refused, same⟩
  · rw [done, capacity_pushFront]
    simp only [keeps.free_eq_none_iff, true_and]
  · rw [same, if_neg fun both => refused both.1, Nat.add_zero]

/-- A push loses no record. -/
theorem len_servePush (keeps : registry.Keeps ledger) (number : Nat) (signature : String) :
    (registry.servePush number signature).2.len = registry.len +
      if (registry.servePush number signature).1 = .done then 1 else 0 := by
  rcases registry.servePush_cases number signature with ⟨record, unknown, done⟩ | ⟨refused, same⟩
  · rw [done, keeps.len_pushFront unknown]
    rfl
  · rw [same, if_neg refused, Nat.add_zero]

/-- After a push the capacity is the greater of what it was and the number of records. -/
theorem capacity_max_servePush (keeps : registry.Keeps ledger) (number : Nat)
    (signature : String) :
    registry.len ≤ (registry.servePush number signature).2.len ∧
      (registry.servePush number signature).2.capacity =
        max registry.capacity (registry.servePush number signature).2.len := by
  have fits := keeps.len_le_capacity
  rw [keeps.capacity_servePush, keeps.len_servePush]
  by_cases accepted : (registry.servePush number signature).1 = .done
  · simp only [accepted, true_and, if_true]
    split <;> omega
  · simp only [accepted, false_and, if_false]
    omega

theorem capacity_max_servePushMany (keeps : registry.Keeps ledger) (first : Nat) (stem : String)
    (count number : Nat) :
    registry.len ≤ (registry.servePushMany first stem count number).2.len ∧
      (registry.servePushMany first stem count number).2.capacity =
        max registry.capacity (registry.servePushMany first stem count number).2.len := by
  induction count generalizing registry ledger number with
  | zero =>
      have fits := keeps.len_le_capacity
      exact ⟨Nat.le_refl _, (Nat.max_eq_left fits).symm⟩
  | succ count ih =>
      have agree := keeps.servePush (first + number) (numberedSignature stem number)
      have grown := keeps.capacity_max_servePush (first + number) (numberedSignature stem number)
      unfold Registry.servePushMany
      generalize registry.servePush (first + number) (numberedSignature stem number) = served
        at agree grown ⊢
      obtain ⟨answer, after⟩ := served
      cases answer with
      | done =>
          obtain ⟨longer, slots⟩ := ih agree.2 (number + 1)
          refine ⟨Nat.le_trans grown.1 longer, ?_⟩
          have slotsFirst := grown.2
          simp only at slotsFirst slots longer ⊢
          omega
      | _ => exact grown

/-- **After a request that is no clearing the capacity is the greater of what it was and the
number of records.** -/
theorem capacity_serve (keeps : registry.Keeps ledger) {request : Request}
    (notClear : request.isClear = false) :
    (registry.serve request).2.capacity = max registry.capacity (registry.serve request).2.len := by
  have fits := keeps.len_le_capacity
  have unchanged : registry.capacity = max registry.capacity registry.len :=
    (Nat.max_eq_left fits).symm
  cases request with
  | push number signature => exact (keeps.capacity_max_servePush number signature).2
  | pushMany first count stem => exact (keeps.capacity_max_servePushMany first stem count 0).2
  | get | list => exact unchanged
  | contains number =>
      simp only [Registry.serve]
      cases Tag.ofNat? number <;> exact unchanged
  | clear => cases notClear
  | drain verdict limit forget =>
      have fitsAfter := (keeps.serve (.drain verdict limit forget)).2.len_le_capacity
      have same := registry.capacity_serveDrain verdict limit forget
      simp only [Registry.serve] at fitsAfter ⊢
      omega

end Keeps

/-! ## Every list of requests -/

/-- The registry that a list of requests leaves behind. -/
def afterAll (registry : Registry) (requests : List Request) : Registry :=
  requests.foldl (fun now request => (now.serve request).2) registry

/-- How many records the registry has had after each of the requests since the last clearing. -/
def lensSinceClear (registry : Registry) (requests : List Request) : List Nat :=
  ((requests.zip (registry.serveAll requests)).rtakeWhile fun step => !step.1.isClear).map
    fun step => step.2.2.len

end Registry

/-- The ledger that a list of requests leaves behind. -/
def Ledger.afterAll (ledger : Ledger) (requests : List Registry.Request) : Ledger :=
  requests.foldl (fun now request => (now.serve request).2) ledger

namespace Registry

theorem length_serveAll (registry : Registry) (requests : List Request) :
    (registry.serveAll requests).length = requests.length := by
  induction requests generalizing registry with
  | nil => rfl
  | cons request rest ih => exact congrArg Nat.succ (ih _)

theorem serveAll_snoc (registry : Registry) (earlier : List Request) (last : Request) :
    registry.serveAll (earlier ++ [last]) =
      registry.serveAll earlier ++ [(registry.afterAll earlier).serve last] := by
  induction earlier generalizing registry with
  | nil => rfl
  | cons request rest ih => exact congrArg (_ :: ·) (ih _)

theorem afterAll_snoc (registry : Registry) (earlier : List Request) (last : Request) :
    registry.afterAll (earlier ++ [last]) = ((registry.afterAll earlier).serve last).2 :=
  List.foldl_append

theorem lensSinceClear_snoc (registry : Registry) (earlier : List Request) (last : Request) :
    registry.lensSinceClear (earlier ++ [last]) =
      if last.isClear then []
      else registry.lensSinceClear earlier ++ [(registry.afterAll (earlier ++ [last])).len] := by
  rw [lensSinceClear, serveAll_snoc, List.zip_append (registry.length_serveAll earlier).symm,
    List.zip_cons_cons, List.zip_nil_left, List.rtakeWhile_concat, afterAll_snoc]
  cases last.isClear with
  | true => rfl
  | false => exact List.map_append

/-- A registry and a ledger in agreement agree after every list of requests. -/
theorem Keeps.afterAll {registry : Registry} {ledger : Ledger} (keeps : registry.Keeps ledger)
    (requests : List Request) : (registry.afterAll requests).Keeps (ledger.afterAll requests) := by
  induction requests generalizing registry ledger with
  | nil => exact keeps
  | cons request rest ih => exact ih (keeps.serve request).2

/-- **The capacity is the peak**: the greatest number of records since the last clearing. -/
theorem capacity_eq_foldl_max (requests : List Request) :
    (empty.afterAll requests).capacity = (empty.lensSinceClear requests).foldl max 0 := by
  induction requests using List.reverseRecOn with
  | nil => rfl
  | append_singleton earlier last ih =>
      rw [lensSinceClear_snoc]
      cases cleared : last.isClear with
      | true =>
          cases last with
          | clear =>
              rw [afterAll_snoc]
              rfl
          | _ => cases cleared
      | false =>
          have keeps := Keeps.empty.afterAll earlier
          rw [if_neg Bool.false_ne_true, List.foldl_append, ← ih, afterAll_snoc,
            keeps.capacity_serve cleared]
          rfl

/-- **Slots are reused as well as they can be.**  After every list of requests to an empty
registry, its capacity is the greatest number of records that it has had after any of the
requests since the last clearing.  A push makes a slot exactly if it is accepted and there are
as many records as slots, a drain makes none and gives none up, and no slot is lost. -/
theorem slots_reused (requests : List Request) :
    let now := empty.afterAll requests
    let forgotten := (Ledger.empty.afterAll requests).forgotten
    now.capacity = (empty.lensSinceClear requests).foldl max 0 ∧
    now.len = now.records.length + forgotten.length ∧
    (∀ number signature, (now.serve (.push number signature)).2.capacity = now.capacity +
      if (now.serve (.push number signature)).1 = .done ∧ now.len = now.capacity then 1 else 0) ∧
    (∀ verdict limit forget,
      (now.serve (.drain verdict limit forget)).2.capacity = now.capacity) ∧
    (∃ vacant, now.Recycles (now.records ++ forgotten) vacant) := by
  intro now forgotten
  have keeps : now.Keeps (Ledger.empty.afterAll requests) := Keeps.empty.afterAll requests
  refine ⟨capacity_eq_foldl_max requests, ?_, keeps.capacity_servePush, now.capacity_serveDrain,
    ?_⟩
  · rw [keeps.len_eq, keeps.records_eq]
    exact List.length_append
  · rw [keeps.records_eq]
    exact keeps.vacancies

end Registry

end ClassLiveness

import ClassLiveness.Proofs.Registry.Reuse

/-!
# Charts of the slots

A slot of a registry is in one of three places: on the chain of the records, on the walk along
the vacant slots, or among the forgotten records, which no link leads to.  While the registry
is swept there is a fourth, since the records that were found dead wait on a chain of their
own.  A layout that says of every slot where it is can be read as a chart (`Drain.Charted`):
the walks meet what the chart says and come to an end, every slot is in exactly one place, and
the index leads from the tags of the occupied slots to these slots and from nowhere else.

A sweep rewrites links while it walks along them.  The chart of a sweep under way has three
parts to account for: the records that it has seen, of which some are still on the chain and
some wait, and the records ahead, which it has not touched (`Sweep.After.stands`).  A round
takes one record from the part ahead, so a sweep is over after as many rounds as there are
records on the chain (`Sweep.Stands.exists_stops`).

There is a chart after every list of requests and at every time of a sweep, and no walk takes
more steps than there are slots (`Registry.slots_charted`).
-/

set_option autoImplicit false

namespace ClassLiveness

/-! ## Charts -/

/-- All the slots of a layout, place by place. -/
def Layout.slots (layout : Layout) : List Nat := layout.cells.map Cell.slot ++ layout.vacant

/-- A layout is the chart of a drain. -/
structure Drain.Charted (drain : Drain) (layout : Layout) : Prop where
  /-- From the head the walk goes along the chain, and there it ends. -/
  chain : Registry.Chain drain.registry.slots drain.registry.head layout.chain none
  /-- From the first waiting slot the walk goes along the waiting ones, and there it ends. -/
  waiting : Registry.Chain drain.registry.slots drain.waiting layout.waiting none
  /-- From the first vacant slot the walk goes along the vacant ones, and there it ends. -/
  vacancies : Registry.Vacancies drain.registry.slots drain.registry.free layout.vacant
  /-- No slot is in two places, and none is twice in one. -/
  slots_nodup : layout.slots.Nodup
  /-- Every slot is somewhere. -/
  mem_slots_iff : ∀ slot, slot ∈ layout.slots ↔ slot < drain.registry.capacity
  /-- The occupied slots are those on the chain, the waiting and the forgotten ones. -/
  occupied_iff : ∀ slot record,
    (∃ next, drain.registry.slots[slot]? = some (.occupied record next)) ↔
      ⟨slot, record⟩ ∈ layout.cells
  /-- The vacant slots are those on the walk along the vacant ones. -/
  vacant_iff : ∀ slot,
    (∃ next, drain.registry.slots[slot]? = some (.vacant next)) ↔ slot ∈ layout.vacant
  /-- The index leads from the tags of the occupied slots to these slots. -/
  index_iff : ∀ number slot, drain.registry.index[number]? = some slot ↔
    ∃ (record : ClassRecord) (next : Option Nat),
      drain.registry.slots[slot]? = some (.occupied record next) ∧ record.tag.number = number

namespace Drain.Holds

variable {drain : Drain} {layout : Layout}

theorem mem_slots_iff (holds : drain.Holds layout) (slot : Nat) :
    slot ∈ layout.slots ↔ slot < drain.registry.capacity :=
  holds.accounts.slots_perm.mem_iff.trans List.mem_range

/-- A slot holds the record of a cell, or it is vacant. -/
theorem occupied_or_vacant (holds : drain.Holds layout) {slot : Nat}
    (inside : slot < drain.registry.capacity) :
    (∃ record next, drain.registry.slots[slot]? = some (.occupied record next) ∧
      ⟨slot, record⟩ ∈ layout.cells) ∨
    ∃ next, drain.registry.slots[slot]? = some (.vacant next) ∧ slot ∈ layout.vacant := by
  rcases List.mem_append.mp ((holds.mem_slots_iff slot).mpr inside) with isCell | isVacant
  · obtain ⟨cell, member, rfl⟩ := List.mem_map.mp isCell
    obtain ⟨next, here⟩ := holds.occupied member
    exact .inl ⟨cell.record, next, here, member⟩
  · obtain ⟨next, here⟩ := holds.vacant.isVacant isVacant
    exact .inr ⟨next, here, isVacant⟩

theorem occupied_iff (holds : drain.Holds layout) (slot : Nat) (record : ClassRecord) :
    (∃ next, drain.registry.slots[slot]? = some (.occupied record next)) ↔
      ⟨slot, record⟩ ∈ layout.cells := by
  constructor
  · rintro ⟨next, occupied⟩
    obtain ⟨inside, -⟩ := Array.getElem?_eq_some_iff.mp occupied
    rcases holds.occupied_or_vacant inside with ⟨found, behind, here, member⟩ | ⟨behind, here, -⟩
    · cases occupied.symm.trans here
      exact member
    · cases occupied.symm.trans here
  · exact holds.occupied

theorem vacant_iff (holds : drain.Holds layout) (slot : Nat) :
    (∃ next, drain.registry.slots[slot]? = some (.vacant next)) ↔ slot ∈ layout.vacant := by
  constructor
  · rintro ⟨next, vacated⟩
    obtain ⟨inside, -⟩ := Array.getElem?_eq_some_iff.mp vacated
    rcases holds.occupied_or_vacant inside with ⟨found, behind, here, -⟩ | ⟨-, -, isVacant⟩
    · cases vacated.symm.trans here
    · exact isVacant
  · exact holds.vacant.isVacant

/-- What a drain holds is its chart. -/
theorem charted (holds : drain.Holds layout) : drain.Charted layout where
  chain := holds.chain
  waiting := holds.waiting
  vacancies := holds.vacant
  slots_nodup := holds.accounts.nodup
  mem_slots_iff := holds.mem_slots_iff
  occupied_iff := holds.occupied_iff
  vacant_iff := holds.vacant_iff
  index_iff := by
    intro number slot
    rw [holds.accounts.index_iff]
    constructor
    · rintro ⟨cell, member, sameNumber, rfl⟩
      obtain ⟨next, occupied⟩ := holds.occupied member
      exact ⟨cell.record, next, occupied, sameNumber⟩
    · rintro ⟨record, next, occupied, sameNumber⟩
      exact ⟨⟨slot, record⟩, (holds.occupied_iff slot record).mp ⟨next, occupied⟩, sameNumber, rfl⟩

end Drain.Holds

/-! ## A sweep round by round -/

namespace Sweep

variable {ε σ : Type}

/-- The sweep after the record under its cursor is found alive, or not. -/
def judge (sweep : Sweep) (slot : Nat) (next : Option Nat) : Bool → Sweep
  | true => sweep.spare slot next
  | false => sweep.condemn slot next

/-- What a sweep of a registry has come to after so many rounds, and what its questions have
made of their state.  In a round it asks about the record under the cursor and is answered. -/
inductive After (ask : Tag → EStateM ε σ Bool) (registry : Registry) (state : σ) :
    Nat → Sweep → σ → Prop where
  | start : After ask registry state 0 (Sweep.start registry) state
  | round {count slot : Nat} {sweep : Sweep} {now later : σ} {record : ClassRecord}
      {next : Option Nat} {alive : Bool} :
      After ask registry state count sweep now → sweep.cursor = some slot →
        sweep.registry.occupant? slot = some (record, next) →
        ask record.tag now = .ok alive later →
          After ask registry state (count + 1) (sweep.judge slot next alive) later

/-- How a sweep ends that has no further round: it is at the end of the chain, or its next
question fails. -/
inductive Stops (ask : Tag → EStateM ε σ Bool) (sweep : Sweep) (now : σ) : Swept ε × σ → Prop where
  | complete : sweep.cursor = none → Stops ask sweep now (.drained sweep.drain, now)
  | failed {slot : Nat} {record : ClassRecord} {next : Option Nat} {reason : ε} {later : σ} :
      sweep.cursor = some slot → sweep.registry.occupant? slot = some (record, next) →
        ask record.tag now = .error reason later →
          Stops ask sweep now (sweep.abandon reason, later)

variable {ask : Tag → EStateM ε σ Bool} {registry : Registry} {state now : σ} {count : Nat}
  {sweep : Sweep}

/-! ### Rounds and the loop -/

/-- A round is a step of the loop. -/
theorem run_round {slot : Nat} {record : ClassRecord} {next : Option Nat} {alive : Bool}
    {later : σ} (cursor : sweep.cursor = some slot)
    (occupant : sweep.registry.occupant? slot = some (record, next))
    (answer : ask record.tag now = .ok alive later) (steps : Nat) :
    run ask (steps + 1) sweep now = run ask steps (sweep.judge slot next alive) later := by
  cases alive <;> simp only [run, cursor, occupant, answer, judge]

/-- What is reached in rounds is reached by the loop. -/
theorem After.run_eq (after : After ask registry state count sweep now) (steps : Nat) :
    run ask (count + steps) (Sweep.start registry) state = run ask steps sweep now := by
  induction after generalizing steps with
  | start => rw [Nat.zero_add]
  | round _ cursor occupant answer ih =>
      rw [Nat.add_assoc, Nat.add_comm 1 steps, ih (steps + 1),
        run_round cursor occupant answer steps]

/-! ### Where a sweep stands -/

variable {chain spared rest doomed forgotten : List Cell} {vacant : List Nat}

/-- A sweep that stands before some records has the first of them under its cursor. -/
theorem Stands.under_cursor (stands : sweep.Stands spared rest doomed forgotten vacant)
    {slot : Nat} {record : ClassRecord} {next : Option Nat} (cursor : sweep.cursor = some slot)
    (occupant : sweep.registry.occupant? slot = some (record, next)) :
    ∃ cell behind, rest = cell :: behind ∧ slot = cell.slot ∧
      next = behind.head?.map Cell.slot := by
  have leads := stands.cursor
  cases rest with
  | nil =>
      rw [cursor] at leads
      cases leads
  | cons cell behind =>
      rw [cursor, List.head?_cons, Option.map_some] at leads
      cases leads
      rw [stands.occupant?_eq] at occupant
      cases occupant
      exact ⟨cell, behind, rfl, rfl, rfl⟩

/-- A record that is judged joins the spared or the doomed ones. -/
theorem Stands.judge {cell : Cell}
    (stands : sweep.Stands spared (cell :: rest) doomed forgotten vacant) (alive : Bool) :
    ∃ nowSpared nowDoomed, (nowSpared ++ nowDoomed).Perm (cell :: (spared ++ doomed)) ∧
      (sweep.judge cell.slot (rest.head?.map Cell.slot) alive).Stands nowSpared rest nowDoomed
        forgotten vacant := by
  cases alive with
  | true =>
      refine ⟨spared ++ [cell], doomed, ?_, stands.spare⟩
      rw [List.append_assoc, List.singleton_append]
      exact List.perm_middle
  | false => exact ⟨spared, cell :: doomed, List.perm_middle, stands.condemn⟩

/-- **After so many rounds a sweep stands behind so many records.**  Those that it has seen are
spared or doomed; those ahead are as they were. -/
theorem After.stands (holds : registry.atRest.Holds ⟨chain, [], forgotten, vacant⟩)
    (after : After ask registry state count sweep now) :
    ∃ seen ahead spared doomed, chain = seen ++ ahead ∧ seen.length = count ∧
      (spared ++ doomed).Perm seen ∧ sweep.Stands spared ahead doomed forgotten vacant := by
  induction after with
  | start => exact ⟨[], chain, [], [], rfl, rfl, .refl _, Stands.start holds⟩
  | @round _ _ _ _ _ _ _ alive _ cursor occupant _ ih =>
      obtain ⟨seen, ahead, spared, doomed, rfl, counted, sorted, stands⟩ := ih
      -- The first record ahead is now the last one seen.
      obtain ⟨cell, behind, rfl, rfl, rfl⟩ := stands.under_cursor cursor occupant
      obtain ⟨nowSpared, nowDoomed, joined, standsNext⟩ := stands.judge alive
      refine ⟨seen ++ [cell], behind, nowSpared, nowDoomed, List.append_cons .., ?_, ?_,
        standsNext⟩
      · rw [List.length_append, counted, List.length_singleton]
      · exact joined.trans ((sorted.cons cell).trans (List.perm_append_singleton cell seen).symm)

/-- **A sweep under way comes to an end**, and it does not matter how many more steps than there
are records ahead the loop is allowed. -/
theorem Stands.exists_stops (stands : sweep.Stands spared rest doomed forgotten vacant)
    (after : After ask registry state count sweep now) :
    ∃ total last later ended, After ask registry state total last later ∧
      Stops ask last later ended ∧
      ∀ steps ≥ rest.length, Sweep.run ask steps sweep now = ended := by
  -- By induction on the records ahead: a round takes one of them, and nothing brings one back.
  induction rest generalizing count sweep spared doomed now with
  | nil =>
      have cursor : sweep.cursor = none := stands.cursor
      refine ⟨count, sweep, now, _, after, .complete cursor, ?_⟩
      intro steps _
      cases steps <;> simp only [Sweep.run, cursor]
  | cons cell rest ih =>
      have cursor : sweep.cursor = some cell.slot := stands.cursor
      have occupant := stands.occupant?_eq
      cases answer : ask cell.record.tag now with
      | error reason next =>
          refine ⟨count, sweep, now, _, after, .failed cursor occupant answer, ?_⟩
          rintro (_ | steps) enough
          · cases enough
          · simp only [Sweep.run, cursor, occupant, answer]
      | ok alive next =>
          obtain ⟨nowSpared, nowDoomed, -, standsNext⟩ := stands.judge alive
          obtain ⟨total, last, later, ended, came, stops, same⟩ :=
            ih standsNext (after.round cursor occupant answer)
          refine ⟨total, last, later, ended, came, stops, ?_⟩
          rintro (_ | steps) enough
          · cases enough
          · rw [run_round cursor occupant answer steps]
            exact same steps (Nat.le_of_succ_le_succ enough)

/-- What a sweep under way has made of a chain, and the chart that goes with it. -/
structure Charted (sweep : Sweep) (seen ahead spared doomed forgotten : List Cell)
    (vacant : List Nat) : Prop where
  /-- The records seen are spared or doomed. -/
  sorted : (spared ++ doomed).Perm seen
  /-- The link is the last spared record, or the head of the chain. -/
  link : sweep.link = spared.getLast?.map Cell.slot
  /-- The cursor is on the first record ahead. -/
  cursor : sweep.cursor = ahead.head?.map Cell.slot
  /-- The spared records and those ahead are on the chain, and the doomed ones wait. -/
  drain : sweep.drain.Charted ⟨spared ++ ahead, doomed, forgotten, vacant⟩

end Sweep

/-! ## Drains to their end -/

/-- A drain hands out the records that wait, has a chart at every time, and has none left after
some number of steps.  If it is finished early, it releases the rest. -/
structure Drain.RunsDry (drain : Drain) (chain waiting forgotten : List Cell) (steps : Nat) :
    Prop where
  take : ∀ count, ∃ rest left,
    drain.take count = .ok ((waiting.take count).map Cell.record, rest) ∧
      rest.Charted ⟨chain, waiting.drop count, forgotten, left⟩ ∧
      (steps ≤ count → rest.waiting = none)
  finish : ∃ after left, drain.finish = .ok after ∧
    after.atRest.Charted ⟨chain, [], forgotten, left⟩

/-- A drain runs dry in as many steps as there are records that wait. -/
theorem Drain.Holds.runsDry {drain : Drain} {chain waiting forgotten : List Cell}
    {vacant : List Nat} (holds : drain.Holds ⟨chain, waiting, forgotten, vacant⟩) {steps : Nat}
    (enough : waiting.length ≤ steps) : drain.RunsDry chain waiting forgotten steps where
  take := by
    intro count
    obtain ⟨rest, left, taken, held⟩ := holds.take count
    refine ⟨rest, left, taken, held.charted, ?_⟩
    intro all
    have link := held.waiting.link_eq
    rwa [List.drop_of_length_le (Nat.le_trans enough all)] at link
  finish := by
    obtain ⟨after, left, finished, held⟩ := holds.finish
    exact ⟨after, left, finished, held.charted⟩

/-! ## Every list of requests -/

namespace Registry

/-- **Every slot has its place.**  After every list of requests to an empty registry there is a
chart of its slots, in which the forgotten records are those that were forgotten.  It stays a
chart, with the records found dead in a place of their own, after every round of a sweep, with
whatever answers; and so it does while these records are drained.  All walks come to an end: the
one along the chain, the sweep, and the drain that it hands over or that it releases take no
more steps than there are slots. -/
theorem slots_charted (requests : List Request) :
    let now := empty.afterAll requests
    ∃ (chain forgotten : List Cell) (vacant : List Nat),
      now.atRest.Charted ⟨chain, [], forgotten, vacant⟩ ∧
      forgotten.map Cell.record = (Ledger.empty.afterAll requests).forgotten ∧
      (∀ steps ≥ now.capacity, now.recordsFrom steps now.head = chain.map Cell.record) ∧
      ∀ {ε σ : Type} (ask : Tag → EStateM ε σ Bool) (state : σ),
        (∀ {count : Nat} {sweep : Sweep} {reached : σ},
          Sweep.After ask now state count sweep reached →
            count ≤ now.capacity ∧
            now.sweep ask state = Sweep.run ask (now.capacity - count) sweep reached ∧
            ∃ seen ahead spared doomed, chain = seen ++ ahead ∧ seen.length = count ∧
              sweep.Charted seen ahead spared doomed forgotten vacant ∧
              sweep.drain.RunsDry (spared ++ ahead) doomed forgotten now.capacity) ∧
        (∃ total last reached, Sweep.After ask now state total last reached ∧
          Sweep.Stops ask last reached (now.sweep ask state)) ∧
        ∀ steps ≥ now.capacity,
          Sweep.run ask steps (Sweep.start now) state = now.sweep ask state := by
  intro now
  have keeps : now.Keeps (Ledger.empty.afterAll requests) := Keeps.empty.afterAll requests
  obtain ⟨⟨chain, waiting, forgotten, vacant⟩, holds, -, waits, forgot⟩ := keeps
  obtain rfl : waiting = [] := List.map_eq_nil_iff.mp waits
  have fits : chain.length ≤ now.capacity := by
    have capacity := holds.accounts.capacity_eq
    simp only [Layout.cells, List.length_append, atRest] at capacity
    omega
  refine ⟨chain, forgotten, vacant, holds.charted, forgot, ?_, ?_⟩
  · intro steps enough
    exact holds.chain.recordsFrom_eq (Nat.le_trans fits enough)
  intro ε σ ask state
  refine ⟨?_, ?_⟩
  · intro count sweep reached after
    obtain ⟨seen, ahead, spared, doomed, rfl, counted, sorted, stands⟩ := after.stands holds
    have divided := sorted.length_eq
    simp only [List.length_append] at fits divided
    have loop := after.run_eq (now.capacity - count)
    rw [Nat.add_sub_cancel' (by omega)] at loop
    exact ⟨by omega, loop, seen, ahead, spared, doomed, rfl, counted,
      ⟨sorted, stands.link, stands.cursor, stands.holds.charted⟩,
      stands.holds.runsDry (by omega)⟩
  · obtain ⟨total, last, reached, ended, came, stops, same⟩ :=
      (Sweep.Stands.start holds).exists_stops (Sweep.After.start : Sweep.After ask now state 0 _ _)
    have swept : now.sweep ask state = ended := same now.capacity fits
    rw [swept]
    exact ⟨⟨total, last, reached, came, stops⟩, fun steps enough =>
      same steps (Nat.le_trans fits enough)⟩

end Registry

end ClassLiveness

import ClassLiveness.Tag.Supply
import Mathlib.Data.List.Range

/-!
# A supply of tags up to its end

A supply is asked for tags over and over, and in between copies of it are asked.  What it
answers can be told from two numbers: how many tags it has left, and how many times it has
been asked.  As long as tags are left it hands out the next number, and from then on it
aborts (`TagSupply.allocations_eq`, `TagSupply.allocated_afterAll`).  A copy sees the same
future and has no influence on it, so the requests to copies can be left out
(`TagSupply.allocations_without_forks`).

All this comes from the increment of a 64-bit word, and there the two ends of the range
meet: the word behind the last one is zero, and zero is no tag.  A supply hands out what an
increment gives that neither wraps around nor ends at zero (`TagSupply.allocate_of_word`).  So no
tag is handed out twice and none is zero, the last tag is numbered by how many have been handed
out, and the next one is a checked increment away (`TagSupply.supply_to_the_end`).
-/

set_option autoImplicit false

namespace ClassLiveness

/-! ## The increment of a word -/

/-- The sum of two words, unless it is too large for a word. -/
def checkedAdd (first second : UInt64) : Option UInt64 :=
  if first.toNat + second.toNat < UInt64.size then some (first + second) else none

/-- A word, unless it is zero. -/
def nonZero (word : UInt64) : Option UInt64 := if word = 0 then none else some word

theorem checkedAdd_one_of_lt {word : UInt64} (room : word.toNat < Tag.limit) :
    ∃ next, (checkedAdd word 1).bind nonZero = some next ∧ next.toNat = word.toNat + 1 := by
  simp only [Tag.limit] at room
  have fits : word.toNat + (1 : UInt64).toNat < UInt64.size := by
    rw [UInt64.toNat_one, UInt64.size]
    omega
  have number : (word + 1).toNat = word.toNat + 1 := by
    rw [UInt64.toNat_add, UInt64.toNat_one]
    omega
  have notZero : word + 1 ≠ 0 := by
    intro zero
    rw [zero, UInt64.toNat_zero] at number
    omega
  refine ⟨word + 1, ?_, number⟩
  rw [checkedAdd, if_pos fits, Option.bind_some, nonZero, if_neg notZero]

theorem checkedAdd_one_of_limit {word : UInt64} (spent : word.toNat = Tag.limit) :
    (checkedAdd word 1).bind nonZero = none := by
  have overflows : ¬ word.toNat + (1 : UInt64).toNat < UInt64.size := by
    rw [spent, UInt64.toNat_one]
    decide
  rw [checkedAdd, if_neg overflows, Option.bind_none]

namespace TagSupply

/-! ## Supplies as words -/

/-- The supply whose last number is kept in a word. -/
def ofWord (word : UInt64) : TagSupply := ⟨word.toNat, Nat.le_of_lt_succ word.toNat_lt⟩

theorem startingAfter?_toNat (word : UInt64) :
    startingAfter? word.toNat = some (ofWord word) := dif_pos (ofWord word).allocated_le_limit

/-- The word in which the last number is kept. -/
def word (supply : TagSupply) : UInt64 := UInt64.ofNat supply.allocated

theorem toNat_word (supply : TagSupply) : supply.word.toNat = supply.allocated := by
  have bound := supply.allocated_le_limit
  simp only [Tag.limit] at bound
  rw [word, UInt64.toNat_ofNat']
  omega

/-- **A tag is handed out by one checked increment**, and the supply aborts if that gives
nothing. -/
theorem allocate_of_word (supply : TagSupply) :
    match (checkedAdd supply.word 1).bind nonZero with
    | some next => ∃ tag after, supply.allocate = .ok (tag, after) ∧
        tag.number = next.toNat ∧ after.word = next
    | none => supply.allocate = .error (.tagsExhausted supply.word.toNat) := by
  have bound := supply.allocated_le_limit
  rcases Nat.lt_or_eq_of_le bound with room | spent
  · obtain ⟨next, incremented, number⟩ := checkedAdd_one_of_lt (supply.toNat_word ▸ room)
    rw [incremented]
    rw [toNat_word] at number
    refine ⟨_, _, supply.allocate_of_lt room, number.symm, ?_⟩
    apply UInt64.toNat_inj.mp
    rw [toNat_word, number]
  · rw [checkedAdd_one_of_limit (supply.toNat_word.trans spent), toNat_word, spent]
    exact supply.allocate_of_limit spent

/-! ## One request -/

/-- How many tags are left. -/
def left (supply : TagSupply) : Nat := Tag.limit - supply.allocated

theorem serve_allocate_of_left (supply : TagSupply) (someLeft : 0 < supply.left) :
    ∃ tag after, supply.serve .allocate = (.ok (some tag), after) ∧
      tag.number = supply.allocated + 1 ∧ after.allocated = supply.allocated + 1 ∧
      after.left = supply.left - 1 := by
  have room : supply.allocated < Tag.limit := Nat.lt_of_sub_pos someLeft
  refine ⟨⟨supply.allocated + 1, Nat.succ_pos _, room⟩, ⟨supply.allocated + 1, room⟩, ?_, rfl,
    rfl, Nat.sub_succ _ _⟩
  simp only [serve, supply.allocate_of_lt room]

theorem serve_allocate_of_spent (supply : TagSupply) (spent : supply.left = 0) :
    supply.serve .allocate = (.error (.tagsExhausted Tag.limit), supply) := by
  have atLimit : supply.allocated = Tag.limit :=
    Nat.le_antisymm supply.allocated_le_limit (Nat.sub_eq_zero_iff_le.mp spent)
  simp only [serve, supply.allocate_of_limit atLimit]

/-- A copy answers what the supply would answer next, and the supply stays as it is. -/
theorem serve_fork (supply : TagSupply) :
    supply.serve .fork = ((supply.serve .allocate).1, supply) := by
  simp only [serve]
  cases supply.allocate with
  | ok taken => rfl
  | error abort => rfl

/-! ## Every list of requests -/

/-- The supply that a list of requests leaves behind. -/
def afterAll (supply : TagSupply) (requests : List Request) : TagSupply :=
  requests.foldl (fun now request => (now.serve request).2) supply

/-- The answers to the requests for a tag of the supply itself. -/
def allocations (supply : TagSupply) (requests : List Request) :
    List (Except Abort (Option Tag)) :=
  ((requests.zip (supply.serveAll requests)).filter fun step => step.1 = .allocate).map
    fun step => step.2.1

theorem allocations_cons_allocate (supply : TagSupply) (rest : List Request) :
    supply.allocations (.allocate :: rest) =
      (supply.serve .allocate).1 :: (supply.serve .allocate).2.allocations rest := rfl

theorem allocations_cons_of_ne (supply : TagSupply) {request : Request} (rest : List Request)
    (other : request ≠ .allocate) :
    supply.allocations (request :: rest) = (supply.serve request).2.allocations rest := by
  simp only [allocations, serveAll, List.zip_cons_cons, List.filter_cons, other, decide_false,
    Bool.false_eq_true, if_false]

/-- **A supply that is not renewed hands out the numbers that it has left, in order, and then
it aborts.** -/
theorem allocations_eq (supply : TagSupply) {requests : List Request}
    (unrenewed : .renew ∉ requests) :
    ∃ tags : List Tag,
      tags.map Tag.number =
        List.range' (supply.allocated + 1) (min (requests.count .allocate) supply.left) ∧
      supply.allocations requests = tags.map (fun tag => .ok (some tag)) ++
        List.replicate (requests.count .allocate - supply.left)
          (.error (.tagsExhausted Tag.limit)) := by
  induction requests generalizing supply with
  | nil => exact ⟨[], by simp [allocations]⟩
  | cons request rest ih =>
      rw [List.mem_cons, not_or] at unrenewed
      obtain ⟨notRenewed, unrenewed⟩ := unrenewed
      cases request with
      | renew => exact absurd rfl notRenewed
      | fork =>
          obtain ⟨tags, numbers, answers⟩ := ih supply unrenewed
          have uncounted : (Request.fork :: rest).count .allocate = rest.count .allocate :=
            List.count_cons_of_ne (by decide)
          rw [uncounted, supply.allocations_cons_of_ne rest (by decide)]
          exact ⟨tags, numbers, answers⟩
      | allocate =>
          rw [List.count_cons_self, allocations_cons_allocate]
          -- At the limit the supply stays as it is, so the answers behind this one are aborts too.
          rcases Nat.eq_zero_or_pos supply.left with spent | room
          · obtain ⟨tags, numbers, answers⟩ := ih supply unrenewed
            rw [spent, Nat.min_zero, List.range'_zero] at numbers
            obtain rfl := List.map_eq_nil_iff.mp numbers
            rw [serve_allocate_of_spent supply spent, answers]
            exact ⟨[], by simp [spent], by simp [spent, List.replicate_succ]⟩
          · obtain ⟨tag, after, served, number, allocated, left⟩ :=
              supply.serve_allocate_of_left room
            obtain ⟨tags, numbers, answers⟩ := ih after unrenewed
            have granted : min (rest.count .allocate + 1) supply.left =
                min (rest.count .allocate) after.left + 1 := by omega
            have refused : rest.count .allocate + 1 - supply.left =
                rest.count .allocate - after.left := by omega
            rw [served, answers, granted, refused, List.range'_succ]
            refine ⟨tag :: tags, ?_, rfl⟩
            rw [List.map_cons, numbers, number, allocated]

/-- The numbers handed out are counted, and nothing else is. -/
theorem allocated_afterAll (supply : TagSupply) {requests : List Request}
    (unrenewed : .renew ∉ requests) :
    (supply.afterAll requests).allocated =
      supply.allocated + min (requests.count .allocate) supply.left := by
  induction requests generalizing supply with
  | nil => simp [afterAll]
  | cons request rest ih =>
      rw [List.mem_cons, not_or] at unrenewed
      obtain ⟨notRenewed, unrenewed⟩ := unrenewed
      cases request with
      | renew => exact absurd rfl notRenewed
      | fork =>
          rw [List.count_cons_of_ne (by decide)]
          exact ih supply unrenewed
      | allocate =>
          have later := ih (supply.serve .allocate).2 unrenewed
          rw [List.count_cons_self]
          refine Eq.trans later ?_
          rcases Nat.eq_zero_or_pos supply.left with spent | room
          · rw [serve_allocate_of_spent supply spent, spent, Nat.min_zero, Nat.min_zero]
          · obtain ⟨tag, after, served, -, allocated, left⟩ := supply.serve_allocate_of_left room
            rw [served]
            simp only
            omega

/-- **Requests to copies have no influence.** -/
theorem allocations_without_forks (supply : TagSupply) (requests : List Request) :
    supply.allocations (requests.filter (· ≠ .fork)) = supply.allocations requests ∧
      supply.afterAll (requests.filter (· ≠ .fork)) = supply.afterAll requests := by
  induction requests generalizing supply with
  | nil => exact ⟨rfl, rfl⟩
  | cons request rest ih =>
      cases request with
      | fork =>
          rw [List.filter_cons_of_neg (by decide), supply.allocations_cons_of_ne rest (by decide)]
          exact ih supply
      | allocate =>
          obtain ⟨answers, ends⟩ := ih (supply.serve .allocate).2
          rw [List.filter_cons_of_pos (by decide), allocations_cons_allocate,
            allocations_cons_allocate, answers]
          exact ⟨rfl, ends⟩
      | renew =>
          obtain ⟨answers, ends⟩ := ih fresh
          rw [List.filter_cons_of_pos (by decide), supply.allocations_cons_of_ne _ (by decide),
            supply.allocations_cons_of_ne _ (by decide)]
          exact ⟨answers, ends⟩

/-- The last number is that of the last tag, and a supply that has handed out nothing has
none. -/
theorem map_last? (supply : TagSupply) :
    supply.last?.map Tag.number = if supply.allocated = 0 then none else some supply.allocated := by
  cases last : supply.last? with
  | none => rw [if_pos (supply.last?_eq_none_iff.mp last), Option.map_none]
  | some tag =>
      have number := Tag.ofNat?_eq_some_iff.mp last
      have positive := tag.number_pos
      rw [if_neg (by omega), Option.map_some, number]

/-! ## Up to the end -/

/-- **What a supply hands out, whatever word it starts from.**  In a list of requests without a
renewal, the requests for a tag are answered with the numbers behind that word, in order and
without a gap, until the last word has been handed out; every further one aborts and leaves the
supply as it is.  A copy answers what the supply would answer next, and changes nothing. -/
theorem supply_to_the_end (start : UInt64) (requests : List Request)
    (unrenewed : .renew ∉ requests) :
    let supply := ofWord start
    let now := supply.afterAll requests
    let asked := requests.count .allocate
    let room := 18446744073709551615 - start.toNat
    let exhausted : Abort := .tagsExhausted 18446744073709551615
    startingAfter? start.toNat = some supply ∧
    (∃ tags : List Tag,
      supply.allocations requests =
        tags.map (fun tag => .ok (some tag)) ++ List.replicate (asked - room) (.error exhausted) ∧
      tags.map Tag.number = List.range' (start.toNat + 1) (min asked room) ∧
      tags.Pairwise (fun earlier later => earlier.number < later.number) ∧
      ∀ tag ∈ tags, start.toNat < tag.number ∧ tag.number ≤ 18446744073709551615) ∧
    now.allocated = start.toNat + min asked room ∧
    (asked < room → ∃ tag after, now.serve .allocate = (.ok (some tag), after) ∧
      tag.number = start.toNat + asked + 1) ∧
    (room ≤ asked → now.serve .allocate = (.error exhausted, now)) ∧
    exhausted.message = "tag space exhausted after 18446744073709551615 allocations" ∧
    now.serve .fork = ((now.serve .allocate).1, now) ∧
    supply.allocations (requests.filter (· ≠ .fork)) = supply.allocations requests ∧
    supply.afterAll (requests.filter (· ≠ .fork)) = now ∧
    now.last?.map Tag.number = (if now.allocated = 0 then none else some now.allocated) ∧
    match (checkedAdd now.word 1).bind nonZero with
    | some next => ∃ tag after, now.allocate = .ok (tag, after) ∧
        tag.number = next.toNat ∧ after.word = next
    | none => now.allocate = .error (.tagsExhausted now.word.toNat) := by
  intro supply now asked room exhausted
  have allocated : now.allocated = start.toNat + min asked room :=
    supply.allocated_afterAll unrenewed
  have left : now.left = room - asked := by
    have fits := start.toNat_lt
    simp only [TagSupply.left, allocated, Tag.limit, room]
    omega
  obtain ⟨sameAnswers, sameEnd⟩ := supply.allocations_without_forks requests
  refine ⟨startingAfter?_toNat start, ?_, allocated, ?_, ?_, by decide, now.serve_fork, sameAnswers,
    sameEnd, now.map_last?, now.allocate_of_word⟩
  · obtain ⟨tags, numbers, answers⟩ := supply.allocations_eq unrenewed
    refine ⟨tags, answers, numbers, ?_, ?_⟩
    · have ascending : (tags.map Tag.number).Pairwise (· < ·) := by
        rw [numbers]
        exact List.pairwise_lt_range'
      exact List.pairwise_map.mp ascending
    · intro tag member
      have listed : tag.number ∈ tags.map Tag.number := List.mem_map_of_mem member
      rw [numbers, List.mem_range'_1] at listed
      exact ⟨listed.1, tag.number_le_limit⟩
  · intro roomy
    obtain ⟨tag, after, served, number, -⟩ := now.serve_allocate_of_left (by omega)
    refine ⟨tag, after, served, ?_⟩
    omega
  · intro spent
    exact now.serve_allocate_of_spent (by omega)

/-- The last tag but one has been handed out: a copy and the supply itself both give the last
one, and then both abort. -/
theorem last_tag_then_abort :
    let requests : List Request := [.fork, .allocate, .fork, .allocate]
    let supply := ofWord 18446744073709551614
    .renew ∉ requests ∧
      supply.allocations requests =
        [.ok (Tag.ofNat? 18446744073709551615), .error (.tagsExhausted 18446744073709551615)] ∧
      (supply.afterAll requests).serve .fork =
        (.error (.tagsExhausted 18446744073709551615), supply.afterAll requests) := by
  intro requests supply
  have unrenewed : .renew ∉ requests := by decide
  obtain ⟨-, ⟨tags, answers, numbers, -⟩, -, -, spent, -, forked, -⟩ :=
    supply_to_the_end 18446744073709551614 requests unrenewed
  have aborts := spent (by decide)
  refine ⟨unrenewed, ?_, ?_⟩
  · cases tags with
    | nil => cases numbers
    | cons tag rest =>
        rw [List.map_cons] at numbers
        obtain ⟨number, others⟩ := List.cons.inj numbers
        obtain rfl := List.map_eq_nil_iff.mp others
        have last : Tag.ofNat? 18446744073709551615 = some tag :=
          Tag.ofNat?_eq_some_iff.mpr number
        rw [last]
        exact answers
  · rw [aborts] at forked
    exact forked

end TagSupply

end ClassLiveness

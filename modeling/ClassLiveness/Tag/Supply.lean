import ClassLiveness.Diagnosis.Abort

/-!
# The supply of tags

Tags are handed out in ascending order from 1 and never taken back.  The whole
state of a supply is therefore one number: how many tags it has handed out,
which is also the number of the last one.

A supply below the limit hands out the next number and counts it
(`TagSupply.allocate_of_lt`); a supply at the limit aborts, and goes on aborting
(`TagSupply.allocate_of_limit`).
-/

set_option autoImplicit false

namespace ClassLiveness

/-- A monotonic source of tags. -/
structure TagSupply where
  /-- How many tags have been handed out. -/
  allocated : Nat
  allocated_le_limit : allocated ≤ Tag.limit

namespace TagSupply

@[ext]
theorem ext {first second : TagSupply} (same : first.allocated = second.allocated) :
    first = second := by
  cases first
  cases second
  cases same
  rfl

/-- The supply from which no tag has been taken. -/
def fresh : TagSupply := ⟨0, Nat.zero_le _⟩

/-- The supply whose last tag has a given number, if there is one. -/
def startingAfter? (last : Nat) : Option TagSupply :=
  if inside : last ≤ Tag.limit then some ⟨last, inside⟩ else none

/-- The tag handed out last, if any was. -/
def last? (supply : TagSupply) : Option Tag := Tag.ofNat? supply.allocated

/-- Hands out the next tag, or aborts once all are spent. -/
def allocate (supply : TagSupply) : Except Abort (Tag × TagSupply) :=
  if room : supply.allocated < Tag.limit then
    .ok (⟨supply.allocated + 1, Nat.succ_pos _, room⟩, ⟨supply.allocated + 1, room⟩)
  else
    .error (.tagsExhausted supply.allocated)

theorem allocate_of_lt (supply : TagSupply) (room : supply.allocated < Tag.limit) :
    supply.allocate =
      .ok (⟨supply.allocated + 1, Nat.succ_pos _, room⟩, ⟨supply.allocated + 1, room⟩) :=
  dif_pos room

theorem allocate_of_limit (supply : TagSupply) (spent : supply.allocated = Tag.limit) :
    supply.allocate = .error (.tagsExhausted Tag.limit) := by
  rw [allocate, dif_neg (by omega), spent]

/-- A supply aborts once all tags are spent, and says how many there were. -/
theorem allocate_error {supply : TagSupply} {abort : Abort}
    (exhausted : supply.allocate = .error abort) :
    supply.allocated = Tag.limit ∧ abort = .tagsExhausted supply.allocated := by
  have bound := supply.allocated_le_limit
  unfold allocate at exhausted
  split at exhausted
  · cases exhausted
  · cases exhausted
    exact ⟨by omega, rfl⟩

/-- The tag handed out is numbered by how many have been handed out with it. -/
theorem allocate_ok {supply after : TagSupply} {tag : Tag}
    (taken : supply.allocate = .ok (tag, after)) :
    tag.number = supply.allocated + 1 ∧ after.allocated = supply.allocated + 1 := by
  unfold allocate at taken
  split at taken
  · cases taken
    exact ⟨rfl, rfl⟩
  · cases taken

theorem last?_eq_none_iff (supply : TagSupply) : supply.last? = none ↔ supply.allocated = 0 := by
  have bound := supply.allocated_le_limit
  rw [last?, ← Option.not_isSome_iff_eq_none, Tag.ofNat?_isSome_iff]
  omega

/-! ## Requests to a supply -/

/-- What can be asked of a supply in turn. -/
inductive Request where
  /-- Take the next tag. -/
  | allocate
  /-- Take the next tag of a copy, and leave the supply itself alone. -/
  | fork
  /-- Start over with a fresh supply. -/
  | renew
deriving DecidableEq

/-- The answer to a request and the supply after it.  A request that aborts
leaves the supply as it was. -/
def serve (supply : TagSupply) : Request → Except Abort (Option Tag) × TagSupply
  | .allocate =>
      match supply.allocate with
      | .ok (tag, after) => (.ok (some tag), after)
      | .error abort => (.error abort, supply)
  | .fork => (supply.allocate.map fun (tag, _) => some tag, supply)
  | .renew => (.ok none, fresh)

/-- The answers to a list of requests, each with the supply as it stood after
the request. -/
def serveAll : TagSupply → List Request → List (Except Abort (Option Tag) × TagSupply)
  | _, [] => []
  | supply, request :: rest =>
      let served := supply.serve request
      served :: serveAll served.2 rest

end TagSupply

end ClassLiveness

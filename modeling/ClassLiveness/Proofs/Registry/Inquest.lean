import ClassLiveness.Registry.Sweep
import Mathlib.Data.List.Perm.Basic

/-!
# Questions about records

A sweep asks about the records on the chain, one after the other.  What the
questions come to is a matter of the records and the answers alone: some records
are found alive, some dead, and a question that fails leaves the rest unexamined
(`Registry.inquire`).

Nothing is lost (`Registry.inquire_perm`), the order stays, and in a list without
repeats the dead are exactly those that are not kept (`Registry.filter_not_kept`).
If there is a truth about every record that the answers follow, a series of
questions without a failure sorts the records by it (`Registry.inquire_of_truth`).
-/

set_option autoImplicit false

namespace ClassLiveness

/-- What a series of questions about records comes to. -/
structure Inquest (ε σ : Type) where
  /-- The records found alive, in the order of the questions. -/
  alive : List ClassRecord
  /-- The records found dead, in the order of the questions. -/
  dead : List ClassRecord
  /-- Why the last question failed, if it did. -/
  failure? : Option ε
  /-- The record whose question failed, and those behind it. -/
  unexamined : List ClassRecord
  /-- The state after the last question. -/
  state : σ

namespace Inquest

variable {ε σ : Type}

/-- The records that are found alive or not examined. -/
def kept (inquest : Inquest ε σ) : List ClassRecord := inquest.alive ++ inquest.unexamined

/-- The inquest with a record in front that was found alive. -/
def spare (inquest : Inquest ε σ) (record : ClassRecord) : Inquest ε σ :=
  { inquest with alive := record :: inquest.alive }

/-- The inquest with a record in front that was found dead. -/
def condemn (inquest : Inquest ε σ) (record : ClassRecord) : Inquest ε σ :=
  { inquest with dead := record :: inquest.dead }

end Inquest

/-- Asks about records one after the other, until a question fails. -/
def Registry.inquire {ε σ : Type} (ask : Tag → EStateM ε σ Bool) :
    List ClassRecord → σ → Inquest ε σ
  | [], state => ⟨[], [], none, [], state⟩
  | record :: rest, state =>
      match ask record.tag state with
      | .ok true after => (inquire ask rest after).spare record
      | .ok false after => (inquire ask rest after).condemn record
      | .error reason after => ⟨[], [], some reason, record :: rest, after⟩

/-- Without a failure every record is examined. -/
theorem Registry.unexamined_inquire {ε σ : Type} (ask : Tag → EStateM ε σ Bool)
    (records : List ClassRecord) (state : σ)
    (answered : (inquire ask records state).failure? = none) :
    (inquire ask records state).unexamined = [] := by
  induction records generalizing state with
  | nil => rfl
  | cons record rest ih =>
      simp only [inquire] at answered ⊢
      split at answered
      · exact ih _ answered
      · exact ih _ answered
      · cases answered

/-- Without a failure the records that are kept are those found alive. -/
theorem Registry.kept_of_answered {ε σ : Type} {ask : Tag → EStateM ε σ Bool}
    {records : List ClassRecord} {state : σ}
    (answered : (inquire ask records state).failure? = none) :
    (inquire ask records state).kept = (inquire ask records state).alive := by
  rw [Inquest.kept, unexamined_inquire ask records state answered, List.append_nil]

namespace Registry

variable {ε σ : Type} (ask : Tag → EStateM ε σ Bool) (records : List ClassRecord) (state : σ)

/-! ## What becomes of the records -/

theorem kept_sublist : (inquire ask records state).kept.Sublist records := by
  induction records generalizing state with
  | nil => exact List.Sublist.refl []
  | cons record rest ih =>
      simp only [inquire]
      split
      · exact (ih _).cons_cons record
      · exact (ih _).cons record
      · exact List.Sublist.refl _

/-- Every record is kept or found dead. -/
theorem inquire_perm :
    ((inquire ask records state).kept ++ (inquire ask records state).dead).Perm records := by
  induction records generalizing state with
  | nil => exact List.Perm.refl []
  | cons record rest ih =>
      simp only [inquire]
      split
      · exact (ih _).cons record
      · exact List.perm_middle.trans ((ih _).cons record)
      · exact List.Perm.of_eq (List.append_nil _)

/-- In a list without repeats the dead are the records that are not kept. -/
theorem filter_not_kept (distinct : records.Nodup) :
    records.filter (fun record => record ∉ (inquire ask records state).kept) =
      (inquire ask records state).dead := by
  induction records generalizing state with
  | nil => rfl
  | cons record rest ih =>
      obtain ⟨fresh, distinct⟩ := List.nodup_cons.mp distinct
      rcases answer : ask record.tag state with ⟨_ | _, after⟩ | ⟨reason, after⟩
      · have unkept : record ∉ (inquire ask rest after).kept := fun member =>
          fresh ((kept_sublist ask rest after).subset member)
        have examined : inquire ask (record :: rest) state =
            (inquire ask rest after).condemn record := by
          simp only [inquire, answer]
        rw [examined]
        refine (List.filter_cons_of_pos ?_).trans (congrArg (List.cons record) (ih after distinct))
        exact decide_eq_true unkept
      · have examined : inquire ask (record :: rest) state =
            (inquire ask rest after).spare record := by
          simp only [inquire, answer]
        have others : ∀ other ∈ rest, (other ∉ record :: (inquire ask rest after).kept) ↔
            other ∉ (inquire ask rest after).kept := by
          intro other member
          have different : other ≠ record := fun same => fresh (same ▸ member)
          simp only [List.mem_cons, different, false_or]
        rw [examined]
        refine (List.filter_cons_of_neg (by simp [Inquest.spare, Inquest.kept])).trans ?_
        refine (List.filter_congr fun other member => ?_).trans (ih after distinct)
        exact decide_eq_decide.mpr (others other member)
      · have examined : (inquire ask (record :: rest) state).kept = record :: rest ∧
            (inquire ask (record :: rest) state).dead = [] := by
          simp only [inquire, answer, Inquest.kept, List.nil_append, and_self]
        rw [examined.1, examined.2]
        refine List.filter_eq_nil_iff.mpr fun other member => ?_
        simp only [member, not_true_eq_false, decide_false, Bool.false_eq_true, not_false_eq_true]

/-! ## What becomes of the state -/

/-- What every answer keeps is kept to the end, and a failure leaves what it may. -/
theorem inquire_ends (Kept : σ → Prop) (Failed : ε → σ → Prop)
    (keeps : ∀ tag state answer after, Kept state → ask tag state = .ok answer after → Kept after)
    (fails : ∀ tag state reason after, Kept state → ask tag state = .error reason after →
      Failed reason after)
    (kept : Kept state) :
    ((inquire ask records state).failure? = none → Kept (inquire ask records state).state) ∧
      ∀ reason, (inquire ask records state).failure? = some reason →
        Failed reason (inquire ask records state).state := by
  induction records generalizing state with
  | nil =>
      refine ⟨fun _ => kept, ?_⟩
      intro reason failed
      cases failed
  | cons record rest ih =>
      rcases answer : ask record.tag state with ⟨_ | _, after⟩ | ⟨reason, after⟩
      · simp only [inquire, answer]
        exact ih after (keeps _ _ _ _ kept answer)
      · simp only [inquire, answer]
        exact ih after (keeps _ _ _ _ kept answer)
      · have examined : inquire ask (record :: rest) state =
            ⟨[], [], some reason, record :: rest, after⟩ := by
          simp only [inquire, answer]
        rw [examined]
        refine ⟨?_, ?_⟩
        · intro answered
          cases answered
        · intro given failed
          cases failed
          exact fails _ _ _ _ kept answer

/-- **Answers that follow a truth sort the records by it**, if none of them fails. -/
theorem inquire_of_truth (Kept : σ → Prop) (alive : ClassRecord → Bool)
    (truthful : ∀ record ∈ records, ∀ state answer after, Kept state →
      ask record.tag state = .ok answer after → answer = alive record ∧ Kept after)
    (kept : Kept state) (answered : (inquire ask records state).failure? = none) :
    (inquire ask records state).alive = records.filter alive ∧
      (inquire ask records state).dead = records.filter fun record => !alive record := by
  induction records generalizing state with
  | nil => exact ⟨rfl, rfl⟩
  | cons record rest ih =>
      have others := fun other member => truthful other (List.mem_cons_of_mem record member)
      rcases answer : ask record.tag state with ⟨found, after⟩ | ⟨reason, after⟩
      · obtain ⟨rfl, keptAfter⟩ := truthful record List.mem_cons_self _ _ _ kept answer
        cases verdict : alive record with
        | false =>
            simp only [inquire, answer, verdict] at answered ⊢
            obtain ⟨spared, condemned⟩ := ih after others keptAfter answered
            simp only [Inquest.condemn, spared, condemned, List.filter_cons, verdict,
              Bool.not_false, Bool.false_eq_true, if_true, if_false, and_self]
        | true =>
            simp only [inquire, answer, verdict] at answered ⊢
            obtain ⟨spared, condemned⟩ := ih after others keptAfter answered
            simp only [Inquest.spare, spared, condemned, List.filter_cons, verdict,
              Bool.not_true, Bool.false_eq_true, if_true, if_false, and_self]
      · simp only [inquire, answer] at answered
        cases answered

end Registry

end ClassLiveness

import ClassLiveness.Proofs.Registry.Keeping

/-!
# A registry answers as its ledger

Requests to a registry are answered as requests to a ledger, which has two lists
of records and no slots.  One request keeps the relation between the two and is
answered alike (`Registry.Keeps.serve`); so a registry and a ledger that both start
empty give the same answers to every list of requests and look the same after
each of them (`Registry.serveAll_eq_ledger`).

A drain request carries a verdict on every tag.  No two records on the chain share
a tag, so every sequence of answers that a sweep can be given is the sequence of
some verdict (`exists_verdict`), and the requests cover all of them.
-/

set_option autoImplicit false

namespace ClassLiveness

/-- What can be seen of the records that a registry or a ledger holds. -/
structure Holdings where
  /-- The records on the chain, in order. -/
  records : List ClassRecord
  len : Nat
  isEmpty : Bool
  get? : Tag → Option ClassRecord
  contains : Tag → Bool

/-- What can be seen of a registry. -/
def Registry.holdings (registry : Registry) : Holdings :=
  ⟨registry.records, registry.len, registry.isEmpty, registry.get?, registry.contains⟩

/-- What can be seen of a ledger. -/
def Ledger.holdings (ledger : Ledger) : Holdings :=
  ⟨ledger.chain, ledger.len, ledger.isEmpty, ledger.get?, ledger.contains⟩

/-- Every sequence of answers about records with different tags is given by a
verdict on tags. -/
theorem exists_verdict {records : List ClassRecord}
    (distinct : (records.map ClassRecord.tag).Nodup) (answers : List Registry.Verdict)
    (lengths : answers.length = records.length) :
    ∃ verdict : Tag → Registry.Verdict,
      records.map (fun record => verdict record.tag) = answers := by
  induction records generalizing answers with
  | nil => exact ⟨fun _ => .alive, (List.length_eq_zero_iff.mp lengths).symm⟩
  | cons record rest ih =>
      cases answers with
      | nil => cases lengths
      | cons answer others =>
          rw [List.map_cons, List.nodup_cons] at distinct
          obtain ⟨verdict, same⟩ := ih distinct.2 others (Nat.succ.inj lengths)
          refine ⟨fun tag => if tag = record.tag then answer else verdict tag, ?_⟩
          have unaffected : ∀ other ∈ rest,
              (if other.tag = record.tag then answer else verdict other.tag) =
                verdict other.tag := by
            intro other member
            apply if_neg
            intro sameTag
            exact distinct.1 (sameTag ▸ List.mem_map_of_mem member)
          simp only [List.map_cons, if_pos, List.map_congr_left unaffected, same]

namespace Registry

/-! ## Questions answered by a verdict -/

/-- The questions of a sweep by a verdict come to what a ledger says of it. -/
theorem inquire_consult (verdict : Tag → Verdict) (ledger : Ledger) (asked : List Tag) :
    inquire (consult verdict) ledger.chain asked =
      { alive := (ledger.examined verdict).filter fun record => !Ledger.isDead verdict record
        dead := (ledger.examined verdict).filter (Ledger.isDead verdict)
        failure? := (ledger.unexamined verdict).head?.map ClassRecord.tag
        unexamined := ledger.unexamined verdict
        state := asked ++ (ledger.examined verdict).map ClassRecord.tag ++
          ((ledger.unexamined verdict).head?.map ClassRecord.tag).toList } := by
  obtain ⟨chain, forgotten⟩ := ledger
  simp only [Ledger.examined, Ledger.unexamined]
  induction chain generalizing asked with
  | nil => simp [inquire]
  | cons record rest ih =>
      cases answer : verdict record.tag with
      | alive =>
          have consulted : consult verdict record.tag asked = .ok true (asked ++ [record.tag]) := by
            simp only [consult, answer]
            rfl
          simp only [inquire, consulted, ih, Inquest.spare]
          simp [Ledger.isAnswered, Ledger.isDead, answer]
      | dead =>
          have consulted : consult verdict record.tag asked =
              .ok false (asked ++ [record.tag]) := by
            simp only [consult, answer]
            rfl
          simp only [inquire, consulted, ih, Inquest.condemn]
          simp [Ledger.isAnswered, Ledger.isDead, answer]
      | fails =>
          have consulted : consult verdict record.tag asked =
              .error record.tag (asked ++ [record.tag]) := by
            simp only [consult, answer]
            rfl
          simp only [inquire, consulted]
          simp [Ledger.isAnswered, answer]

/-! ## One request -/

/-- A registry and a ledger were asked the same, answered alike, and the registry
keeps the ledger after it. -/
def Agree (served : Answer × Registry) (entered : Answer × Ledger) : Prop :=
  served.1 = entered.1 ∧ served.2.Keeps entered.2

namespace Keeps

variable {registry : Registry} {ledger : Ledger}

/-- The holdings of a registry are those of its ledger. -/
theorem holdings_eq (keeps : registry.Keeps ledger) : registry.holdings = ledger.holdings := by
  simp only [Registry.holdings, Ledger.holdings, keeps.records_eq, keeps.len_eq, keeps.isEmpty_eq,
    funext keeps.get?_eq, funext keeps.contains_eq]

theorem servePush (keeps : registry.Keeps ledger) (number : Nat) (signature : String) :
    Agree (registry.servePush number signature) (ledger.servePush number signature) := by
  unfold Registry.servePush Ledger.servePush
  cases Tag.ofNat? number with
  | none => exact ⟨rfl, keeps⟩
  | some tag =>
      cases pushed : ledger.push ⟨tag, signature⟩ with
      | ok grown =>
          obtain ⟨after, accepted, keepsAfter⟩ := keeps.push_ok pushed
          simp only [accepted, pushed]
          exact ⟨rfl, keepsAfter⟩
      | error abort =>
          simp only [keeps.push_error pushed, pushed]
          exact ⟨rfl, keeps⟩

theorem servePushMany (keeps : registry.Keeps ledger) (first : Nat) (stem : String)
    (count number : Nat) :
    Agree (registry.servePushMany first stem count number)
      (ledger.servePushMany first stem count number) := by
  induction count generalizing registry ledger number with
  | zero => exact ⟨rfl, keeps⟩
  | succ count ih =>
      have agree := keeps.servePush (first + number) (numberedSignature stem number)
      unfold Registry.servePushMany Ledger.servePushMany
      generalize registry.servePush (first + number) (numberedSignature stem number) = served
        at agree ⊢
      generalize ledger.servePush (first + number) (numberedSignature stem number) = entered
        at agree ⊢
      obtain ⟨answer, after⟩ := served
      obtain ⟨entry, grown⟩ := entered
      obtain ⟨sameAnswer, keepsAfter⟩ := agree
      cases sameAnswer
      cases answer with
      | done => exact ih keepsAfter (number + 1)
      | _ => exact ⟨rfl, keepsAfter⟩

/-- Sweeping a registry and draining the dead does what the ledger says. -/
theorem serveDrain (keeps : registry.Keeps ledger) (verdict : Tag → Verdict)
    (limit : Option Nat) (forget : Bool) :
    Agree (registry.serveDrain verdict limit forget) (ledger.serveDrain verdict limit forget) := by
  have swept := keeps.sweep (consult verdict) []
  rw [inquire_consult] at swept
  unfold Registry.serveDrain Ledger.serveDrain
  cases behind : ledger.unexamined verdict with
  | cons failing others =>
      simp only [behind, List.head?_cons, Option.map_some] at swept
      obtain ⟨after, failed, keepsAfter⟩ := swept
      rw [failed]
      refine ⟨rfl, ?_⟩
      simpa only [Ledger.kept, Inquest.kept, behind] using keepsAfter
  | nil =>
      simp only [behind, List.head?_nil, Option.map_none] at swept
      obtain ⟨drain, drained, keepsDrain⟩ := swept
      rw [drained]
      have kept : ledger.kept verdict =
          (ledger.examined verdict).filter fun record => !Ledger.isDead verdict record := by
        rw [Ledger.kept, behind, List.append_nil]
      rw [kept]
      -- Without a limit both sides take everything, the one by counting slots.
      have counts : (ledger.dead verdict).take (limit.getD drain.registry.capacity) =
            (ledger.dead verdict).take (limit.getD (ledger.dead verdict).length) ∧
          (ledger.dead verdict).drop (limit.getD drain.registry.capacity) =
            (ledger.dead verdict).drop (limit.getD (ledger.dead verdict).length) := by
        have enough := keepsDrain.length_le_capacity
        cases limit with
        | some count => exact ⟨rfl, rfl⟩
        | none =>
            simp only [Option.getD_none, List.take_length, List.drop_length]
            exact ⟨List.take_of_length_le enough, List.drop_of_length_le enough⟩
      obtain ⟨rest, taken, keepsRest⟩ := keepsDrain.take (limit.getD drain.registry.capacity)
      rw [← Ledger.dead, counts.1] at taken
      rw [← Ledger.dead, counts.2] at keepsRest
      simp only [taken]
      cases forget with
      | true =>
          simp only [if_true]
          refine ⟨?_, keepsRest.forget⟩
          simp
      | false =>
          obtain ⟨after, finished, keepsAfter⟩ := keepsRest.finish
          simp only [finished]
          refine ⟨?_, keepsAfter⟩
          simp

/-- **A registry that keeps a ledger answers a request as the ledger does**, and it
keeps the ledger after it. -/
theorem serve (keeps : registry.Keeps ledger) (request : Request) :
    Agree (registry.serve request) (ledger.serve request) := by
  cases request with
  | push number signature => exact keeps.servePush number signature
  | pushMany first count stem => exact keeps.servePushMany first stem count 0
  | get number =>
      refine ⟨?_, keeps⟩
      simp only [Registry.serve, Ledger.serve, funext keeps.get?_eq]
  | contains number =>
      simp only [Registry.serve, Ledger.serve]
      cases Tag.ofNat? number with
      | none => exact ⟨rfl, keeps⟩
      | some tag =>
          refine ⟨?_, keeps⟩
          simp only [keeps.contains_eq]
  | list =>
      refine ⟨?_, keeps⟩
      simp only [Registry.serve, Ledger.serve, keeps.records_eq]
  | clear => exact ⟨rfl, .empty⟩
  | drain verdict limit forget => exact keeps.serveDrain verdict limit forget

end Keeps

/-! ## Every list of requests -/

/-- A registry and a ledger that start in agreement agree after every request. -/
theorem Keeps.serveAll {registry : Registry} {ledger : Ledger} (keeps : registry.Keeps ledger)
    (requests : List Request) :
    List.Forall₂ Agree (registry.serveAll requests) (ledger.serveAll requests) := by
  induction requests generalizing registry ledger with
  | nil => exact .nil
  | cons request rest ih =>
      have agree := keeps.serve request
      exact .cons agree (ih agree.2)

/-- **Requests to an empty registry are answered as requests to an empty ledger, and
after each of them the two have the same holdings.**  The verdicts of the requests
are no restriction: at every time, whatever sequence of answers is meant for the
records on the chain, there is a verdict on tags that gives it. -/
theorem serveAll_eq_ledger (requests : List Request) :
    (empty.serveAll requests).map (fun served => (served.1, served.2.holdings)) =
        (Ledger.empty.serveAll requests).map (fun entered => (entered.1, entered.2.holdings)) ∧
      ∀ registry ∈ empty :: (empty.serveAll requests).map Prod.snd,
        ∀ answers : List Verdict, answers.length = registry.records.length →
          ∃ verdict : Tag → Verdict,
            registry.records.map (fun record => verdict record.tag) = answers := by
  have agree := Keeps.empty.serveAll requests
  constructor
  · rw [← List.forall₂_eq_eq_eq, List.forall₂_map_left_iff, List.forall₂_map_right_iff]
    apply agree.imp
    rintro served entered ⟨sameAnswer, keeps⟩
    rw [sameAnswer, keeps.holdings_eq]
  · have kept : ∀ registry ∈ empty :: (empty.serveAll requests).map Prod.snd,
        ∃ ledger, registry.Keeps ledger := by
      intro registry member
      rcases List.mem_cons.mp member with rfl | member
      · exact ⟨.empty, .empty⟩
      · obtain ⟨served, isServed, rfl⟩ := List.mem_map.mp member
        obtain ⟨place, inside, rfl⟩ := List.mem_iff_getElem.mp isServed
        exact ⟨_, (agree.get inside (agree.length_eq ▸ inside)).2⟩
    intro registry member answers lengths
    obtain ⟨ledger, keeps⟩ := kept registry member
    rw [keeps.records_eq] at lengths ⊢
    have distinct := keeps.tags_nodup
    rw [Ledger.all, List.map_append] at distinct
    exact exists_verdict distinct.of_append_left answers lengths

end Registry

end ClassLiveness

import ClassLiveness.Diagnosis.Fatal
import ClassLiveness.Tracker.Command
import Mathlib.Data.List.Basic
import Std.Data.String.ToNat

/-!
# The text of an error identifies it

A reporter of fatal errors is handed a text, and often the text is all that is left.
The text of an error is put together from names, numbers and whatever the host chose to
say, without quotes or escapes.  It can be read back all the same
(`TrackingError.message_injective`), because every part can be told from what follows it.

Names are told apart by being prefix-free: none of them begins another one
(`PrefixFree`).  So a text that starts with one starts with no other, and the rest of the
text is known as well (`PrefixFree.split`).  The openings of the messages have this
property (`Complaint.prefixFree_opening`), the kinds of failure have it, and so do numbers
that are followed by something other than a digit (`prefixFree_number`).  What the host
says stands last in a message, and there it may hold anything.
-/

set_option autoImplicit false

namespace ClassLiveness

/-! ## Words that can be split off -/

/-- No word of a family begins another one. -/
def PrefixFree {α : Type} (word : α → String) : Prop :=
  ∀ ⦃first second : α⦄, (word first).toList <+: (word second).toList → first = second

/-- A text that starts with a word of a prefix-free family starts with no other, and what is
left of it is known. -/
theorem PrefixFree.split {α : Type} {word : α → String} (free : PrefixFree word)
    {first second : α} {rest remains : String}
    (same : word first ++ rest = word second ++ remains) : first = second ∧ rest = remains := by
  have lists := congrArg String.toList same
  rw [String.toList_append, String.toList_append] at lists
  have begins : (word first).toList <+: (word second).toList ++ remains.toList :=
    ⟨rest.toList, lists⟩
  have alike : first = second := by
    rcases List.prefix_or_prefix_of_prefix begins (List.prefix_append _ _) with shorter | longer
    · exact free shorter
    · exact (free longer).symm
  subst alike
  exact ⟨rfl, (String.append_right_inj _).mp same⟩

/-! ## Numbers -/

/-- The digits of a number end where something other than a digit follows. -/
theorem takeWhile_isDigit_toDigits (number : Nat) {mark : Char} (notDigit : mark.isDigit = false)
    (marks : List Char) :
    (Nat.toDigits 10 number ++ mark :: marks).takeWhile Char.isDigit = Nat.toDigits 10 number := by
  have digits : ∀ digit ∈ Nat.toDigits 10 number, digit.isDigit = true := fun _ member =>
    Nat.isDigit_of_mem_toDigits (by decide) (by decide) member
  rw [List.takeWhile_append_of_pos digits, List.takeWhile_cons_of_neg (by simp [notDigit]),
    List.append_nil]

/-- Numbers that are followed by something other than a digit are prefix-free. -/
theorem prefixFree_number {separator : String} {mark : Char} {marks : List Char}
    (starts : separator.toList = mark :: marks) (notDigit : mark.isDigit = false) :
    PrefixFree fun number : Nat => toString number ++ separator := by
  rintro first second ⟨behind, same⟩
  simp only [String.toList_append, Nat.toString_eq_repr, Nat.toList_repr, starts,
    List.append_assoc, List.cons_append] at same
  have digits := congrArg (List.takeWhile Char.isDigit) same
  rw [takeWhile_isDigit_toDigits first notDigit, takeWhile_isDigit_toDigits second notDigit]
    at digits
  rw [← Nat.ofDigitChars_ten_toDigits (n := first), digits, Nat.ofDigitChars_ten_toDigits]

theorem Tag.text_injective : Function.Injective Tag.text := by
  intro first second same
  exact Tag.ext (Nat.repr_injective ((String.append_right_inj "#").mp same))

/-- Tags that are followed by something other than a digit are prefix-free. -/
theorem Tag.prefixFree_text {separator : String} {mark : Char} {marks : List Char}
    (starts : separator.toList = mark :: marks) (notDigit : mark.isDigit = false) :
    PrefixFree fun tag : Tag => tag.text ++ separator := by
  intro first second begins
  simp only [Tag.text, String.append_assoc] at begins
  rw [String.toList_append (s := "#"), String.toList_append (s := "#"),
    List.prefix_append_right_inj] at begins
  exact Tag.ext (prefixFree_number starts notDigit begins)

/-! ## Names -/

theorem HostErrorKind.prefixFree_name : PrefixFree HostErrorKind.name := by
  intro first second
  cases first <;> cases second <;> decide

theorem ErrorKind.prefixFree_name : PrefixFree ErrorKind.name := by
  intro first second
  cases first <;> cases second <;> decide

/-- The text of a host's failure identifies it, whatever the host says. -/
theorem HostError.text_injective : Function.Injective HostError.text := by
  rintro ⟨kind, said⟩ ⟨other, heard⟩ same
  simp only [HostError.text, String.append_assoc] at same
  obtain ⟨rfl, sameRest⟩ := HostErrorKind.prefixFree_name.split same
  rw [(String.append_right_inj ": ").mp sameRest]

/-! ## Messages -/

/-- What an error complains of, without the details. -/
inductive Complaint where
  /-- A call of this sort failed. -/
  | hostCall (op : HostOp)
  | duplicateClass
  | inconsistentTags
  | notInitialized
  | alreadyInitialized
  | poisoned
deriving DecidableEq

/-- The words that a message starts with. -/
def Complaint.opening : Complaint → String
  | .hostCall op => op.text ++ " failed: "
  | .duplicateClass => "attempting to insert duplicate class (already tagged "
  | .inconsistentTags => "unexpected extra tags in tracking session: "
  | .notInitialized => "class tracker is not initialized"
  | .alreadyInitialized => "class tracker is already initialized"
  | .poisoned => "class tracker is poisoned by an earlier unrecoverable error"

/-- No message opens like the beginning of another complaint. -/
theorem Complaint.prefixFree_opening : PrefixFree Complaint.opening := by
  intro first second
  rcases first with ⟨⟨⟩⟩ | _ | _ | _ | _ | _ <;> rcases second with ⟨⟨⟩⟩ | _ | _ | _ | _ | _ <;>
    decide

namespace TrackingError

/-- What the error complains of. -/
def complaint : TrackingError → Complaint
  | .host op _ => .hostCall op
  | .duplicateClass _ => .duplicateClass
  | .inconsistentTags .. => .inconsistentTags
  | .notInitialized => .notInitialized
  | .alreadyInitialized => .alreadyInitialized
  | .poisoned => .poisoned

/-- What follows the opening of a message. -/
def details : TrackingError → String
  | .host _ failure => failure.text
  | .duplicateClass tag => tag.text ++ ")"
  | .inconsistentTags tag count =>
      (tag.text ++ " held by ") ++ (toString count ++ " live objects")
  | .notInitialized | .alreadyInitialized | .poisoned => ""

theorem message_eq (error : TrackingError) :
    error.message = error.complaint.opening ++ error.details := by
  cases error with
  | host => rfl
  | duplicateClass => exact String.append_assoc
  | inconsistentTags =>
      unfold message details
      simp only [String.append_assoc]
      rfl
  | notInitialized | alreadyInitialized | poisoned => exact String.append_empty.symm

/-- Errors that complain of the same with the same details are the same. -/
theorem eq_of_details {first second : TrackingError}
    (sameComplaint : first.complaint = second.complaint)
    (sameDetails : first.details = second.details) : first = second := by
  cases first with
  | host op failure =>
      cases second with
      | host other heard =>
          cases sameComplaint
          rw [HostError.text_injective sameDetails]
      | _ => cases sameComplaint
  | duplicateClass tag =>
      cases second with
      | duplicateClass other =>
          rw [Tag.text_injective ((String.append_left_inj ")").mp sameDetails)]
      | _ => cases sameComplaint
  | inconsistentTags tag count =>
      cases second with
      | inconsistentTags other counted =>
          -- The tag ends at the space behind it, and then only the count is unknown.
          obtain ⟨sameTag, sameEnd⟩ := (Tag.prefixFree_text rfl rfl).split sameDetails
          have sameCount := Nat.repr_injective ((String.append_left_inj " live objects").mp sameEnd)
          rw [sameTag, sameCount]
      | _ => cases sameComplaint
  | notInitialized =>
      cases second with
      | notInitialized => rfl
      | _ => cases sameComplaint
  | alreadyInitialized =>
      cases second with
      | alreadyInitialized => rfl
      | _ => cases sameComplaint
  | poisoned =>
      cases second with
      | poisoned => rfl
      | _ => cases sameComplaint

theorem message_injective : Function.Injective message := by
  intro first second same
  rw [message_eq, message_eq] at same
  obtain ⟨sameComplaint, sameDetails⟩ := Complaint.prefixFree_opening.split same
  exact eq_of_details sameComplaint sameDetails

/-- The line that is printed before the process is ended identifies the error as well. -/
theorem diagnostic_injective :
    Function.Injective fun error : TrackingError => error.report.diagnostic := by
  intro first second same
  unfold FatalReport.diagnostic at same
  simp only [String.append_assoc, String.append_right_inj] at same
  obtain ⟨-, lines⟩ := ErrorKind.prefixFree_name.split same
  simp only [String.append_right_inj, String.append_left_inj] at lines
  exact message_injective lines

end TrackingError

/-! ## What is told of an error -/

/-- A reporter that is told something was handed an error. -/
theorem Ending.ofResult_eq_fatal {α : Type} {result : Except Stop α} {told : FatalReport}
    (fatal : (Ending.ofResult true result).1 = .fatal told) :
    ∃ error, result = .error (.error error) ∧ told = error.report := by
  rcases result with (error | abort) | value
  · cases fatal
    exact ⟨error, rfl, rfl⟩
  · cases fatal
  · cases fatal

/-- **The text of an error identifies it.**  Different errors have different messages, whatever
the host says and whatever the tags and counts are.  So a reporter is told all there is to know
of the error it is handed: if the messages of two fatal reports are the same, the results that
were reported are the same.  And if a result that may end the process leaves the same behind as
another one, the two are the same. -/
theorem TrackingError.identified_by_message :
    Function.Injective TrackingError.message ∧
    (∀ {α : Type} {first second : Except Stop α} {told heard : FatalReport},
      (Ending.ofResult true first).1 = .fatal told →
      (Ending.ofResult true second).1 = .fatal heard →
      told.message = heard.message → told = heard ∧ first = second) ∧
    ∀ {α : Type}, Function.Injective (orExit : Except TrackingError α → Except String α) := by
  refine ⟨message_injective, ?_, ?_⟩
  · intro α first second told heard toldFirst toldSecond same
    obtain ⟨error, rfl, rfl⟩ := Ending.ofResult_eq_fatal toldFirst
    obtain ⟨other, rfl, rfl⟩ := Ending.ofResult_eq_fatal toldSecond
    obtain rfl : error = other := message_injective same
    exact ⟨rfl, rfl⟩
  · rintro α (error | value) (other | result) same
    · exact congrArg Except.error (diagnostic_injective (Except.error.inj same))
    · cases same
    · cases same
    · exact congrArg Except.ok (Except.ok.inj same)

end ClassLiveness

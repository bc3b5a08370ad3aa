import FlowEnrichment.Json.Reader
import FlowEnrichment.Proofs.Text.Numerals

/-!
# Reading written integers

An integer of at most sixty-four bits is written in decimal digits and read back as the same
integer. The reader takes digits as long as they come, so the text after the number must not go
on with anything that belongs to a number; `Ended` says so.
-/
namespace FlowEnrichment.Json

open Utf8 (Symbol)

/-- A text that does not go on with a number. -/
def Ended (rest : List Symbol) : Prop :=
  ∀ c more, rest = some c :: more → Decimal.isDigit c = false ∧ c ≠ '.' ∧ c ≠ 'e' ∧ c ≠ 'E'

/-- Nothing does not go on with a number. -/
theorem ended_nil : Ended [] := by
  intro c more same
  cases same

/-- A text that starts with a comma does not go on with a number. -/
theorem ended_comma (rest : List Symbol) : Ended (some ',' :: rest) := by
  intro c more same
  cases same
  decide

/-- A text that starts with the end of an array does not go on with a number. -/
theorem ended_bracket (rest : List Symbol) : Ended (some ']' :: rest) := by
  intro c more same
  cases same
  decide

/-- A text that starts with the end of an object does not go on with a number. -/
theorem ended_brace (rest : List Symbol) : Ended (some '\x7d' :: rest) := by
  intro c more same
  cases same
  decide

/-- The numbers that are read back as written: the integers of at most sixty-four bits. -/
def Number.Exact : Number → Prop
  | .integer n => -(UInt64.size / 2 : Nat) ≤ n ∧ n ≤ maxWord
  | .float _ => False

/-- A natural number of at most sixty-four bits is read back as written. -/
theorem exact_natCast {n : Nat} (small : n ≤ maxWord) : (Number.integer n).Exact := by
  constructor
  · omega
  · omega

/-! ## Digits -/

/-- All digits in front of something else are taken. -/
theorem spanDigits_map_some (run : List Char) (known : ∀ c ∈ run, Decimal.isDigit c = true)
    {rest : List Symbol} (ended : Ended rest) :
    spanDigits (run.map some ++ rest) = (run, rest) := by
  induction run with
  | nil =>
    cases rest with
    | nil => rfl
    | cons symbol rest =>
      cases symbol with
      | none => rfl
      | some c =>
        have other := (ended c rest rfl).1
        simp only [List.map_nil, List.nil_append, spanDigits, other, Bool.false_eq_true, if_false]
  | cons c run ih =>
    have digit := known c List.mem_cons_self
    have tail := ih fun d member => known d (List.mem_cons_of_mem c member)
    simp only [List.map_cons, List.cons_append, spanDigits, digit, if_true, tail]

/-- Taking in more digits makes a number no smaller. -/
theorem le_value (total : Nat) (run : List Char) : total ≤ Decimal.value total run := by
  induction run generalizing total with
  | nil => exact Nat.le_refl total
  | cons c run ih =>
    have later : total * 10 + (c.toNat - '0'.toNat) ≤ Decimal.value total (c :: run) := ih _
    omega

/-- Digits that write a number of at most sixty-four bits are all taken in. -/
theorem takeDigits_of_le (total : Nat) (run : List Char)
    (small : Decimal.value total run ≤ maxWord) :
    takeDigits total run = (Decimal.value total run, []) := by
  induction run generalizing total with
  | nil => rfl
  | cons c run ih =>
    have next : total * 10 + (c.toNat - '0'.toNat) ≤ maxWord :=
      Nat.le_trans (le_value _ run) small
    simp only [takeDigits, if_neg (Nat.not_lt.2 next)]
    exact ih _ small

/-- The digits of a number of at most sixty-four bits are all taken in. -/
theorem takeDigits_digits {n : Nat} (small : n ≤ maxWord) :
    takeDigits 0 (Decimal.digits n) = (n, []) := by
  have bound : Decimal.value 0 (Decimal.digits n) ≤ maxWord := by
    rw [Decimal.value_digits]
    exact small
  have all := takeDigits_of_le 0 (Decimal.digits n) bound
  rw [all, Decimal.value_digits]

/-! ## Integers -/

/-- Digits without a fraction or an exponent end the number. -/
theorem readMantissaEnd_of_ended {negative : Bool} {whole : List Char} {rest : List Symbol}
    (ended : Ended rest) : readMantissaEnd negative whole none rest =
      (.number (numberOf negative whole none none), some rest) := by
  unfold readMantissaEnd
  split
  case h_1 more => exact absurd rfl (ended 'e' more rfl).2.2.1
  case h_2 more => exact absurd rfl (ended 'E' more rfl).2.2.2
  case h_3 => rfl

/-- The digits of a number are read up to the end of the number. -/
theorem readNumber_digits (negative : Bool) (n : Nat) {rest : List Symbol} (ended : Ended rest) :
    readNumber negative ((Decimal.digits n).map some ++ rest) =
      (.number (numberOf negative (Decimal.digits n) none none), some rest) := by
  have taken := spanDigits_map_some (Decimal.digits n)
    (fun _ member => Decimal.isDigit_of_mem_digits member) ended
  have written : Decimal.digits n ≠ [] := Nat.toDigits_ne_nil
  unfold readNumber
  rw [taken]
  split
  case h_1 same =>
    exact absurd (Prod.ext_iff.1 same).1 written
  case h_2 same =>
    have leading := Decimal.digits_eq_zero_cons (Prod.ext_iff.1 same).1
    cases leading
  case h_3 more _ _ same =>
    exact absurd rfl (ended '.' more (Prod.ext_iff.1 same).2).2.1
  case h_4 same =>
    cases same
    exact readMantissaEnd_of_ended ended

/-- Digits write the natural number that they are the digits of. -/
theorem numberOf_digits {n : Nat} (small : n ≤ maxWord) :
    numberOf false (Decimal.digits n) none none = some (.integer n) := by
  simp only [numberOf, takeDigits_digits small, Bool.false_eq_true, if_false]

/-- Digits after a sign write the negative number. -/
theorem numberOf_neg_digits {n : Nat} (positive : 0 < n) (small : n ≤ UInt64.size / 2) :
    numberOf true (Decimal.digits n) none none = some (.integer (-n)) := by
  have word : n ≤ maxWord := Nat.le_trans small (by decide)
  have whole : ¬ (n = 0 ∨ UInt64.size / 2 < n) := by omega
  simp only [numberOf, takeDigits_digits word, if_true, if_neg whole]

end FlowEnrichment.Json

import FlowEnrichment.Text.Decimal
import FlowEnrichment.Text.Hexadecimal

/-!
# Reading numerals back

A number is written by the digits of a base, and reading those digits gives the number: in any
base `toDigits_eq_map` names the values of the digits, and `Decimal.digit?_digitChar` and
`Hexadecimal.digit?_digitChar` say that the readers know each of them.
-/
namespace FlowEnrichment

/-- A number is written by characters of digits below the base which make up the number, and only
zero has a zero in front. -/
theorem toDigits_eq_map {base : Nat} (large : 1 < base) (n : Nat) :
    ∃ values : List Nat, Nat.toDigits base n = values.map Nat.digitChar ∧ values ≠ [] ∧
      (∀ value ∈ values, value < base) ∧
      values.foldl (fun total digit => total * base + digit) 0 = n ∧
      (values.head? = some 0 → values = [0]) := by
  induction n using Nat.strongRecOn with
  | ind n ih =>
    rw [Nat.toDigits_eq_if large]
    by_cases small : n < base
    · refine ⟨[n], by simp [small], by simp, by simpa using small, by simp, ?_⟩
      intro zero
      simpa using zero
    · have positive : 0 < n := by omega
      obtain ⟨values, written, some_digit, bounded, sum, leading⟩ :=
        ih (n / base) (Nat.div_lt_self positive large)
      refine ⟨values ++ [n % base], by simp [small, written], by simp, ?_, ?_, ?_⟩
      · intro value member
        rcases List.mem_append.1 member with earlier | last
        · exact bounded value earlier
        · rw [List.mem_singleton.1 last]
          exact Nat.mod_lt _ (by omega)
      · rw [List.foldl_append, sum]
        simp only [List.foldl_cons, List.foldl_nil]
        exact Nat.div_add_mod' n base
      · intro zero
        have front : values.head? = some 0 := by
          obtain ⟨first, others, rfl⟩ := List.exists_cons_of_ne_nil some_digit
          simpa using zero
        rw [leading front] at sum
        have quotient : n / base = 0 := by simpa using sum.symm
        have below : n < base := (Nat.div_eq_zero_iff.1 quotient).resolve_left (by omega)
        exact absurd below small

namespace Decimal

/-- The character of a decimal digit has its value. -/
theorem digit?_digitChar {value : Nat} (small : value < 10) :
    digit? value.digitChar = some value := by
  have cases : ∀ digit : Fin 10, digit? (Nat.digitChar digit) = some digit.val := by decide
  exact cases ⟨value, small⟩

/-- Digits are recognized by their characters. -/
theorem isDigit_digitChar {value : Nat} (small : value < 10) : isDigit value.digitChar = true := by
  rw [isDigit, digit?_digitChar small, Option.isSome_some]

/-- Every character of a decimal numeral is a digit. -/
theorem isDigit_of_mem_digits {n : Nat} {c : Char} (member : c ∈ digits n) : isDigit c = true := by
  obtain ⟨values, written, -, bounded, -⟩ := toDigits_eq_map (by decide : 1 < 10) n
  rw [digits, written] at member
  obtain ⟨value, inside, rfl⟩ := List.mem_map.1 member
  exact isDigit_digitChar (bounded value inside)

/-- The digits of a number write that number. -/
theorem value_digits (n : Nat) : value 0 (digits n) = n := by
  have read := Nat.ofDigitChars_ten_toDigits (n := n)
  rw [Nat.ofDigitChars] at read
  simpa only [value, digits, Nat.mul_comm] using read

/-- Only zero is written with a zero in front. -/
theorem digits_eq_zero_cons {n : Nat} {rest : List Char} (zero : digits n = '0' :: rest) :
    rest = [] := by
  obtain ⟨values, written, -, -, -, leading⟩ := toDigits_eq_map (by decide : 1 < 10) n
  rw [digits, written] at zero
  cases values with
  | nil => simp at zero
  | cons first others =>
    rw [List.map_cons, List.cons.injEq, Nat.digitChar_eq_zero] at zero
    obtain ⟨rfl, rfl⟩ := zero
    have alone := leading rfl
    simp only [List.cons.injEq, true_and] at alone
    rw [alone, List.map_nil]

end Decimal

namespace Hexadecimal

/-- The character of a hexadecimal digit has its value. -/
theorem digit?_digitChar {value : Nat} (small : value < 16) :
    digit? value.digitChar = some value := by
  have cases : ∀ digit : Fin 16, digit? (Nat.digitChar digit) = some digit.val := by decide
  exact cases ⟨value, small⟩

end Hexadecimal

end FlowEnrichment

import Mathlib.Data.List.Induction
import Mathlib.Data.List.TakeWhile
import Mathlib.Data.Nat.Digits.Defs
import ProverInput.Text.Numeral

/-!
Writing a number and reading it back. A written number has a leading zero only when it is zero.
-/

namespace ProverInput.Numeral

variable {base number : Nat}

theorem digitValue_digitChar {digit : Nat} (small : digit < 16) :
    digitValue (Nat.digitChar digit) = some digit := by
  have all : ∀ digit : Fin 16, digitValue (Nat.digitChar digit) = some digit.val := by decide
  exact all ⟨digit, small⟩

theorem isDigit_digitChar {digit : Nat} (small : digit < base) (bounded : base ≤ 16) :
    isDigit base (Nat.digitChar digit) = true := by
  rw [isDigit, digitValue_digitChar (by omega)]
  simpa using small

theorem decimal_range {c : Char} (digit : isDigit 10 c = true) :
    '0'.toNat ≤ c.toNat ∧ c.toNat ≤ '9'.toNat := by
  rw [isDigit, digitValue] at digit
  split at digit
  · rename_i range
    exact ⟨UInt32.le_iff_toNat_le.mp range.1, UInt32.le_iff_toNat_le.mp range.2⟩
  · split at digit
    · simp only [Option.any_some, decide_eq_true_eq] at digit
      omega
    · split at digit
      · simp only [Option.any_some, decide_eq_true_eq] at digit
        omega
      · contradiction

theorem isDigit_of_decimal {c : Char} (digit : isDigit 10 c = true) : c.isDigit = true := by
  obtain ⟨lower, upper⟩ := decimal_range digit
  simp only [Char.isDigit, ge_iff_le, Bool.and_eq_true, decide_eq_true_eq]
  exact ⟨lower, upper⟩

theorem value_concat (base : Nat) (digits : List Char) (digit : Char) :
    value base (digits ++ [digit]) = value base digits * base + (digitValue digit).getD 0 := by
  simp [value]

theorem write_of_lt (small : number < base) : write base number = [Nat.digitChar number] :=
  Nat.toDigits_of_lt_base small

theorem write_of_le (large : base ≤ number) (proper : 1 < base) :
    write base number = write base (number / base) ++ [Nat.digitChar (number % base)] :=
  Nat.toDigits_of_base_le proper large

theorem write_ne_nil : write base number ≠ [] :=
  Nat.toDigits_ne_nil

theorem mem_write (proper : 1 < base) {number : Nat} {c : Char} (member : c ∈ write base number) :
    ∃ digit < base, c = Nat.digitChar digit := by
  induction number using Nat.strongRecOn with
  | ind number ih =>
      by_cases small : number < base
      · rw [write_of_lt small, List.mem_singleton] at member
        exact ⟨number, small, member⟩
      · have shorter : number / base < number := Nat.div_lt_self (by omega) proper
        rw [write_of_le (by omega) proper, List.mem_append, List.mem_singleton] at member
        rcases member with early | last
        · exact ih (number / base) shorter early
        · exact ⟨number % base, Nat.mod_lt number (by omega), last⟩

theorem value_write (proper : 1 < base) (bounded : base ≤ 16) (number : Nat) :
    value base (write base number) = number ∧
      ∀ c ∈ write base number, isDigit base c = true := by
  constructor
  · induction number using Nat.strongRecOn with
    | ind number ih =>
        by_cases small : number < base
        · rw [write_of_lt small]
          simp [value, digitValue_digitChar (Nat.lt_of_lt_of_le small bounded)]
        · have below : number % base < base := Nat.mod_lt number (by omega)
          have shorter : number / base < number := Nat.div_lt_self (by omega) proper
          rw [write_of_le (by omega) proper, value_concat, ih (number / base) shorter,
            digitValue_digitChar (by omega)]
          exact Nat.div_add_mod' number base
  · intro c member
    obtain ⟨digit, small, rfl⟩ := mem_write proper member
    exact isDigit_digitChar small bounded

theorem write_head_ne_zero (proper : 1 < base) (bounded : base ≤ 16) {number : Nat}
    (positive : 0 < number) : (write base number).head? ≠ some '0' := by
  induction number using Nat.strongRecOn with
  | ind number ih =>
      by_cases small : number < base
      · have all : ∀ digit : Fin 16, 0 < digit.val → Nat.digitChar digit ≠ '0' := by decide
        rw [write_of_lt small]
        simpa using all ⟨number, by omega⟩ positive
      · have shorter : number / base < number := Nat.div_lt_self (by omega) proper
        have rest := ih (number / base) shorter (Nat.div_pos (by omega) (by omega))
        rw [write_of_le (by omega) proper]
        cases written : write base (number / base) with
        | nil => exact absurd written write_ne_nil
        | cons first later =>
            rw [written] at rest
            simpa using rest

theorem write_of_head_eq_zero (proper : 1 < base) (bounded : base ≤ 16) {number : Nat}
    (zero : (write base number).head? = some '0') : write base number = ['0'] := by
  rcases Nat.eq_zero_or_pos number with rfl | positive
  · exact Nat.toDigits_zero base
  · exact absurd zero (write_head_ne_zero proper bounded positive)

theorem readWord_write (proper : 1 < base) (bounded : base ≤ 16) (fits : number < UInt64.size) :
    readWord base (write base number) = .ok (UInt64.ofNat number) := by
  obtain ⟨denoted, digits⟩ := value_write proper bounded number
  have whole : (write base number).takeWhile (isDigit base) = write base number :=
    List.takeWhile_eq_self_iff.mpr digits
  have inRange : ¬UInt64.size ≤ number := by omega
  simp only [readWord, whole, denoted, write_ne_nil, inRange, if_false, ne_eq, not_true_eq_false]

theorem readWord_ok {base : Nat} {text : List Char} {word : UInt64}
    (read : readWord base text = .ok word) :
    (∀ c ∈ text, isDigit base c = true) ∧ word.toNat = value base text := by
  simp only [readWord] at read
  split at read
  · contradiction
  · split at read
    · contradiction
    · rename_i fits
      split at read
      · contradiction
      · rename_i whole
        simp only [ne_eq, Decidable.not_not] at whole
        obtain rfl := Except.ok.inj read
        rw [whole] at fits ⊢
        refine ⟨List.takeWhile_eq_self_iff.mp whole, ?_⟩
        rw [UInt64.toNat_ofNat', Nat.mod_eq_of_lt (Nat.lt_of_not_le fits)]

def place (c : Char) : Nat :=
  (digitValue c).getD 0

theorem ofDigits_place (base : Nat) (digits : List Char) :
    Nat.ofDigits base (digits.map place).reverse = value base digits := by
  induction digits using List.reverseRecOn with
  | nil => rfl
  | append_singleton digits last ih =>
      rw [value_concat, ← ih, List.map_append, List.reverse_append, List.map_singleton,
        List.reverse_singleton, List.singleton_append, Nat.ofDigits_cons, place, Nat.mul_comm base,
        Nat.add_comm]

theorem value_eq_ofDigits {digits : List Char} (decimal : ∀ c ∈ digits, isDigit 10 c = true) :
    value 10 digits = Nat.ofDigits 10 (digits.reverse.map fun c => c.toNat - '0'.toNat) := by
  have places : digits.map place = digits.map fun c => c.toNat - '0'.toNat := by
    apply List.map_congr_left
    intro c member
    obtain ⟨lower, upper⟩ := decimal_range (decimal c member)
    rw [place, digitValue, if_pos]
    · rfl
    · exact ⟨lower, upper⟩
  rw [← ofDigits_place, places, List.map_reverse]

end ProverInput.Numeral

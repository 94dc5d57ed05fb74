import Mathlib.Data.List.Forall2
import ProverInput.Proofs.Text.Numeral

/-!
What a numeral denotes, said without reading it: every character stands for a digit, and the digits
make up the number. Words are read exactly off the numerals of the numbers that fit.
-/

namespace ProverInput.Numeral

def lowerDigits : List Char := "0123456789abcdef".toList

def upperDigits : List Char := "0123456789ABCDEF".toList

def StandsFor (base : Nat) (c : Char) (digit : Nat) : Prop :=
  digit < base ∧ (lowerDigits[digit]? = some c ∨ upperDigits[digit]? = some c)

def Denotes (base : Nat) (run : List Char) (number : Nat) : Prop :=
  run ≠ [] ∧ ∃ digits, List.Forall₂ (StandsFor base) run digits ∧
    Nat.ofDigits base digits.reverse = number

/-- The longest run of digits at the beginning of a text denotes a number, whatever follows. -/
def Begins (base : Nat) (text : List Char) (number : Nat) : Prop :=
  ∃ run rest, text = run ++ rest ∧ Denotes base run number ∧
    ∀ c ∈ rest.head?, ∀ digit, ¬ StandsFor base c digit

variable {base number : Nat} {text run : List Char} {word : UInt64}

theorem getElem?_of_range {glyphs : List Char} {first c : Char} {bound : Nat} (least : Nat)
    (above : first ≤ c) (small : c.toNat - first.toNat + least < bound)
    (consecutive : ∀ digit < bound, least ≤ digit →
      glyphs[digit]?.map Char.toNat = some (digit - least + first.toNat)) :
    glyphs[c.toNat - first.toNat + least]? = some c := by
  have lower : first.toNat ≤ c.toNat := UInt32.le_iff_toNat_le.mp above
  have placed := consecutive _ small (Nat.le_add_left ..)
  rw [Nat.add_sub_cancel, Nat.sub_add_cancel lower] at placed
  obtain ⟨other, found, same⟩ := Option.map_eq_some_iff.mp placed
  rw [found, Char.toNat_inj.mp same]

theorem standsFor_iff (bounded : base ≤ 16) {c : Char} {digit : Nat} :
    StandsFor base c digit ↔ digitValue c = some digit ∧ digit < base := by
  constructor
  · rintro ⟨small, glyph⟩
    have lower : ∀ digit : Fin 16, lowerDigits[digit.val]?.bind digitValue = some digit.val := by
      decide
    have upper : ∀ digit : Fin 16, upperDigits[digit.val]?.bind digitValue = some digit.val := by
      decide
    refine ⟨?_, small⟩
    rcases glyph with found | found
    · simpa [found] using lower ⟨digit, by omega⟩
    · simpa [found] using upper ⟨digit, by omega⟩
  · rintro ⟨denoted, small⟩
    refine ⟨small, ?_⟩
    -- Letters up to `z` have a value as well. Those of a digit are bounded by the base.
    rw [digitValue] at denoted
    split at denoted
    · rename_i range
      obtain rfl := Option.some.inj denoted
      have most : c.toNat ≤ '0'.toNat + 9 := UInt32.le_iff_toNat_le.mp range.2
      have decimal : c.toNat - '0'.toNat + 0 < 10 := by omega
      exact Or.inl (getElem?_of_range 0 range.1 decimal (by decide))
    · split at denoted
      · rename_i range
        obtain rfl := Option.some.inj denoted
        exact Or.inl (getElem?_of_range 10 range.1 (small.trans_le bounded) (by decide))
      · split at denoted
        · rename_i range
          obtain rfl := Option.some.inj denoted
          exact Or.inr (getElem?_of_range 10 range.1 (small.trans_le bounded) (by decide))
        · contradiction

theorem isDigit_iff (bounded : base ≤ 16) {c : Char} :
    isDigit base c = true ↔ ∃ digit, StandsFor base c digit := by
  simp only [isDigit, Option.any_eq_true, decide_eq_true_eq, standsFor_iff bounded]

theorem forall₂_standsFor_iff (bounded : base ≤ 16) {digits : List Nat} :
    List.Forall₂ (StandsFor base) run digits ↔
      (∀ c ∈ run, isDigit base c = true) ∧ digits = run.map place := by
  induction run generalizing digits with
  | nil => simp
  | cons c rest ih =>
      rw [List.forall₂_cons_left_iff]
      constructor
      · rintro ⟨digit, later, stands, same, rfl⟩
        obtain ⟨all, rfl⟩ := ih.mp same
        refine ⟨List.forall_mem_cons.mpr ⟨(isDigit_iff bounded).mpr ⟨digit, stands⟩, all⟩, ?_⟩
        simp [place, ((standsFor_iff bounded).mp stands).1]
      · rintro ⟨all, rfl⟩
        obtain ⟨first, later⟩ := List.forall_mem_cons.mp all
        obtain ⟨digit, stands⟩ := (isDigit_iff bounded).mp first
        refine ⟨digit, rest.map place, stands, ih.mpr ⟨later, rfl⟩, ?_⟩
        simp [place, ((standsFor_iff bounded).mp stands).1]

theorem denotes_iff (bounded : base ≤ 16) :
    Denotes base run number ↔
      run ≠ [] ∧ (∀ c ∈ run, isDigit base c = true) ∧ value base run = number := by
  simp only [Denotes, forall₂_standsFor_iff bounded]
  constructor
  · rintro ⟨nonempty, _, ⟨all, rfl⟩, denoted⟩
    exact ⟨nonempty, all, by rw [← denoted, ofDigits_place]⟩
  · rintro ⟨nonempty, all, denoted⟩
    exact ⟨nonempty, _, ⟨all, rfl⟩, by rw [ofDigits_place, denoted]⟩

theorem denotes_write (proper : 1 < base) (bounded : base ≤ 16) (number : Nat) :
    Denotes base (write base number) number := by
  obtain ⟨denoted, all⟩ := value_write proper bounded number
  exact (denotes_iff bounded).mpr ⟨write_ne_nil, all, denoted⟩

theorem begins_iff (bounded : base ≤ 16) :
    Begins base text number ↔ Denotes base (text.takeWhile (isDigit base)) number := by
  constructor
  · rintro ⟨run, rest, rfl, denoted, stops⟩
    have all := ((denotes_iff bounded).mp denoted).2.1
    have ended : rest.takeWhile (isDigit base) = [] := by
      rw [List.takeWhile_eq_nil_iff]
      intro nonempty digit
      obtain ⟨place, stands⟩ := (isDigit_iff bounded).mp digit
      refine stops _ ?_ _ stands
      rw [List.head?_eq_getElem?, List.getElem?_eq_getElem nonempty]
      rfl
    rwa [List.takeWhile_append_of_pos all, ended, List.append_nil]
  · intro denoted
    refine ⟨_, text.dropWhile (isDigit base), List.takeWhile_append_dropWhile.symm, denoted, ?_⟩
    intro c next digit stands
    have stops := List.head?_dropWhile_not (isDigit base) text
    rw [Option.mem_def.mp next] at stops
    simp [(isDigit_iff bounded).mpr ⟨digit, stands⟩] at stops

theorem readWord_eq_ok_iff (bounded : base ≤ 16) :
    readWord base text = .ok word ↔ Denotes base text word.toNat := by
  rw [denotes_iff bounded]
  constructor
  · intro read
    obtain ⟨all, denoted⟩ := readWord_ok read
    refine ⟨?_, all, denoted.symm⟩
    rintro rfl
    contradiction
  · rintro ⟨nonempty, all, denoted⟩
    have whole : text.takeWhile (isDigit base) = text := List.takeWhile_eq_self_iff.mpr all
    have fits : ¬ UInt64.size ≤ word.toNat := Nat.not_le_of_lt word.toNat_lt
    simp only [readWord, whole, denoted, nonempty, fits, if_false, ne_eq, not_true_eq_false,
      UInt64.ofNat_toNat]

theorem readWord_of_denotes (bounded : base ≤ 16) (denoted : Denotes base text number)
    (fits : number < UInt64.size) : readWord base text = .ok (.ofNat number) := by
  rw [readWord_eq_ok_iff bounded, UInt64.toNat_ofNat_of_lt' fits]
  exact denoted

theorem readWord_eq_missing_iff : readWord base text = .error .missing ↔ text = [] := by
  constructor
  · intro read
    simp only [readWord] at read
    split at read
    · assumption
    · split at read
      · contradiction
      · split at read
        · contradiction
        · contradiction
  · rintro rfl
    rfl

theorem readWord_eq_tooLarge_iff (bounded : base ≤ 16) :
    readWord base text = .error .tooLarge ↔
      ∃ number, Begins base text number ∧ UInt64.size ≤ number := by
  simp only [begins_iff bounded, denotes_iff bounded]
  constructor
  · intro read
    simp only [readWord] at read
    split at read
    · contradiction
    · split at read
      · rename_i large
        refine ⟨_, ⟨?_, ?_, rfl⟩, large⟩
        · intro nothing
          simp [nothing, value] at large
        · exact fun c member => List.mem_takeWhile_imp member
      · split at read
        · contradiction
        · contradiction
  · rintro ⟨_, ⟨nonempty, _, rfl⟩, large⟩
    have filled : text ≠ [] := by
      rintro rfl
      exact nonempty rfl
    simp only [readWord, filled, large, if_false, if_true]

end ProverInput.Numeral

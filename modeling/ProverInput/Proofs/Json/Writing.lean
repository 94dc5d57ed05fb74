import Mathlib.Data.List.Forall2
import Mathlib.Data.Rat.Cast.Order
import ProverInput.Text.Escape
import ProverInput.Proofs.Json.Grammar
import ProverInput.Proofs.Text.Numeral

/-!
Written strings and numbers are spellings of what they were written for, lists of them are joined by
commas, and a text can be made compact by leaving out the white space between its strings.
-/

namespace ProverInput.Json

variable {letters : Text.LetterCase}

theorem hexUnit_control {c : Char} (control : c.toNat < 0x20) :
    HexUnit ['0', '0', Text.hexDigit letters (c.toNat / 16), Text.hexDigit letters (c.toNat % 16)]
      c.toNat := by
  have all : ∀ unit : Fin 0x20,
      let digits := ['0', '0', Text.hexDigit letters (unit / 16), Text.hexDigit letters (unit % 16)]
      digits.all (Numeral.isDigit 16) = true ∧ Numeral.value 16 digits = unit := by
    cases letters <;> decide
  obtain ⟨digits, value⟩ := all ⟨c.toNat, control⟩
  exact ⟨rfl, List.all_eq_true.mp digits, value⟩

theorem glyph_escapeChar (c : Char) : Glyph c (Text.escapeChar letters c) := by
  unfold Text.escapeChar
  split
  case h_8 plainQuote plainBackslash _ _ _ _ _ =>
    split
    · rename_i control
      exact Glyph.escape (Escape.unit (hexUnit_control control))
    · rename_i visible
      exact Glyph.plain (by omega) plainQuote plainBackslash
  all_goals exact Glyph.escape (Escape.mark rfl)

theorem body_escape (text : List Char) : Body text (Text.escape letters text) := by
  induction text with
  | nil => exact Body.done
  | cons c rest ih => exact Body.next (glyph_escapeChar c) ih

theorem quotes_quoted (text : String) : Quotes text (Text.quoted letters text) :=
  ⟨Text.escape letters text.toList, body_escape text.toList, rfl⟩

def isVisible (c : Char) : Bool :=
  0x20 ≤ c.toNat

def isPlain (c : Char) : Bool :=
  isVisible c && c ≠ '"' && c ≠ '\\'

theorem isPlain_iff {c : Char} :
    isPlain c = true ↔ isVisible c = true ∧ c ≠ '"' ∧ c ≠ '\\' := by
  simp [isPlain, and_assoc]

theorem escapeChar_shape (c : Char) :
    (Text.escapeChar letters c = [c] ∧ isPlain c = true) ∨
      ∃ mark digits, Text.escapeChar letters c = '\\' :: mark :: digits ∧
        isVisible mark = true ∧ ∀ digit ∈ digits, isPlain digit = true := by
  unfold Text.escapeChar
  split
  case h_8 plainQuote plainBackslash _ _ _ _ _ =>
    split
    · rename_i control
      have all : ∀ unit : Fin 0x20,
          ['0', '0', Text.hexDigit letters (unit / 16), Text.hexDigit letters (unit % 16)].all
            isPlain = true := by
        cases letters <;> decide
      exact Or.inr ⟨'u', _, rfl, by decide, List.all_eq_true.mp (all ⟨c.toNat, control⟩)⟩
    · rename_i visible
      have notControl : isVisible c = true := decide_eq_true (by omega)
      exact Or.inl ⟨rfl, isPlain_iff.mpr ⟨notControl, plainQuote, plainBackslash⟩⟩
  all_goals exact Or.inr ⟨_, [], rfl, by decide, by simp⟩

theorem visible_quoted (text : String) : ∀ c ∈ Text.quoted letters text, isVisible c = true := by
  intro c member
  rcases List.mem_append.mp member with inside | last
  · rcases List.mem_cons.mp inside with rfl | escaped
    · decide
    · obtain ⟨original, _, written⟩ := List.mem_flatMap.mp escaped
      rcases escapeChar_shape original with ⟨same, plain⟩ | ⟨mark, digits, same, marked, plain⟩
      · rw [same, List.mem_singleton] at written
        exact written ▸ (isPlain_iff.mp plain).1
      · rw [same, List.mem_cons, List.mem_cons] at written
        rcases written with rfl | rfl | digit
        · decide
        · exact marked
        · exact (isPlain_iff.mp (plain c digit)).1
  · rw [List.mem_singleton.mp last]
    decide

theorem unsigned?_write (number : Nat) :
    unsigned? (Numeral.write 10 number) = some (number : Rat) := by
  obtain ⟨denoted, digits⟩ := Numeral.value_write (by decide : 1 < 10) (by decide) number
  have whole : (Numeral.write 10 number).takeWhile isDigit = Numeral.write 10 number :=
    List.takeWhile_eq_self_iff.mpr digits
  have nothing : (Numeral.write 10 number).dropWhile isDigit = [] :=
    List.dropWhile_eq_nil_iff.mpr digits
  have noLeadingZero : (Numeral.write 10 number).head? = some '0' →
      Numeral.write 10 number = ['0'] := Numeral.write_of_head_eq_zero (by decide) (by decide)
  simp only [unsigned?, whole, nothing, splitFraction, exponent?]
  rw [if_pos ⟨Numeral.write_ne_nil, noLeadingZero, by simp⟩]
  simp [denoted, Rat.ofScientific]

theorem write_head_isDigit {number : Nat} {c : Char} {rest : List Char}
    (written : Numeral.write 10 number = c :: rest) : isDigit c = true := by
  obtain ⟨_, digits⟩ := Numeral.value_write (by decide : 1 < 10) (by decide) number
  exact digits c (written ▸ List.mem_cons_self)

theorem number?_writeInt (number : Int) :
    number? (Numeral.writeInt number) = some (number : Rat) := by
  rw [Numeral.writeInt]
  split
  · rename_i negative
    have opposite : (number : Rat) = -(number.natAbs : Rat) := by
      rw [← Int.cast_natCast, Int.ofNat_natAbs_of_nonpos (by omega), Int.cast_neg, neg_neg]
    rw [number?, unsigned?_write, opposite, Option.map_some]
  · rename_i nonnegative
    have same : (number : Rat) = (number.natAbs : Rat) := by
      rw [← Int.cast_natCast, Int.natAbs_of_nonneg (by omega)]
    rw [same, ← unsigned?_write]
    cases written : Numeral.write 10 number.natAbs with
    | nil => exact absurd written Numeral.write_ne_nil
    | cons c rest =>
        have digit := write_head_isDigit written
        rw [number?]
        rintro later ⟨rfl, _⟩
        exact absurd digit (by decide)

theorem mem_writeInt {number : Int} {c : Char} (member : c ∈ Numeral.writeInt number) :
    c = '-' ∨ isDigit c = true := by
  obtain ⟨_, digits⟩ := Numeral.value_write (by decide : 1 < 10) (by decide) number.natAbs
  rw [Numeral.writeInt] at member
  split at member
  · rcases List.mem_cons.mp member with sign | written
    · exact Or.inl sign
    · exact Or.inr (digits c written)
  · exact Or.inr (digits c member)

theorem visible_writeInt (number : Int) : ∀ c ∈ Numeral.writeInt number, isVisible c = true := by
  intro c member
  rcases mem_writeInt member with rfl | digit
  · decide
  · exact decide_eq_true (Nat.le_trans (by decide) (Numeral.decimal_range digit).1)

theorem Padded.of_spelled {spelling : List Char → Prop} {text : List Char}
    (spelled : spelling text) : Padded spelling text :=
  ⟨[], text, [], by simp [Blank], spelled, by simp [Blank], by simp⟩

theorem separated_intercalate {spellings : List (List Char → Prop)} {parts : List (List Char)}
    (spelled : List.Forall₂ (fun spelling part => spelling part) spellings parts) :
    Separated spellings ([','].intercalate parts) := by
  induction spelled with
  | nil => simp [Separated, Blank]
  | cons first rest ih =>
      cases rest with
      | nil => simpa [Separated] using Padded.of_spelled first
      | cons second later =>
          refine ⟨_, _, Padded.of_spelled first, ih, ?_⟩
          rw [List.intercalate_cons_cons, List.append_assoc]
          rfl

theorem visible_intercalate {parts : List (List Char)}
    (visible : ∀ part ∈ parts, ∀ c ∈ part, isVisible c = true) :
    ∀ c ∈ [','].intercalate parts, isVisible c = true := by
  induction parts with
  | nil => simp
  | cons part rest ih =>
      have first := visible part List.mem_cons_self
      have later := ih fun other member => visible other (List.mem_cons_of_mem part member)
      cases rest with
      | nil => simpa using first
      | cons next rest =>
          rw [List.intercalate_cons_cons]
          simp only [List.forall_mem_append, List.forall_mem_singleton]
          exact ⟨⟨first, by decide⟩, later⟩

inductive Place where
  | outside
  | inside
  | escaped

def compactFrom : Place → List Char → List Char
  | _, [] => []
  | .outside, c :: rest =>
    if isBlank c then compactFrom .outside rest
    else c :: compactFrom (if c = '"' then .inside else .outside) rest
  | .inside, c :: rest =>
    c :: compactFrom
      (if c = '"' then .outside else if c = '\\' then .escaped else .inside) rest
  | .escaped, c :: rest => c :: compactFrom .inside rest

/-- The text without the white space that stands outside its strings. -/
def compact (text : String) : String :=
  String.ofList (compactFrom .outside text.toList)

theorem compactFrom_blank {blank : List Char} (blanks : Blank blank) (rest : List Char) :
    compactFrom .outside (blank ++ rest) = compactFrom .outside rest := by
  induction blank with
  | nil => rfl
  | cons c blank ih =>
      rw [List.cons_append, compactFrom, if_pos (blanks c List.mem_cons_self)]
      exact ih fun d member => blanks d (List.mem_cons_of_mem c member)

def isSolid (c : Char) : Bool :=
  !isBlank c && c ≠ '"'

theorem solid_writeInt (number : Int) : ∀ c ∈ Numeral.writeInt number, isSolid c = true := by
  intro c member
  rcases mem_writeInt member with rfl | digit
  · decide
  · have different (d : Char) (below : d.toNat < '0'.toNat) : c ≠ d := by
      rintro rfl
      exact absurd (Numeral.decimal_range digit).1 (Nat.not_le_of_lt below)
    simp [isSolid, isBlank, different ' ' (by decide), different '\t' (by decide),
      different '\n' (by decide), different '\r' (by decide), different '"' (by decide)]

theorem compactFrom_mark {c : Char} (solid : isSolid c = true) (rest : List Char) :
    compactFrom .outside (c :: rest) = c :: compactFrom .outside rest := by
  simp only [isSolid, Bool.and_eq_true, Bool.not_eq_true', decide_eq_true_eq] at solid
  rw [compactFrom, if_neg solid.2, solid.1]
  rfl

theorem compactFrom_word {word : List Char} (solid : ∀ c ∈ word, isSolid c = true)
    (rest : List Char) :
    compactFrom .outside (word ++ rest) = word ++ compactFrom .outside rest := by
  induction word with
  | nil => rfl
  | cons c word ih =>
      rw [List.cons_append, compactFrom_mark (solid c List.mem_cons_self),
        ih fun d member => solid d (List.mem_cons_of_mem c member), List.cons_append]

theorem compactFrom_plain {text : List Char} (plain : ∀ c ∈ text, isPlain c = true)
    (rest : List Char) :
    compactFrom .inside (text ++ rest) = text ++ compactFrom .inside rest := by
  induction text with
  | nil => rfl
  | cons c text ih =>
      obtain ⟨_, notQuote, notBackslash⟩ := isPlain_iff.mp (plain c List.mem_cons_self)
      rw [List.cons_append, compactFrom, if_neg notQuote, if_neg notBackslash,
        ih fun d member => plain d (List.mem_cons_of_mem c member), List.cons_append]

theorem compactFrom_escape (text rest : List Char) :
    compactFrom .inside (Text.escape .lower text ++ rest)
      = Text.escape .lower text ++ compactFrom .inside rest := by
  induction text with
  | nil => rfl
  | cons c text ih =>
      have split : Text.escape .lower (c :: text)
          = Text.escapeChar .lower c ++ Text.escape .lower text := rfl
      rw [split, List.append_assoc]
      rcases escapeChar_shape c with ⟨same, plain⟩ | ⟨mark, digits, same, _, plain⟩
      · rw [same, compactFrom_plain (by simpa using plain), ih, List.append_assoc]
      · rw [same, List.cons_append, List.cons_append, compactFrom, if_neg (by decide),
          if_pos rfl, compactFrom, compactFrom_plain plain, ih]
        simp only [List.cons_append, List.append_assoc]

theorem compactFrom_quoted (text : String) (rest : List Char) :
    compactFrom .outside (Text.quoted .lower text ++ rest)
      = Text.quoted .lower text ++ compactFrom .outside rest := by
  simp only [Text.quoted, List.cons_append, List.append_assoc, List.nil_append]
  rw [compactFrom, if_neg (by decide), if_pos rfl, compactFrom_escape, compactFrom, if_pos rfl]

end ProverInput.Json

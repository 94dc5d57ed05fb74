import Mathlib.Data.List.Nodup
import ProverInput.Block
import ProverInput.Proofs.Text.Positional

/-!
The grammar of blocks: the texts that spell one, and what is said of a text that spells none.
-/

namespace ProverInput.BlockRef

open Numeral (Denotes Begins)

def HexPart (text : String) (digits : List Char) : Prop :=
  text.toList = '0' :: 'x' :: digits ∨ text.toList = '0' :: 'X' :: digits

inductive Spells (text : String) : BlockRef → Prop
  | tag {named : BlockTag} : text = named.name → Spells text (.tag named)
  | decimal {number : Nat} : Denotes 10 text.toList number → number < 2 ^ 64 →
      Spells text (.height (.ofNat number))
  | hexadecimal {digits : List Char} {number : Nat} : HexPart text digits →
      Denotes 16 digits number → number < 2 ^ 64 → Spells text (.height (.ofNat number))

inductive Figures (text : String) : Nat → List Char → Prop
  | hexadecimal {digits : List Char} : HexPart text digits → Figures text 16 digits
  | decimal : (∀ digits, ¬ HexPart text digits) → Figures text 10 text.toList

/-- The longest run of digits that a text begins with is too large, whatever follows it. -/
def Exceeds (text : String) : Prop :=
  ∃ base digits number, Figures text base digits ∧ Begins base digits number ∧ 2 ^ 64 ≤ number

/-- Reads a block for a caller who holds the text of an earlier error. Only another error takes its
place. -/
def parseKeeping (earlier text : String) : Option BlockRef × String :=
  match parse text with
  | .ok block => (some block, earlier)
  | .error cause => (none, cause.message)

variable {text : String} {digits : List Char} {block : BlockRef} {cause : BlockError}

theorem hexPart?_eq_some_iff : hexPart? text.toList = some digits ↔ HexPart text digits := by
  constructor
  · intro found
    rw [hexPart?.eq_def] at found
    split at found
    · rename_i spelled
      obtain rfl := Option.some.inj found
      exact Or.inl spelled
    · rename_i spelled
      obtain rfl := Option.some.inj found
      exact Or.inr spelled
    · contradiction
  · rintro (spelled | spelled)
    · rw [spelled]
      rfl
    · rw [spelled]
      rfl

theorem hexPart?_eq_none_iff : hexPart? text.toList = none ↔ ∀ digits, ¬ HexPart text digits := by
  simp only [← hexPart?_eq_some_iff, Option.eq_none_iff_forall_ne_some, ne_eq]

theorem HexPart.unique {other : List Char} (part : HexPart text digits)
    (otherPart : HexPart text other) : digits = other := by
  rw [← hexPart?_eq_some_iff] at part otherPart
  exact Option.some.inj (part.symm.trans otherPart)

theorem ofName?_eq_some_iff {named : BlockTag} :
    BlockTag.ofName? text = some named ↔ text = named.name := by
  constructor
  · intro found
    have same := List.find?_some found
    exact (of_decide_eq_true same).symm
  · rintro rfl
    cases named <;> decide

theorem name_head (named : BlockTag) : ∃ first rest, named.name.toList = first :: rest ∧
    first ≠ '0' ∧ Numeral.isDigit 10 first = false := by
  cases named <;> exact ⟨_, _, rfl, by decide, by decide⟩

theorem HexPart.ne_empty (part : HexPart text digits) : text ≠ "" := by
  rintro rfl
  rcases part with spelled | spelled
  · contradiction
  · contradiction

theorem HexPart.ne_name (part : HexPart text digits) (named : BlockTag) : text ≠ named.name := by
  rintro rfl
  obtain ⟨first, rest, name, notZero, _⟩ := name_head named
  rcases part with spelled | spelled
  · exact notZero (List.cons.inj (name.symm.trans spelled)).1
  · exact notZero (List.cons.inj (name.symm.trans spelled)).1

theorem parse_name (named : BlockTag) : parse named.name = .ok (.tag named) := by
  cases named <;> decide

theorem parse_of_hexPart (part : HexPart text digits) : parse text = parseHex text digits := by
  have unnamed : BlockTag.ofName? text = none := by
    rw [Option.eq_none_iff_forall_ne_some]
    intro named found
    exact part.ne_name named (ofName?_eq_some_iff.mp found)
  simp only [parse, part.ne_empty, if_false, unnamed, hexPart?_eq_some_iff.mpr part]

theorem parse_of_plain (nonempty : text ≠ "") (unnamed : ∀ named : BlockTag, text ≠ named.name)
    (plain : ∀ digits, ¬ HexPart text digits) : parse text = parseDecimal text := by
  have notFound : BlockTag.ofName? text = none := by
    rw [Option.eq_none_iff_forall_ne_some]
    intro named found
    exact unnamed named (ofName?_eq_some_iff.mp found)
  simp only [parse, nonempty, if_false, notFound, hexPart?_eq_none_iff.mpr plain]

theorem shapes (text : String) : text = "" ∨ (∃ named : BlockTag, text = named.name) ∨
    (∃ digits, HexPart text digits) ∨
    (text ≠ "" ∧ (∀ named : BlockTag, text ≠ named.name) ∧ ∀ digits, ¬ HexPart text digits) := by
  by_cases empty : text = ""
  · exact Or.inl empty
  · by_cases named : ∃ named : BlockTag, text = named.name
    · exact Or.inr (Or.inl named)
    · by_cases marked : ∃ digits, HexPart text digits
      · exact Or.inr (Or.inr (Or.inl marked))
      · exact Or.inr (Or.inr (Or.inr ⟨empty, not_exists.mp named, not_exists.mp marked⟩))

theorem parseHex_ok (read : parseHex text digits = .ok block) :
    ∃ value, Numeral.readWord 16 digits = .ok value ∧ block = .height value := by
  rw [parseHex] at read
  split at read
  · rename_i value found
    exact ⟨value, found, (Except.ok.inj read).symm⟩
  all_goals contradiction

theorem parseDecimal_ok (read : parseDecimal text = .ok block) :
    ∃ value, Numeral.readWord 10 text.toList = .ok value ∧ block = .height value := by
  rw [parseDecimal] at read
  split at read
  · rename_i value found
    exact ⟨value, found, (Except.ok.inj read).symm⟩
  all_goals contradiction

theorem plain_of_decimal {number : Nat} (denoted : Denotes 10 text.toList number) :
    text ≠ "" ∧ (∀ named : BlockTag, text ≠ named.name) ∧ ∀ digits, ¬ HexPart text digits := by
  obtain ⟨nonempty, decimal, _⟩ := (Numeral.denotes_iff (by decide)).mp denoted
  refine ⟨?_, ?_, ?_⟩
  · rintro rfl
    exact nonempty rfl
  · rintro named rfl
    obtain ⟨first, rest, name, _, notDigit⟩ := name_head named
    have digit := decimal first (by rw [name]; exact List.mem_cons_self)
    rw [notDigit] at digit
    contradiction
  -- The mark itself holds a letter.
  · rintro digits (spelled | spelled)
    · exact absurd (decimal 'x' (by simp [spelled])) (by decide)
    · exact absurd (decimal 'X' (by simp [spelled])) (by decide)

theorem Spells.ofWord (part : HexPart text digits) {value : UInt64}
    (read : Numeral.readWord 16 digits = .ok value) : Spells text (.height value) := by
  have denoted := (Numeral.readWord_eq_ok_iff (by decide)).mp read
  rw [← UInt64.ofNat_toNat (x := value)]
  exact .hexadecimal part denoted value.toNat_lt

theorem parse_eq_ok_iff : parse text = .ok block ↔ Spells text block := by
  constructor
  · intro read
    rcases shapes text with rfl | ⟨named, rfl⟩ | ⟨digits, part⟩ | ⟨nonempty, unnamed, plain⟩
    · contradiction
    · rw [parse_name] at read
      obtain rfl := Except.ok.inj read
      exact .tag rfl
    · rw [parse_of_hexPart part] at read
      obtain ⟨value, word, rfl⟩ := parseHex_ok read
      exact .ofWord part word
    · rw [parse_of_plain nonempty unnamed plain] at read
      obtain ⟨value, word, rfl⟩ := parseDecimal_ok read
      have denoted := (Numeral.readWord_eq_ok_iff (by decide)).mp word
      rw [← UInt64.ofNat_toNat (x := value)]
      exact .decimal denoted value.toNat_lt
  · intro spelled
    cases spelled with
    | tag same =>
        rw [same]
        exact parse_name _
    | decimal denoted fits =>
        obtain ⟨nonempty, unnamed, plain⟩ := plain_of_decimal denoted
        rw [parse_of_plain nonempty unnamed plain, parseDecimal,
          Numeral.readWord_of_denotes (by decide) denoted fits]
    | hexadecimal part denoted fits =>
        rw [parse_of_hexPart part, parseHex,
          Numeral.readWord_of_denotes (by decide) denoted fits]

inductive Refused (text : String) : BlockError → Prop
  | empty : text = "" → Refused text .empty
  | tooLarge : Exceeds text → Refused text (.tooLarge text)
  | missingDigits : HexPart text [] → Refused text (.missingDigits text)
  | badHexDigit {digits : List Char} : HexPart text digits → digits ≠ [] → ¬ Exceeds text →
      Refused text (.badHexDigit text)
  | unknown : text ≠ "" → (∀ digits, ¬ HexPart text digits) → ¬ Exceeds text →
      Refused text (.unknown text)

theorem exceeds_iff_of_hexPart (part : HexPart text digits) :
    Exceeds text ↔ Numeral.readWord 16 digits = .error .tooLarge := by
  rw [Numeral.readWord_eq_tooLarge_iff (by decide)]
  constructor
  · rintro ⟨_, _, number, figures, begins, large⟩
    cases figures with
    | hexadecimal other =>
        obtain rfl := part.unique other
        exact ⟨number, begins, large⟩
    | decimal plain => exact absurd part (plain digits)
  · rintro ⟨number, begins, large⟩
    exact ⟨16, digits, number, .hexadecimal part, begins, large⟩

theorem exceeds_iff_of_plain (plain : ∀ digits, ¬ HexPart text digits) :
    Exceeds text ↔ Numeral.readWord 10 text.toList = .error .tooLarge := by
  rw [Numeral.readWord_eq_tooLarge_iff (by decide)]
  constructor
  · rintro ⟨_, _, number, figures, begins, large⟩
    cases figures with
    | hexadecimal part => exact absurd part (plain _)
    | decimal _ => exact ⟨number, begins, large⟩
  · rintro ⟨number, begins, large⟩
    exact ⟨10, text.toList, number, .decimal plain, begins, large⟩

theorem not_exceeds_empty : ¬ Exceeds "" := by
  have plain : ∀ digits, ¬ HexPart "" digits := fun _ part => part.ne_empty rfl
  rw [exceeds_iff_of_plain plain]
  decide

theorem not_exceeds_of_bare (bare : HexPart text []) : ¬ Exceeds text := by
  rw [exceeds_iff_of_hexPart bare]
  decide

theorem refused_of_parseHex (part : HexPart text digits)
    (read : parseHex text digits = .error cause) : Refused text cause := by
  rw [parseHex] at read
  split at read
  · contradiction
  · rename_i missing
    obtain rfl := Except.error.inj read
    obtain rfl := Numeral.readWord_eq_missing_iff.mp missing
    exact .missingDigits part
  · rename_i large
    obtain rfl := Except.error.inj read
    exact .tooLarge ((exceeds_iff_of_hexPart part).mpr large)
  · rename_i malformed
    obtain rfl := Except.error.inj read
    refine .badHexDigit part ?_ ?_
    · rintro rfl
      contradiction
    · rw [exceeds_iff_of_hexPart part, malformed]
      decide

theorem refused_of_parseDecimal (nonempty : text ≠ "") (plain : ∀ digits, ¬ HexPart text digits)
    (read : parseDecimal text = .error cause) : Refused text cause := by
  rw [parseDecimal] at read
  split at read
  · contradiction
  · rename_i large
    obtain rfl := Except.error.inj read
    exact .tooLarge ((exceeds_iff_of_plain plain).mpr large)
  · rename_i fault other failed
    obtain rfl := Except.error.inj read
    refine .unknown nonempty plain ?_
    rw [exceeds_iff_of_plain plain, failed]
    simpa using other

theorem refused_of_parse (read : parse text = .error cause) : Refused text cause := by
  rcases shapes text with rfl | ⟨named, rfl⟩ | ⟨digits, part⟩ | ⟨nonempty, unnamed, plain⟩
  · obtain rfl := Except.error.inj read
    exact .empty rfl
  · rw [parse_name] at read
    contradiction
  · exact refused_of_parseHex part (parse_of_hexPart part ▸ read)
  · exact refused_of_parseDecimal nonempty plain (parse_of_plain nonempty unnamed plain ▸ read)

theorem Refused.unique {other : BlockError} (refused : Refused text cause)
    (otherwise : Refused text other) : cause = other := by
  -- Two causes clash on the empty text, on the mark, on what follows it, or on the run of digits.
  cases refused with
  | empty same =>
      subst same
      cases otherwise with
      | empty _ => rfl
      | tooLarge exceeds => exact absurd exceeds not_exceeds_empty
      | missingDigits bare => exact absurd rfl bare.ne_empty
      | badHexDigit part _ _ => exact absurd rfl part.ne_empty
      | unknown nonempty _ _ => exact absurd rfl nonempty
  | tooLarge exceeds =>
      cases otherwise with
      | empty same => exact absurd (same ▸ exceeds) not_exceeds_empty
      | tooLarge _ => rfl
      | missingDigits bare => exact absurd exceeds (not_exceeds_of_bare bare)
      | badHexDigit _ _ small => exact absurd exceeds small
      | unknown _ _ small => exact absurd exceeds small
  | missingDigits bare =>
      cases otherwise with
      | empty same => exact absurd same bare.ne_empty
      | tooLarge exceeds => exact absurd exceeds (not_exceeds_of_bare bare)
      | missingDigits _ => rfl
      | badHexDigit part more _ => exact absurd (part.unique bare) more
      | unknown _ plain _ => exact absurd bare (plain [])
  | badHexDigit part more small =>
      cases otherwise with
      | empty same => exact absurd same part.ne_empty
      | tooLarge exceeds => exact absurd exceeds small
      | missingDigits bare => exact absurd (part.unique bare) more
      | badHexDigit _ _ _ => rfl
      | unknown _ plain _ => exact absurd part (plain _)
  | unknown nonempty plain small =>
      cases otherwise with
      | empty same => exact absurd same nonempty
      | tooLarge exceeds => exact absurd exceeds small
      | missingDigits bare => exact absurd bare (plain [])
      | badHexDigit part _ _ => exact absurd part (plain _)
      | unknown _ _ _ => rfl

theorem message_unknown (text : String) : (BlockError.unknown text).message = "'" ++ text ++
    "' is neither a block height nor one of latest, earliest, pending, safe, finalized" := by
  have ending : "' is neither a block height nor one of " ++
      ", ".intercalate (BlockTag.all.map BlockTag.name) =
        "' is neither a block height nor one of latest, earliest, pending, safe, finalized" := by
    decide
  rw [BlockError.message, String.append_assoc, ending]

theorem quoted_inj {ending other : String} :
    "'" ++ text ++ ending = "'" ++ text ++ other ↔ ending = other :=
  String.append_right_inj _

theorem empty_ne_quoted (ending : String) : "empty block number" ≠ "'" ++ text ++ ending := by
  intro same
  have first := congrArg (·.toList.head?) same
  simp at first

def refusals (text : String) : List BlockError :=
  [.empty, .tooLarge text, .missingDigits text, .badHexDigit text, .unknown text]

theorem Refused.mem_refusals (refused : Refused text cause) : cause ∈ refusals text := by
  cases refused <;> simp [refusals]

theorem nodup_messages (text : String) : ((refusals text).map BlockError.message).Nodup := by
  have written : (refusals text).map BlockError.message =
      ["empty block number", "'" ++ text ++ "': value exceeds 64 bits",
        "'" ++ text ++ "': missing digits", "'" ++ text ++ "': invalid hexadecimal digit",
        "'" ++ text ++
          "' is neither a block height nor one of latest, earliest, pending, safe, finalized"] := by
    rw [← message_unknown]
    rfl
  simp only [written, List.nodup_cons, List.mem_cons, List.not_mem_nil, quoted_inj,
    empty_ne_quoted, or_false]
  decide

theorem Refused.message_eq_iff (refused : Refused text cause) (other : BlockError)
    (about : other ∈ refusals text) : cause.message = other.message ↔ Refused text other := by
  constructor
  · intro same
    obtain rfl := List.inj_on_of_nodup_map (nodup_messages text) refused.mem_refusals about same
    exact refused
  · intro otherwise
    rw [refused.unique otherwise]

structure Explained (text message : String) : Prop where
  empty : message = "empty block number" ↔ text = ""
  tooLarge : message = "'" ++ text ++ "': value exceeds 64 bits" ↔ Exceeds text
  missingDigits : message = "'" ++ text ++ "': missing digits" ↔ text = "0x" ∨ text = "0X"
  badHexDigit : message = "'" ++ text ++ "': invalid hexadecimal digit" ↔
    (∃ digits, HexPart text digits ∧ digits ≠ []) ∧ ¬ Exceeds text
  unknown : message = "'" ++ text ++
      "' is neither a block height nor one of latest, earliest, pending, safe, finalized" ↔
    text ≠ "" ∧ (∀ digits, ¬ HexPart text digits) ∧ ¬ Exceeds text

theorem hexPart_nil_iff : HexPart text [] ↔ text = "0x" ∨ text = "0X" := by
  simp only [HexPart, ← String.toList_inj]
  rfl

theorem Refused.explained (refused : Refused text cause) : Explained text cause.message := by
  constructor
  case empty =>
    refine (refused.message_eq_iff .empty (by simp [refusals])).trans ⟨?_, .empty⟩
    intro otherwise
    cases otherwise with
    | empty same => exact same
  case tooLarge =>
    refine (refused.message_eq_iff (.tooLarge text) (by simp [refusals])).trans ⟨?_, .tooLarge⟩
    intro otherwise
    cases otherwise with
    | tooLarge exceeds => exact exceeds
  case missingDigits =>
    rw [← hexPart_nil_iff]
    refine (refused.message_eq_iff (.missingDigits text) (by simp [refusals])).trans
      ⟨?_, .missingDigits⟩
    intro otherwise
    cases otherwise with
    | missingDigits bare => exact bare
  case badHexDigit =>
    refine (refused.message_eq_iff (.badHexDigit text) (by simp [refusals])).trans ⟨?_, ?_⟩
    · intro otherwise
      cases otherwise with
      | badHexDigit part more small => exact ⟨⟨_, part, more⟩, small⟩
    · rintro ⟨⟨digits, part, more⟩, small⟩
      exact .badHexDigit part more small
  case unknown =>
    rw [← message_unknown]
    refine (refused.message_eq_iff (.unknown text) (by simp [refusals])).trans ⟨?_, ?_⟩
    · intro otherwise
      cases otherwise with
      | unknown nonempty plain small => exact ⟨nonempty, plain, small⟩
    · rintro ⟨nonempty, plain, small⟩
      exact .unknown nonempty plain small

structure Judged (earlier text : String) (answer : Option BlockRef × String) : Prop where
  accepted : ∀ block, answer.1 = some block ↔ Spells text block
  untouched : (∃ block, Spells text block) → answer.2 = earlier
  explained : (∀ block, ¬ Spells text block) → Explained text answer.2

/-- Reading accepts exactly the grammar of blocks, leaves the text of an earlier error alone when it
succeeds, and says what is wrong when it fails. -/
theorem parseKeeping_follows_grammar (earlier text : String) :
    Judged earlier text (parseKeeping earlier text) := by
  cases read : parse text with
  | ok block =>
      have spelled := parse_eq_ok_iff.mp read
      have answered : parseKeeping earlier text = (some block, earlier) := by
        rw [parseKeeping, read]
      rw [answered]
      constructor
      case accepted =>
        intro other
        rw [← parse_eq_ok_iff, read, Option.some.injEq, Except.ok.injEq]
      case untouched => exact fun _ => rfl
      case explained => exact fun unspelled => absurd spelled (unspelled block)
  | error cause =>
      have unspelled : ∀ block, ¬ Spells text block := by
        intro block spelled
        rw [parse_eq_ok_iff.mpr spelled] at read
        contradiction
      have answered : parseKeeping earlier text = (none, cause.message) := by
        rw [parseKeeping, read]
      rw [answered]
      constructor
      case accepted =>
        intro block
        constructor
        · intro found
          contradiction
        · intro spelled
          exact absurd spelled (unspelled block)
      case untouched => exact fun ⟨block, spelled⟩ => absurd spelled (unspelled block)
      case explained => exact fun _ => (refused_of_parse read).explained

theorem parseKeeping_exceeding_hexadecimal :
    let text := "0X00010000000000000000zz"
    (∀ block, ¬ Spells text block) ∧ Exceeds text ∧
      parseKeeping "earlier" text = (none, "'" ++ text ++ "': value exceeds 64 bits") ∧
      Judged "earlier" text (parseKeeping "earlier" text) := by
  intro text
  have judged := parseKeeping_follows_grammar "earlier" text
  have answered : parseKeeping "earlier" text =
      (none, "'" ++ text ++ "': value exceeds 64 bits") := by decide +kernel
  have unspelled : ∀ block, ¬ Spells text block := by
    intro block spelled
    have found := (judged.accepted block).mpr spelled
    rw [answered] at found
    contradiction
  refine ⟨unspelled, (judged.explained unspelled).tooLarge.mp ?_, answered, judged⟩
  rw [answered]

end ProverInput.BlockRef

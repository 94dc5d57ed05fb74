import Mathlib.Data.List.TakeWhile
import ProverInput.Proofs.Json.Grammar
import ProverInput.Proofs.Text.Numeral

/-!
The grammar of JSON is unambiguous: no text spells two documents. Two spellings that start the same
text are compared from left to right; where the first ends the second ends too, because what may
follow a spelling cannot continue it.
-/

namespace ProverInput.Json

def Stops (inRun : Char → Bool) (rest : List Char) : Prop :=
  ∀ c later, rest = c :: later → inRun c = false

theorem run_unique {inRun : Char → Bool} {first second rest other : List Char}
    (firstRun : ∀ c ∈ first, inRun c = true) (secondRun : ∀ c ∈ second, inRun c = true)
    (restStops : Stops inRun rest) (otherStops : Stops inRun other)
    (same : first ++ rest = second ++ other) : first = second ∧ rest = other := by
  induction first generalizing second with
  | nil =>
      cases second with
      | nil => exact ⟨rfl, same⟩
      | cons c second =>
          have stopped := restStops c (second ++ other) same
          have running := secondRun c List.mem_cons_self
          rw [stopped] at running
          contradiction
  | cons c first ih =>
      cases second with
      | nil =>
          have stopped := otherStops c (first ++ rest) same.symm
          have running := firstRun c List.mem_cons_self
          rw [stopped] at running
          contradiction
      | cons d second =>
          simp only [List.cons_append, List.cons.injEq] at same
          obtain ⟨rfl, same⟩ := same
          obtain ⟨rfl, rest⟩ := ih (fun d member => firstRun d (List.mem_cons_of_mem c member))
            (fun d member => secondRun d (List.mem_cons_of_mem c member)) same
          exact ⟨rfl, rest⟩

theorem not_surrogate (c : Char) : c.toNat < 0xD800 ∨ 0xE000 ≤ c.toNat := by
  have valid : c.toNat < 0xD800 ∨ 0xDFFF < c.toNat ∧ c.toNat < 0x110000 := c.valid
  omega

theorem HexUnit.unique {first second rest other : List Char} {unit code : Nat}
    (left : HexUnit first unit) (right : HexUnit second code)
    (same : first ++ rest = second ++ other) : unit = code ∧ first = second ∧ rest = other := by
  obtain ⟨firstLength, _, rfl⟩ := left
  obtain ⟨secondLength, _, rfl⟩ := right
  obtain ⟨rfl, rfl⟩ := List.append_inj same (by omega)
  exact ⟨rfl, rfl, rfl⟩

theorem Escape.unique {c d : Char} {text other rest later : List Char} (left : Escape c text)
    (right : Escape d other) (same : text ++ rest = other ++ later) :
    c = d ∧ text = other ∧ rest = later := by
  have noMark {c : Char} : escaped? 'u' ≠ some c := by simp [escaped?]
  cases left with
  | mark meant =>
      cases right with
      | mark otherMeant =>
          simp only [List.cons_append, List.nil_append, List.cons.injEq] at same
          obtain ⟨rfl, rest⟩ := same
          exact ⟨Option.some.inj (meant.symm.trans otherMeant), rfl, rest⟩
      | unit _ =>
          simp only [List.cons_append, List.nil_append, List.cons.injEq] at same
          exact absurd (same.1 ▸ meant) noMark
      | pair _ _ _ _ _ _ _ =>
          simp only [List.cons_append, List.nil_append, List.cons.injEq] at same
          exact absurd (same.1 ▸ meant) noMark
  | unit hex =>
      cases right with
      | mark meant =>
          simp only [List.cons_append, List.nil_append, List.cons.injEq] at same
          exact absurd (same.1 ▸ meant) noMark
      | unit otherHex =>
          simp only [List.cons_append, List.cons.injEq, true_and] at same
          obtain ⟨unit, rfl, rest⟩ := hex.unique otherHex same
          exact ⟨Char.toNat_inj.mp unit, rfl, rest⟩
      | pair highHex _ above below _ _ _ =>
          simp only [List.cons_append, List.append_assoc, List.cons.injEq, true_and] at same
          obtain ⟨unit, _⟩ := hex.unique highHex same
          have scalar := not_surrogate c
          omega
  | pair highHex lowHex above below _ _ code =>
      cases right with
      | mark meant =>
          simp only [List.cons_append, List.nil_append, List.cons.injEq] at same
          exact absurd (same.1 ▸ meant) noMark
      | unit hex =>
          simp only [List.cons_append, List.append_assoc, List.cons.injEq, true_and] at same
          obtain ⟨unit, _⟩ := highHex.unique hex same
          have scalar := not_surrogate d
          omega
      | pair otherHigh otherLow _ _ _ _ otherCode =>
          simp only [List.cons_append, List.append_assoc, List.cons.injEq, true_and] at same
          obtain ⟨rfl, rfl, lowPart⟩ := highHex.unique otherHigh same
          simp only [List.cons.injEq, true_and] at lowPart
          obtain ⟨rfl, rfl, rest⟩ := lowHex.unique otherLow lowPart
          exact ⟨Char.toNat_inj.mp (code.trans otherCode.symm), rfl, rest⟩

theorem Glyph.unique {c d : Char} {text other rest later : List Char} (left : Glyph c text)
    (right : Glyph d other) (same : text ++ rest = other ++ later) :
    c = d ∧ text = other ∧ rest = later := by
  cases left with
  | plain _ _ notMark =>
      cases right with
      | plain _ _ _ =>
          simp only [List.cons_append, List.nil_append, List.cons.injEq] at same
          obtain ⟨rfl, rest⟩ := same
          exact ⟨rfl, rfl, rest⟩
      | escape _ =>
          simp only [List.cons_append, List.cons.injEq] at same
          exact absurd same.1 notMark
  | escape meant =>
      cases right with
      | plain _ _ notMark =>
          simp only [List.cons_append, List.cons.injEq] at same
          exact absurd same.1.symm notMark
      | escape otherMeant =>
          simp only [List.cons_append, List.cons.injEq, true_and] at same
          obtain ⟨rfl, rfl, rest⟩ := meant.unique otherMeant same
          exact ⟨rfl, rfl, rest⟩

theorem Glyph.not_quote {c : Char} {text rest later : List Char} (glyph : Glyph c text) :
    text ++ rest ≠ '"' :: later := by
  intro same
  cases glyph with
  | plain _ notQuote _ =>
      simp only [List.cons_append, List.nil_append, List.cons.injEq] at same
      exact notQuote same.1
  | escape _ => simp at same

theorem Body.unique {first second text other rest later : List Char} (left : Body first text)
    (right : Body second other) (same : text ++ '"' :: rest = other ++ '"' :: later) :
    first = second ∧ text = other ∧ rest = later := by
  induction left generalizing second other with
  | done =>
      cases right with
      | done => simpa using same
      | next glyph _ =>
          rw [List.append_assoc] at same
          exact absurd same.symm glyph.not_quote
  | next glyph body ih =>
      cases right with
      | done =>
          rw [List.append_assoc] at same
          exact absurd same glyph.not_quote
      | next otherGlyph otherBody =>
          rw [List.append_assoc, List.append_assoc] at same
          obtain ⟨rfl, rfl, tail⟩ := glyph.unique otherGlyph same
          obtain ⟨rfl, rfl, rest⟩ := ih otherBody tail
          exact ⟨rfl, rfl, rest⟩

theorem Quotes.unique {first second : String} {text other rest later : List Char}
    (left : Quotes first text) (right : Quotes second other)
    (same : text ++ rest = other ++ later) : first = second ∧ text = other ∧ rest = later := by
  obtain ⟨body, spelled, rfl⟩ := left
  obtain ⟨otherBody, otherSpelled, rfl⟩ := right
  simp only [List.cons_append, List.append_assoc, List.nil_append, List.cons.injEq,
    true_and] at same
  obtain ⟨value, rfl, rest⟩ := spelled.unique otherSpelled same
  exact ⟨String.toList_inj.mp value, rfl, rest⟩

/-! Numbers. A numeral starts with a digit or a minus sign and ends at the first character that no
numeral holds. -/

def isNumeralChar (c : Char) : Bool :=
  isDigit c || c = '-' || c = '+' || c = '.' || c = 'e' || c = 'E'

theorem isNumeralChar_of_digit {c : Char} (digit : isDigit c = true) : isNumeralChar c = true := by
  simp [isNumeralChar, digit]

theorem numeral_of_digits {text : List Char} {value : Nat} (read : digits? text = some value) :
    ∀ c ∈ text, isNumeralChar c = true := by
  intro c member
  simp only [digits?] at read
  split at read
  · rename_i run
    exact isNumeralChar_of_digit (List.all_eq_true.mp run.2 c member)
  · contradiction

theorem numeral_of_exponent {text : List Char} {value : Int} (read : exponent? text = some value) :
    ∀ c ∈ text, isNumeralChar c = true := by
  cases text with
  | nil => simp
  | cons mark rest =>
      simp only [exponent?] at read
      split at read
      · rename_i isMark
        have marked : isNumeralChar mark = true := by
          rcases isMark with rfl | rfl <;> decide
        refine List.forall_mem_cons.mpr ⟨marked, ?_⟩
        split at read
        · obtain ⟨digits, found, _⟩ := Option.map_eq_some_iff.mp read
          exact List.forall_mem_cons.mpr ⟨by decide, numeral_of_digits found⟩
        · obtain ⟨digits, found, _⟩ := Option.map_eq_some_iff.mp read
          exact List.forall_mem_cons.mpr ⟨by decide, numeral_of_digits found⟩
        · obtain ⟨digits, found, _⟩ := Option.map_eq_some_iff.mp read
          exact numeral_of_digits found
      · contradiction

theorem mem_takeWhile_or_dropWhile {inRun : Char → Bool} {c : Char} {text : List Char}
    (member : c ∈ text) : inRun c = true ∨ c ∈ text.dropWhile inRun := by
  rw [← List.takeWhile_append_dropWhile (p := inRun) (l := text)] at member
  rcases List.mem_append.mp member with early | late
  · exact Or.inl (List.mem_takeWhile_imp early)
  · exact Or.inr late

theorem mem_splitFraction {c : Char} {text : List Char} (member : c ∈ text) :
    isNumeralChar c = true ∨ c ∈ (splitFraction text).2 := by
  unfold splitFraction
  split
  · rename_i rest
    rcases List.mem_cons.mp member with rfl | later
    · exact Or.inl (by decide)
    · rcases mem_takeWhile_or_dropWhile later with digit | after
      · exact Or.inl (isNumeralChar_of_digit digit)
      · exact Or.inr after
  · exact Or.inr member

theorem numeral_of_unsigned {text : List Char} {value : Rat} (read : unsigned? text = some value) :
    (∀ c ∈ text, isNumeralChar c = true) ∧
      ∃ c rest, text = c :: rest ∧ isDigit c = true := by
  simp only [unsigned?] at read
  split at read
  · rename_i whole
    obtain ⟨exponent, found, _⟩ := Option.map_eq_some_iff.mp read
    constructor
    · intro c member
      rcases mem_takeWhile_or_dropWhile member with digit | after
      · exact isNumeralChar_of_digit digit
      · rcases mem_splitFraction after with numeral | late
        · exact numeral
        · exact numeral_of_exponent found c late
    · cases text with
      | nil => exact absurd rfl whole.1
      | cons c rest =>
          refine ⟨c, rest, rfl, ?_⟩
          by_contra notDigit
          simp [notDigit] at whole
  · contradiction

theorem numeral_of_number {text : List Char} {value : Rat} (read : number? text = some value) :
    (∀ c ∈ text, isNumeralChar c = true) ∧
      ∃ c rest, text = c :: rest ∧ (c = '-' ∨ isDigit c = true) := by
  unfold number? at read
  split at read
  · rename_i rest
    obtain ⟨magnitude, found, _⟩ := Option.map_eq_some_iff.mp read
    obtain ⟨numeral, _⟩ := numeral_of_unsigned found
    exact ⟨List.forall_mem_cons.mpr ⟨by decide, numeral⟩, '-', rest, rfl, Or.inl rfl⟩
  · obtain ⟨numeral, c, rest, rfl, digit⟩ := numeral_of_unsigned read
    exact ⟨numeral, c, rest, rfl, Or.inr digit⟩

/-! Separated spellings. What stands between two of them is no part of either. -/

def isSeparator (c : Char) : Bool :=
  isBlank c || c = ',' || c = ']' || c = '\x7d'

theorem not_numeral_of_separator {c : Char} (separator : isSeparator c = true) :
    isNumeralChar c = false := by
  simp only [isSeparator, isBlank, Bool.or_eq_true, decide_eq_true_eq] at separator
  rcases separator with (((((rfl | rfl) | rfl) | rfl) | rfl) | rfl) | rfl
  all_goals decide

/-- Neither white space nor a numeral goes on in what follows. -/
def Ended (rest : List Char) : Prop :=
  Stops isBlank rest ∧ Stops isNumeralChar rest

theorem Ended.nil : Ended [] := by
  constructor <;> simp [Stops]

theorem stops_cons {inRun : Char → Bool} {c : Char} {rest : List Char} (stop : inRun c = false) :
    Stops inRun (c :: rest) := by
  intro d later same
  obtain ⟨rfl, _⟩ := List.cons.inj same
  exact stop

theorem Ended.cons {c : Char} {rest : List Char} (separator : isSeparator c = true)
    (notBlank : isBlank c = false) : Ended (c :: rest) :=
  ⟨stops_cons notBlank, stops_cons (not_numeral_of_separator separator)⟩

theorem stops_numeral_append {after rest : List Char} (blank : Blank after)
    (ends : Stops isNumeralChar rest) : Stops isNumeralChar (after ++ rest) := by
  cases after with
  | nil => exact ends
  | cons c after =>
      have isBlank := blank c List.mem_cons_self
      exact stops_cons (not_numeral_of_separator (by simp [isSeparator, isBlank]))

section Separation

variable {α : Type} {spells : α → List Char → Prop}

/-- Wherever a spelling of the item starts a text, no other item does. -/
def Recognized (spells : α → List Char → Prop) (item : α) : Prop :=
  ∀ other text core rest later, spells item text → spells other core →
    Stops isNumeralChar rest → Stops isNumeralChar later → text ++ rest = core ++ later →
    item = other ∧ text = core ∧ rest = later

def Solid (spells : α → List Char → Prop) : Prop :=
  ∀ item text, spells item text → ∃ c rest, text = c :: rest ∧ isSeparator c = false

theorem Solid.stops_blank (solid : Solid spells) {item : α} {text : List Char}
    (spelled : spells item text) (rest : List Char) : Stops isBlank (text ++ rest) := by
  obtain ⟨c, more, rfl, notSeparator⟩ := solid item text spelled
  simp only [isSeparator, Bool.or_eq_false_iff] at notSeparator
  exact stops_cons notSeparator.1.1.1

theorem Padded.unique (solid : Solid spells) {item other : α} {text core rest later : List Char}
    (recognized : Recognized spells item) (left : Padded (spells item) text)
    (right : Padded (spells other) core) (ended : Ended rest) (otherEnded : Ended later)
    (same : text ++ rest = core ++ later) : item = other ∧ text = core ∧ rest = later := by
  obtain ⟨before, inner, after, beforeBlank, spelled, afterBlank, rfl⟩ := left
  obtain ⟨otherBefore, otherInner, otherAfter, otherBeforeBlank, otherSpelled, otherAfterBlank,
    rfl⟩ := right
  simp only [List.append_assoc] at same
  obtain ⟨rfl, sameInner⟩ := run_unique beforeBlank otherBeforeBlank
    (solid.stops_blank spelled _) (solid.stops_blank otherSpelled _) same
  obtain ⟨sameItem, rfl, sameAfter⟩ := recognized other inner otherInner _ _ spelled otherSpelled
    (stops_numeral_append afterBlank ended.2) (stops_numeral_append otherAfterBlank otherEnded.2)
    sameInner
  obtain ⟨rfl, sameRest⟩ := run_unique afterBlank otherAfterBlank ended.1 otherEnded.1 sameAfter
  exact ⟨sameItem, rfl, sameRest⟩

def Continues (rest : List (List Char → Prop)) (tail : List Char) : Prop :=
  (rest = [] ∧ tail = []) ∨
    (rest ≠ [] ∧ ∃ others, tail = ',' :: others ∧ Separated rest others)

theorem separated_cons_iff (spelling : List Char → Prop) (rest : List (List Char → Prop))
    (text : List Char) :
    Separated (spelling :: rest) text ↔
      ∃ first tail, Padded spelling first ∧ text = first ++ tail ∧ Continues rest tail := by
  cases rest with
  | nil =>
      constructor
      · intro padded
        exact ⟨text, [], padded, (List.append_nil text).symm, Or.inl ⟨rfl, rfl⟩⟩
      · rintro ⟨first, tail, padded, rfl, ⟨_, rfl⟩ | ⟨nonempty, _⟩⟩
        · rw [List.append_nil]
          exact padded
        · exact absurd rfl nonempty
  | cons next rest =>
      constructor
      · rintro ⟨first, others, padded, separated, rfl⟩
        exact ⟨first, ',' :: others, padded, rfl, Or.inr ⟨by simp, others, rfl, separated⟩⟩
      · rintro ⟨first, tail, padded, rfl, ⟨empty, _⟩ | ⟨_, others, rfl, separated⟩⟩
        · contradiction
        · exact ⟨first, others, padded, separated, rfl⟩

theorem Continues.ended {rest : List (List Char → Prop)} {tail more : List Char} {close : Char}
    (continues : Continues rest tail) (ended : Ended (close :: more)) :
    Ended (tail ++ close :: more) := by
  rcases continues with ⟨_, rfl⟩ | ⟨_, others, rfl, _⟩
  · exact ended
  · exact Ended.cons (by decide) (by decide)

theorem blank_ne_separated (solid : Solid spells) {item : α} {rest : List (List Char → Prop)}
    {blank text more tail : List Char} {close : Char} (separator : isSeparator close = true)
    (ended : Ended (close :: more)) (blanks : Blank blank)
    (separated : Separated (spells item :: rest) text) :
    blank ++ close :: more ≠ text ++ tail := by
  intro same
  obtain ⟨first, others, ⟨before, core, after, beforeBlank, spelled, _, rfl⟩, rfl, _⟩ :=
    (separated_cons_iff _ _ _).mp separated
  simp only [List.append_assoc] at same
  obtain ⟨_, sameClose⟩ :=
    run_unique blanks beforeBlank ended.1 (solid.stops_blank spelled _) same
  obtain ⟨c, coreRest, rfl, notSeparator⟩ := solid item core spelled
  obtain ⟨rfl, _⟩ := List.cons.inj sameClose
  rw [separator] at notSeparator
  contradiction

theorem Separated.unique (solid : Solid spells) {close : Char} (notComma : close ≠ ',')
    (separator : isSeparator close = true) (notBlank : isBlank close = false)
    {items others : List α} (recognized : ∀ item ∈ items, Recognized spells item)
    {text core rest later : List Char} (left : Separated (items.map spells) text)
    (right : Separated (others.map spells) core)
    (same : text ++ close :: rest = core ++ close :: later) :
    items = others ∧ text = core ∧ rest = later := by
  have ended (more : List Char) : Ended (close :: more) := Ended.cons separator notBlank
  induction items generalizing others text core with
  | nil =>
      cases others with
      | nil =>
          obtain ⟨rfl, sameRest⟩ := run_unique left right (ended rest).1 (ended later).1 same
          exact ⟨rfl, rfl, (List.cons.inj sameRest).2⟩
      | cons other others =>
          exact absurd same (blank_ne_separated solid separator (ended rest) left right)
  | cons item items ih =>
      cases others with
      | nil =>
          exact absurd same.symm (blank_ne_separated solid separator (ended later) right left)
      | cons other others =>
          obtain ⟨first, tail, padded, rfl, continues⟩ := (separated_cons_iff _ _ _).mp left
          obtain ⟨otherFirst, otherTail, otherPadded, rfl, otherContinues⟩ :=
            (separated_cons_iff _ _ _).mp right
          simp only [List.append_assoc] at same
          obtain ⟨rfl, rfl, sameTail⟩ := Padded.unique solid (recognized item List.mem_cons_self)
            padded otherPadded (continues.ended (ended rest)) (otherContinues.ended (ended later))
            same
          rcases continues with ⟨empty, rfl⟩ | ⟨_, inner, rfl, separated⟩
          · rcases otherContinues with ⟨otherEmpty, rfl⟩ | ⟨_, otherInner, rfl, _⟩
            · simp only [List.map_eq_nil_iff] at empty otherEmpty
              subst empty otherEmpty
              exact ⟨rfl, rfl, (List.cons.inj sameTail).2⟩
            · exact absurd (List.cons.inj sameTail).1 notComma
          · rcases otherContinues with ⟨_, rfl⟩ | ⟨_, otherInner, rfl, otherSeparated⟩
            · exact absurd (List.cons.inj sameTail).1.symm notComma
            · obtain ⟨rfl, rfl, sameRest⟩ := ih
                (fun item member => recognized item (List.mem_cons_of_mem _ member))
                separated otherSeparated (List.cons.inj sameTail).2
              exact ⟨rfl, rfl, sameRest⟩

end Separation

/-! Documents. The first character of a spelling tells what kind of document follows. -/

def kindOf (c : Char) : Char :=
  if c = '-' ∨ isDigit c = true then '0' else c

def Document.kind : Document → Char
  | .null => 'n'
  | .bool true => 't'
  | .bool false => 'f'
  | .number _ => '0'
  | .text _ => '"'
  | .array _ => '['
  | .object _ => '\x7b'

theorem kindOf_head {document : Document} {text : List Char} (spelled : Spells document text) :
    ∃ c rest, text = c :: rest ∧ kindOf c = document.kind := by
  cases document with
  | null =>
      simp only [Spells] at spelled
      exact ⟨'n', _, spelled, by decide⟩
  | bool value =>
      cases value with
      | true =>
          simp only [Spells] at spelled
          exact ⟨'t', _, spelled, by decide⟩
      | false =>
          simp only [Spells] at spelled
          exact ⟨'f', _, spelled, by decide⟩
  | number value =>
      simp only [Spells] at spelled
      obtain ⟨_, c, rest, rfl, head⟩ := numeral_of_number spelled
      exact ⟨c, rest, rfl, by simp only [kindOf, head, if_true, Document.kind]⟩
  | text value =>
      simp only [Spells] at spelled
      obtain ⟨body, _, rfl⟩ := spelled
      exact ⟨'"', _, rfl, rfl⟩
  | array items =>
      simp only [Spells] at spelled
      obtain ⟨inner, _, rfl⟩ := spelled
      exact ⟨'[', _, rfl, rfl⟩
  | object members =>
      simp only [Spells] at spelled
      obtain ⟨inner, _, rfl⟩ := spelled
      exact ⟨'\x7b', _, rfl, rfl⟩

theorem kindOf_separator {c : Char} (separator : isSeparator c = true) : kindOf c = c := by
  have notNumeral := not_numeral_of_separator separator
  simp only [isNumeralChar, Bool.or_eq_false_iff, decide_eq_false_iff_not] at notNumeral
  simp [kindOf, notNumeral]

theorem solid_spells : Solid Spells := by
  intro document text spelled
  obtain ⟨c, rest, rfl, kind⟩ := kindOf_head spelled
  refine ⟨c, rest, rfl, ?_⟩
  by_contra separator
  simp only [Bool.not_eq_false] at separator
  rw [kindOf_separator separator] at kind
  subst kind
  rcases document with _ | (_ | _) | _ | _ | _ | _
  all_goals simp [Document.kind, isSeparator, isBlank] at separator

theorem itemSpellings_eq (items : List Document) : itemSpellings items = items.map Spells := by
  induction items with
  | nil => rfl
  | cons item rest ih => rw [itemSpellings, ih, List.map_cons]

def MemberSpells (member : String × Document) : List Char → Prop :=
  Member member.1 (Spells member.2)

theorem memberSpellings_eq (members : List (String × Document)) :
    memberSpellings members = members.map MemberSpells := by
  induction members with
  | nil => rfl
  | cons member rest ih => rw [memberSpellings, ih, List.map_cons, MemberSpells]

theorem solid_memberSpells : Solid MemberSpells := by
  rintro ⟨key, value⟩ _ ⟨_, before, after, core, ⟨body, _, rfl⟩, _, _, _, rfl⟩
  exact ⟨'"', _, rfl, by decide⟩

theorem recognized_member {member : String × Document} (recognized : Recognized Spells member.2) :
    Recognized MemberSpells member := by
  rintro ⟨otherKey, otherValue⟩ _ _ rest later
    ⟨name, before, after, core, named, beforeBlank, afterBlank, spelled, rfl⟩
    ⟨otherName, otherBefore, otherAfter, otherCore, otherNamed, otherBeforeBlank, otherAfterBlank,
      otherSpelled, rfl⟩ stops otherStops same
  obtain ⟨key, value⟩ := member
  simp only [List.append_assoc] at same
  have colonStops (tail : List Char) : Stops isBlank (':' :: tail) := stops_cons (by decide)
  obtain ⟨rfl, rfl, sameBefore⟩ := named.unique otherNamed same
  obtain ⟨rfl, sameColon⟩ := run_unique beforeBlank otherBeforeBlank (colonStops _) (colonStops _)
    sameBefore
  obtain ⟨rfl, sameCore⟩ := run_unique afterBlank otherAfterBlank
    (solid_spells.stops_blank spelled _) (solid_spells.stops_blank otherSpelled _)
    (List.cons.inj sameColon).2
  obtain ⟨rfl, rfl, sameRest⟩ :=
    recognized otherValue core otherCore rest later spelled otherSpelled stops otherStops sameCore
  exact ⟨rfl, rfl, sameRest⟩

@[elab_as_elim]
theorem Document.induct {motive : Document → Prop} (null : motive .null)
    (bool : ∀ value, motive (.bool value)) (number : ∀ value, motive (.number value))
    (text : ∀ value, motive (.text value))
    (array : ∀ items, (∀ item ∈ items, motive item) → motive (.array items))
    (object : ∀ members, (∀ member ∈ members, motive member.2) → motive (.object members)) :
    ∀ document, motive document
  | .null => null
  | .bool value => bool value
  | .number value => number value
  | .text value => text value
  | .array items => array items fun item _ =>
      Document.induct null bool number text array object item
  | .object members => object members fun member _ =>
      Document.induct null bool number text array object member.2
termination_by document => document
decreasing_by
  · rename_i member
    have smaller := List.sizeOf_lt_of_mem member
    simp only [Document.array.sizeOf_spec]
    omega
  · rename_i found
    have smaller := List.sizeOf_lt_of_mem found
    obtain ⟨key, value⟩ := member
    simp only [Document.object.sizeOf_spec, Prod.mk.sizeOf_spec] at smaller ⊢
    omega

theorem same_kind {document other : Document} {text core rest later : List Char}
    (left : Spells document text) (right : Spells other core)
    (same : text ++ rest = core ++ later) : document.kind = other.kind := by
  obtain ⟨c, more, rfl, kind⟩ := kindOf_head left
  obtain ⟨d, otherMore, rfl, otherKind⟩ := kindOf_head right
  rw [← kind, ← otherKind, (List.cons.inj same).1]

theorem recognized_spells (document : Document) : Recognized Spells document := by
  -- the other document is of the same kind, so each case is left with one alternative
  induction document using Document.induct with
  | null =>
      intro other text core rest later left right stops otherStops same
      have sameKind := same_kind left right same
      cases other with
      | null =>
          simp only [Spells] at left right
          subst left right
          exact ⟨rfl, rfl, List.append_cancel_left same⟩
      | bool value => cases value <;> simp [Document.kind] at sameKind
      | _ => simp [Document.kind] at sameKind
  | bool value =>
      intro other text core rest later left right stops otherStops same
      have sameKind := same_kind left right same
      cases other with
      | bool otherValue =>
          cases value <;> cases otherValue
          case false.false | true.true =>
            simp only [Spells] at left right
            subst left right
            exact ⟨rfl, rfl, List.append_cancel_left same⟩
          case false.true | true.false => simp [Document.kind] at sameKind
      | _ => cases value <;> simp [Document.kind] at sameKind
  | number value =>
      intro other text core rest later left right stops otherStops same
      have sameKind := same_kind left right same
      cases other with
      | number otherValue =>
          simp only [Spells] at left right
          obtain ⟨rfl, sameRest⟩ := run_unique (numeral_of_number left).1
            (numeral_of_number right).1 stops otherStops same
          obtain rfl := Option.some.inj (left.symm.trans right)
          exact ⟨rfl, rfl, sameRest⟩
      | bool value => cases value <;> simp [Document.kind] at sameKind
      | _ => simp [Document.kind] at sameKind
  | text value =>
      intro other text core rest later left right stops otherStops same
      have sameKind := same_kind left right same
      cases other with
      | text otherValue =>
          simp only [Spells] at left right
          obtain ⟨rfl, rfl, sameRest⟩ := left.unique right same
          exact ⟨rfl, rfl, sameRest⟩
      | bool value => cases value <;> simp [Document.kind] at sameKind
      | _ => simp [Document.kind] at sameKind
  | array items ih =>
      intro other text core rest later left right stops otherStops same
      have sameKind := same_kind left right same
      cases other with
      | array others =>
          simp only [Spells, itemSpellings_eq] at left right
          obtain ⟨inner, separated, rfl⟩ := left
          obtain ⟨otherInner, otherSeparated, rfl⟩ := right
          simp only [List.cons_append, List.append_assoc, List.cons.injEq, true_and] at same
          obtain ⟨rfl, rfl, sameRest⟩ := Separated.unique solid_spells (by decide) (by decide)
            (by decide) ih separated otherSeparated same
          exact ⟨rfl, rfl, sameRest⟩
      | bool value => cases value <;> simp [Document.kind] at sameKind
      | _ => simp [Document.kind] at sameKind
  | object members ih =>
      intro other text core rest later left right stops otherStops same
      have sameKind := same_kind left right same
      cases other with
      | object others =>
          simp only [Spells, memberSpellings_eq] at left right
          obtain ⟨inner, separated, rfl⟩ := left
          obtain ⟨otherInner, otherSeparated, rfl⟩ := right
          simp only [List.cons_append, List.append_assoc, List.cons.injEq, true_and] at same
          obtain ⟨rfl, rfl, sameRest⟩ := Separated.unique solid_memberSpells (by decide)
            (by decide) (by decide) (fun member found => recognized_member (ih member found))
            separated otherSeparated same
          exact ⟨rfl, rfl, sameRest⟩
      | bool value => cases value <;> simp [Document.kind] at sameKind
      | _ => simp [Document.kind] at sameKind

/-- A text is JSON for one document at most. -/
theorem IsText.unique {document other : Document} {text : String} (left : IsText document text)
    (right : IsText other text) : document = other :=
  (Padded.unique solid_spells (recognized_spells document) left right Ended.nil Ended.nil rfl).1

end ProverInput.Json

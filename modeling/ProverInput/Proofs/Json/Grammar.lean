import ProverInput.Text.Numeral

/-!
The grammar of JSON: which texts spell a document. A number is the rational that its numeral
denotes; an object keeps its members in the order in which they stand, repetitions included.
-/

namespace ProverInput.Json

inductive Document where
  | null
  | bool (value : Bool)
  | number (value : Rat)
  | text (value : String)
  | array (items : List Document)
  | object (members : List (String × Document))

def isBlank (c : Char) : Bool :=
  c = ' ' || c = '\t' || c = '\n' || c = '\r'

def Blank (text : List Char) : Prop :=
  ∀ c ∈ text, isBlank c = true

def Padded (spelling : List Char → Prop) (text : List Char) : Prop :=
  ∃ before core after, Blank before ∧ spelling core ∧ Blank after ∧
    text = before ++ core ++ after

def Separated : List (List Char → Prop) → List Char → Prop
  | [], text => Blank text
  | [spelling], text => Padded spelling text
  | spelling :: rest, text => ∃ first others, Padded spelling first ∧ Separated rest others ∧
      text = first ++ ',' :: others

def escaped? : Char → Option Char
  | '"' => some '"'
  | '\\' => some '\\'
  | '/' => some '/'
  | 'b' => some '\x08'
  | 'f' => some '\x0c'
  | 'n' => some '\n'
  | 'r' => some '\r'
  | 't' => some '\t'
  | _ => none

def HexUnit (digits : List Char) (unit : Nat) : Prop :=
  digits.length = 4 ∧ (∀ c ∈ digits, Numeral.isDigit 16 c = true) ∧
    Numeral.value 16 digits = unit

/-- What follows the backslash of an escape. A character outside the basic plane takes a pair of
surrogates. -/
inductive Escape : Char → List Char → Prop
  | mark {mark c} : escaped? mark = some c → Escape c [mark]
  | unit {digits : List Char} {c} : HexUnit digits c.toNat → Escape c ('u' :: digits)
  | pair {first second : List Char} {high low : Nat} {c : Char} :
      HexUnit first high → HexUnit second low →
      0xD800 ≤ high → high < 0xDC00 → 0xDC00 ≤ low → low < 0xE000 →
      c.toNat = 0x10000 + (high - 0xD800) * 0x400 + (low - 0xDC00) →
      Escape c ('u' :: first ++ '\\' :: 'u' :: second)

inductive Glyph : Char → List Char → Prop
  | plain {c} : 0x20 ≤ c.toNat → c ≠ '"' → c ≠ '\\' → Glyph c [c]
  | escape {c text} : Escape c text → Glyph c ('\\' :: text)

inductive Body : List Char → List Char → Prop
  | done : Body [] []
  | next {c glyph value text} : Glyph c glyph → Body value text →
      Body (c :: value) (glyph ++ text)

def Quotes (value : String) (text : List Char) : Prop :=
  ∃ body, Body value.toList body ∧ text = '"' :: body ++ ['"']

def isDigit (c : Char) : Bool :=
  Numeral.isDigit 10 c

def digits? (text : List Char) : Option Nat :=
  if text ≠ [] ∧ text.all isDigit then some (Numeral.value 10 text) else none

def exponent? : List Char → Option Int
  | [] => some 0
  | mark :: rest =>
    if mark = 'e' ∨ mark = 'E' then
      match rest with
      | '+' :: digits => (digits? digits).map fun (value : Nat) => (value : Int)
      | '-' :: digits => (digits? digits).map fun (value : Nat) => -(value : Int)
      | digits => (digits? digits).map fun (value : Nat) => (value : Int)
    else none

def splitFraction : List Char → Option (List Char) × List Char
  | '.' :: rest => (some (rest.takeWhile isDigit), rest.dropWhile isDigit)
  | rest => (none, rest)

def unsigned? (text : List Char) : Option Rat :=
  let whole := text.takeWhile isDigit
  let (fraction, rest) := splitFraction (text.dropWhile isDigit)
  let places := fraction.getD []
  if whole ≠ [] ∧ (whole.head? = some '0' → whole = ['0']) ∧ fraction ≠ some [] then
    (exponent? rest).map fun exponent =>
      let shift : Int := exponent - places.length
      Rat.ofScientific (Numeral.value 10 (whole ++ places)) (shift < 0) shift.natAbs
  else none

def number? : List Char → Option Rat
  | '-' :: rest => (unsigned? rest).map fun value => -value
  | text => unsigned? text

def Member (key : String) (spelling : List Char → Prop) (text : List Char) : Prop :=
  ∃ name before after core, Quotes key name ∧ Blank before ∧ Blank after ∧ spelling core ∧
    text = name ++ before ++ ':' :: after ++ core

mutual

def Spells : Document → List Char → Prop
  | .null, text => text = ['n', 'u', 'l', 'l']
  | .bool true, text => text = ['t', 'r', 'u', 'e']
  | .bool false, text => text = ['f', 'a', 'l', 's', 'e']
  | .number value, text => number? text = some value
  | .text value, text => Quotes value text
  | .array items, text => ∃ inner, Separated (itemSpellings items) inner ∧
      text = '[' :: inner ++ [']']
  | .object members, text => ∃ inner, Separated (memberSpellings members) inner ∧
      text = '\x7b' :: inner ++ ['\x7d']

def itemSpellings : List Document → List (List Char → Prop)
  | [] => []
  | item :: rest => Spells item :: itemSpellings rest

def memberSpellings : List (String × Document) → List (List Char → Prop)
  | [] => []
  | (key, value) :: rest => Member key (Spells value) :: memberSpellings rest

end

def IsText (document : Document) (text : String) : Prop :=
  Padded (Spells document) text.toList

end ProverInput.Json

/-!
Escapes of JSON strings. Quotes, backslashes and the control characters below the blank are
escaped; every other character, whatever its size, stands for itself.
-/

namespace ProverInput.Text

inductive LetterCase where
  | lower
  | upper
  deriving DecidableEq, Repr

def hexDigit (letters : LetterCase) (value : Nat) : Char :=
  match letters with
  | .lower => Nat.digitChar value
  | .upper => (Nat.digitChar value).toUpper

def escapeChar (letters : LetterCase) (c : Char) : List Char :=
  match c with
  | '"' => ['\\', '"']
  | '\\' => ['\\', '\\']
  | '\x08' => ['\\', 'b']
  | '\x0c' => ['\\', 'f']
  | '\n' => ['\\', 'n']
  | '\r' => ['\\', 'r']
  | '\t' => ['\\', 't']
  | c =>
    if c.toNat < 0x20 then
      ['\\', 'u', '0', '0', hexDigit letters (c.toNat / 16), hexDigit letters (c.toNat % 16)]
    else [c]

def escape (letters : LetterCase) (text : List Char) : List Char :=
  text.flatMap (escapeChar letters)

def quoted (letters : LetterCase) (text : String) : List Char :=
  '"' :: escape letters text.toList ++ ['"']

end ProverInput.Text

import ProverInput.Text.Names
import ProverInput.Text.Numeral

/-!
Blocks of a chain, named by height or by tag. Two renderings are used: the argument of a JSON-RPC
call, where a height is hexadecimal, and the text shown to a reader, where it is decimal.
-/

namespace ProverInput

inductive BlockTag where
  | latest
  | earliest
  | pending
  | safe
  | finalized
  deriving DecidableEq, Repr

namespace BlockTag

def all : List BlockTag := [.latest, .earliest, .pending, .safe, .finalized]

def name : BlockTag → String
  | .latest => "latest"
  | .earliest => "earliest"
  | .pending => "pending"
  | .safe => "safe"
  | .finalized => "finalized"

def ofName? (text : String) : Option BlockTag :=
  all.find? (·.name = text)

/-- The name of the tag with a number. Any other number stands for the newest block. -/
def nameAt (number : Int) : String :=
  Text.nameAt (all.map name) latest.name number

end BlockTag

inductive BlockRef where
  | height (value : UInt64)
  | tag (named : BlockTag)
  deriving DecidableEq, Repr

inductive BlockError where
  | empty
  | tooLarge (text : String)
  | missingDigits (text : String)
  | badHexDigit (text : String)
  | unknown (text : String)
  deriving DecidableEq, Repr

def BlockError.message : BlockError → String
  | .empty => "empty block number"
  | .tooLarge text => "'" ++ text ++ "': value exceeds 64 bits"
  | .missingDigits text => "'" ++ text ++ "': missing digits"
  | .badHexDigit text => "'" ++ text ++ "': invalid hexadecimal digit"
  | .unknown text => "'" ++ text ++ "' is neither a block height nor one of "
      ++ ", ".intercalate (BlockTag.all.map BlockTag.name)

namespace BlockRef

instance : Inhabited BlockRef := ⟨.tag .latest⟩

def hexPart? : List Char → Option (List Char)
  | '0' :: 'x' :: digits => some digits
  | '0' :: 'X' :: digits => some digits
  | _ => none

def parseHex (text : String) (digits : List Char) : Except BlockError BlockRef :=
  match Numeral.readWord 16 digits with
  | .ok value => .ok (.height value)
  | .error .missing => .error (.missingDigits text)
  | .error .tooLarge => .error (.tooLarge text)
  | .error .malformed => .error (.badHexDigit text)

def parseDecimal (text : String) : Except BlockError BlockRef :=
  match Numeral.readWord 10 text.toList with
  | .ok value => .ok (.height value)
  | .error .tooLarge => .error (.tooLarge text)
  | .error _ => .error (.unknown text)

def parse (text : String) : Except BlockError BlockRef :=
  if text = "" then .error .empty
  else match BlockTag.ofName? text with
    | some named => .ok (.tag named)
    | none =>
      match hexPart? text.toList with
      | some digits => parseHex text digits
      | none => parseDecimal text

def rpcArgument : BlockRef → String
  | .height value => String.ofList ('0' :: 'x' :: Numeral.write 16 value.toNat)
  | .tag named => named.name

def text : BlockRef → String
  | .height value => String.ofList (Numeral.write 10 value.toNat)
  | .tag named => named.name

def height? : BlockRef → Option UInt64
  | .height value => some value
  | .tag _ => none

def tag? : BlockRef → Option BlockTag
  | .height _ => none
  | .tag named => some named

end BlockRef

end ProverInput

import ProverInput.Text.Numeral
import ProverInput.Text.Pieces

/-!
Numeric host addresses: dotted quads, and the written forms of IPv6 addresses.
-/

namespace ProverInput.Address

def isOctet (digits : List Char) : Bool :=
  !digits.isEmpty && digits.all Char.isDigit && (digits.head? != some '0' || digits.length = 1)
    && Numeral.value 10 digits ≤ 255

def isDottedQuad (text : List Char) : Bool :=
  let octets := Text.pieces '.' text
  octets.length = 4 && octets.all isOctet

def isGroup (digits : List Char) : Bool :=
  1 ≤ digits.length && digits.length ≤ 4 && digits.all (Numeral.isDigit 16)

/-- The number of 16-bit groups that colon separated text stands for; nothing when it is malformed.
A dotted quad may stand at the end for the last two groups. -/
def groupCount? : List (List Char) → Option Nat
  | [] => some 0
  | [last] => if isGroup last then some 1 else if isDottedQuad last then some 2 else none
  | group :: rest => if isGroup group then (groupCount? rest).map (· + 1) else none

def splitGroups (text : List Char) : List (List Char) :=
  if text.isEmpty then [] else Text.pieces ':' text

def cutDoubleColon? : List Char → Option (List Char × List Char)
  | ':' :: ':' :: after => some ([], after)
  | c :: rest => (cutDoubleColon? rest).map fun (before, after) => (c :: before, after)
  | [] => none

def isIPv6 (text : List Char) : Bool :=
  match cutDoubleColon? text with
  | none => groupCount? (splitGroups text) = some 8
  | some (before, after) =>
    match before.any (· = '.'), groupCount? (splitGroups before), groupCount? (splitGroups after) with
    | false, some left, some right => left + right ≤ 7
    | _, _, _ => false

end ProverInput.Address

/-!
Numerals of unsigned 64-bit words. The longest leading run of digits is read first, so a run that
is too large is reported as such whatever follows it.
-/

namespace ProverInput.Numeral

def digitValue (c : Char) : Option Nat :=
  if '0' ≤ c ∧ c ≤ '9' then some (c.toNat - '0'.toNat)
  else if 'a' ≤ c ∧ c ≤ 'z' then some (c.toNat - 'a'.toNat + 10)
  else if 'A' ≤ c ∧ c ≤ 'Z' then some (c.toNat - 'A'.toNat + 10)
  else none

def isDigit (base : Nat) (c : Char) : Bool :=
  (digitValue c).any (· < base)

def value (base : Nat) (digits : List Char) : Nat :=
  digits.foldl (fun total c => total * base + (digitValue c).getD 0) 0

inductive Fault where
  | missing
  | tooLarge
  | malformed
  deriving DecidableEq, Repr

def readWord (base : Nat) (text : List Char) : Except Fault UInt64 :=
  let run := text.takeWhile (isDigit base)
  if text = [] then .error .missing
  else if UInt64.size ≤ value base run then .error .tooLarge
  else if run ≠ text then .error .malformed
  else .ok (UInt64.ofNat (value base run))

def write (base : Nat) (number : Nat) : List Char :=
  Nat.toDigits base number

def writeInt (number : Int) : List Char :=
  if number < 0 then '-' :: write 10 number.natAbs else write 10 number.natAbs

end ProverInput.Numeral

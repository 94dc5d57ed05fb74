import ProverInput.Text.Escape
import ProverInput.Text.Numeral
import ProverInput.Tree.Basic

/-!
Trees written as JSON, either in one line without blanks or indented, one member a line.
-/

namespace ProverInput.Tree

def lineBreak (indent depth : Nat) : List Char :=
  if indent = 0 then [] else '\n' :: List.replicate (indent * depth) ' '

def colon (indent : Nat) : List Char :=
  if indent = 0 then [':'] else [':', ' ']

mutual

def write (indent depth : Nat) : Tree → List Char
  | .null => ['n', 'u', 'l', 'l']
  | .int value => Numeral.writeInt value.toInt
  | .text value => Text.quoted .lower value
  | .object [] => ['\x7b', '\x7d']
  | .object (field :: rest) =>
    '\x7b' :: [','].intercalate (writeMembers indent (depth + 1) (field :: rest))
      ++ lineBreak indent depth ++ ['\x7d']

def writeMembers (indent depth : Nat) : List (String × Tree) → List (List Char)
  | [] => []
  | (key, child) :: rest =>
    (lineBreak indent depth ++ Text.quoted .lower key ++ colon indent ++ write indent depth child)
      :: writeMembers indent depth rest

end

/-- The tree as JSON text. An indent of zero or less gives a single line. -/
def json (tree : Tree) (indent : Int) : String :=
  String.ofList (tree.write indent.toNat 0)

end ProverInput.Tree

/-!
Text as it is reported to a user. A message ends before its first NUL character, an error shows
its code in brackets, and columns are padded with blanks.
-/

namespace ProverInput.Text

def beforeNul (text : String) : String :=
  String.ofList (text.toList.takeWhile (· != '\x00'))

def headline (code text : String) : String :=
  beforeNul (if code = "" then text else "[" ++ code ++ "] " ++ text)

def padRight (width : Nat) (text : String) : String :=
  text ++ String.ofList (List.replicate (width - text.length) ' ')

def orElse (text fallback : String) : String :=
  if text = "" then fallback else text

end ProverInput.Text

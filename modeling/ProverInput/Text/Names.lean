/-!
Names of the members of an enumeration, looked up by number.
-/

namespace ProverInput.Text

def nameAt (names : List String) (fallback : String) (number : Int) : String :=
  if number < 0 then fallback else names.getD number.toNat fallback

end ProverInput.Text

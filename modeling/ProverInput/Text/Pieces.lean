/-!
Splitting a text at a separator. The pieces between separators are kept even when they are empty,
so there is always at least one.
-/

namespace ProverInput.Text

def pieces (separator : Char) : List Char → List (List Char)
  | [] => [[]]
  | c :: rest =>
    if c = separator then [] :: pieces separator rest
    else match pieces separator rest with
      | [] => [[c]]
      | piece :: later => (c :: piece) :: later

def cut (separator : Char) (text : List Char) : List Char × Option (List Char) :=
  match text.dropWhile (· != separator) with
  | [] => (text, none)
  | _ :: after => (text.takeWhile (· != separator), some after)

end ProverInput.Text

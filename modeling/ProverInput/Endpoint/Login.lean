import ProverInput.Text.Pieces

/-!
The user part of an authority: a user, a password after the first colon and, for the schemes of
mail, options after the first semicolon.
-/

namespace ProverInput

structure Login where
  user : List Char := []
  password : List Char := []
  options : List Char := []
  deriving DecidableEq, Repr

namespace Login

def optionSchemes : List String := ["imap", "imaps", "pop3", "pop3s", "smtp", "smtps"]

def isMark (hasOptions : Bool) (c : Char) : Bool :=
  c = ':' || (hasOptions && c = ';')

/-- Password and options may come in either order, each ending at the mark of the other. -/
def read (hasOptions : Bool) (text : List Char) : Login :=
  let user := text.takeWhile (!isMark hasOptions ·)
  match text.dropWhile (!isMark hasOptions ·) with
  | [] => { user }
  | ':' :: rest =>
    if hasOptions then
      let (password, options) := Text.cut ';' rest
      { user, password, options := options.getD [] }
    else { user, password := rest }
  | _ :: rest =>
    let (options, password) := Text.cut ':' rest
    { user, password := password.getD [], options }

end Login

end ProverInput

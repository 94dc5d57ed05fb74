import ProverInput.Endpoint.Address
import ProverInput.Endpoint.Library
import ProverInput.Endpoint.Login

/-!
A URL library for hosts that are written out: it decodes and rewrites nothing. Parts of a URL are
checked from left to right, except that the text after the authority is checked before the authority
itself and the port before the host.
-/

namespace ProverInput

inductive UrlError where
  | badScheme
  | slashCount
  | noHost
  | badFileUrl
  | badFragment
  | badQuery
  | badPath
  | badUser
  | badPassword
  | badOptions
  | badIPv6
  | badPort
  | badHost
  deriving DecidableEq, Repr

def UrlError.reason : UrlError → String
  | .badScheme => "Bad scheme"
  | .slashCount => "Unsupported number of slashes following scheme"
  | .noHost => "No host part in the URL"
  | .badFileUrl => "Bad file:// URL"
  | .badFragment => "Bad fragment"
  | .badQuery => "Bad query"
  | .badPath => "Bad path"
  | .badUser => "Bad user"
  | .badPassword => "Bad password"
  | .badOptions => "Bad login part"
  | .badIPv6 => "Bad IPv6 address"
  | .badPort => "Port number was not a decimal number between 0 and 65535"
  | .badHost => "Bad hostname"

namespace Url

def isSchemeChar (c : Char) : Bool :=
  c.isAlphanum || c = '+' || c = '-' || c = '.'

/-- The scheme in lower case, and what follows its colon. A scheme has at most forty characters. -/
def splitScheme (url : List Char) : Except UrlError (List Char × List Char) :=
  let scheme := url.takeWhile isSchemeChar
  match url.dropWhile isSchemeChar with
  | ':' :: rest =>
    if 1 ≤ scheme.length ∧ scheme.length ≤ 40 then .ok (scheme.map Char.toLower, rest)
    else .error .badScheme
  | _ => .error .badScheme

def dropSlashes (text : List Char) : Except UrlError (List Char) :=
  match text with
  | '/' :: '/' :: '/' :: '/' :: _ => .error .slashCount
  | '/' :: '/' :: '/' :: rest => .ok rest
  | '/' :: '/' :: rest => .ok rest
  | '/' :: rest => .ok rest
  | _ => .error .slashCount

def isBlank (c : Char) : Bool :=
  c.toNat ≤ 0x20 || c.toNat = 0x7f

/-- Checks fragment, query and path. A path of a single character is not looked at. -/
def checkTail (text : List Char) : Except UrlError Unit :=
  let (beforeFragment, fragment) := Text.cut '#' text
  let (path, query) := Text.cut '?' beforeFragment
  if (fragment.getD []).any isBlank then .error .badFragment
  else if (query.getD []).any isBlank then .error .badQuery
  else if 1 < path.length && path.any isBlank then .error .badPath
  else .ok ()

def splitLogin (authority : List Char) : List Char × List Char :=
  match Text.cut '@' authority with
  | (login, some place) => (login, place)
  | (place, none) => ([], place)

def checkLogin (login : Login) : Except UrlError Unit :=
  if login.user.any isBlank then .error .badUser
  else if login.password.any isBlank then .error .badPassword
  else if login.options.any isBlank then .error .badOptions
  else .ok ()

def readPort (digits : List Char) : Except UrlError (Option (List Char)) :=
  if digits.isEmpty then .ok none
  else if digits.all Char.isDigit && Numeral.value 10 digits < UInt16.size then
    .ok (some (Numeral.write 10 (Numeral.value 10 digits)))
  else .error .badPort

def splitPort (text : List Char) : Except UrlError (List Char × Option (List Char)) :=
  match text with
  | '[' :: _ =>
    match Text.cut ']' text with
    | (_, none) => .error .badIPv6
    | (address, some []) => .ok (address ++ [']'], none)
    | (address, some (':' :: digits)) => do return (address ++ [']'], ← readPort digits)
    | (_, some _) => .error .badPort
  | _ =>
    match Text.cut ':' text with
    | (host, none) => .ok (host, none)
    | (host, some digits) => do return (host, ← readPort digits)

def isDelimiter (c : Char) : Bool :=
  c ∈ ['/', ':', '#', '?', '!', '@', '\x7b', '\x7d', '[', ']', '\\', '$', '\'', '"', '^', '\x60', '*',
    '<', '>', '=', ';', ',', '+', '&', '(', ')']

/-- Blanks are looked for in every host, also between the brackets of an IPv6 address. -/
def checkHost (host : List Char) : Except UrlError Unit :=
  if host.any isBlank then .error .badHost
  else match host with
    | [] => .error .noHost
    | '[' :: address =>
      if Address.isIPv6 address.dropLast then .ok () else .error .badIPv6
    | _ => if host.any isDelimiter then .error .badHost else .ok ()

def isEnd (c : Char) : Bool :=
  c = '/' || c = '?' || c = '#'

def readAuthority (scheme : String) (rest : List Char) :
    Except UrlError (List Char × Option (List Char)) := do
  let text ← dropSlashes rest
  let authority := text.takeWhile (!isEnd ·)
  if authority.isEmpty then throw .noHost
  checkTail (text.dropWhile (!isEnd ·))
  let (login, place) := splitLogin authority
  checkLogin (Login.read (scheme ∈ Login.optionSchemes) login)
  let (host, port) ← splitPort place
  checkHost host
  return (host, port)

def isDriveLetter : List Char → Bool
  | c :: mark :: rest => c.isAlpha && (mark = ':' || mark = '|')
      && (rest.isEmpty || rest.head? = some '/' || rest.head? = some '\\')
  | _ => false

/-- Checks a file URL, from what follows the colon of its scheme, which must take more than one
byte. It may name this machine as its host, and no drive. -/
def checkFile (rest : List Char) : Except UrlError Unit :=
  let path? : Option (List Char) := match rest with
    | '/' :: '/' :: path =>
      if path.head? = some '/' || isDriveLetter path then some path
      else if "localhost/".toList.isPrefixOf (path.map Char.toLower)
          || "127.0.0.1/".toList.isPrefixOf path then some (path.drop 9)
      else none
    | path => some path
  match path? with
  | none => .error .badFileUrl
  | some path =>
    if (String.ofList rest).utf8ByteSize ≤ 1 || isDriveLetter path
        || (path.head? = some '/' && isDriveLetter path.tail) then .error .badFileUrl
    else checkTail path

def read (text : List Char) : Except UrlError UrlParts := do
  let (scheme, rest) ← splitScheme text
  let scheme := String.ofList scheme
  if scheme = "file" then
    checkFile rest
    return { scheme }
  let (host, port) ← readAuthority scheme rest
  return { scheme, host := String.ofList host, port := port.map String.ofList }

end Url

def UrlLibrary.plain : UrlLibrary where
  read text := match Url.read text.toList with
    | .error cause => .error cause.reason
    | .ok parts => .ok parts

end ProverInput

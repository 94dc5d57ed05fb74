import ProverInput.Proofs.Endpoint.Host

/-!
The rules by which a library reads URLs, as far as endpoints depend on them. They speak of URLs as
they are written: every text that a library accepts is put together from parts, and the parts
determine what it reads.
-/

namespace ProverInput

/-- The parts of a URL as they stand in its text, from left to right. The tail is path, query and
fragment. -/
structure WrittenUrl where
  scheme : List Char
  slashes : Nat
  user : Option (List Char) := none
  host : List Char
  port : Option (List Char) := none
  tail : List Char := []

namespace WrittenUrl

open Url

def login : Option (List Char) → List Char
  | none => []
  | some user => user ++ ['@']

def portSuffix : Option (List Char) → List Char
  | none => []
  | some digits => ':' :: digits

def authority (url : WrittenUrl) : List Char :=
  login url.user ++ (url.host ++ portSuffix url.port)

def text (url : WrittenUrl) : List Char :=
  url.scheme ++ ':' :: (List.replicate url.slashes '/' ++ (url.authority ++ url.tail))

/-- A port that is written in decimal digits, perhaps with zeros before them, or in none. -/
def PortWritten (port : Option (List Char)) : Prop :=
  ∀ digits, port = some digits →
    (∀ c ∈ digits, c.isDigit = true) ∧ Numeral.value 10 digits ≤ 65535

structure WellFormed (url : WrittenUrl) : Prop where
  scheme : ∀ c ∈ url.scheme, isSchemeChar c = true
  scheme_length : 1 ≤ url.scheme.length ∧ url.scheme.length ≤ 40
  slashes : 1 ≤ url.slashes ∧ url.slashes ≤ 3
  user : ∀ user, url.user = some user → Printable user ∧ ∀ c ∈ user, c ∉ marks
  host : (∀ c ∈ url.host, c ∉ marks) ∧ Enclosed url.host
  port : PortWritten url.port
  tail : Printable url.tail ∧ ∀ c ∈ url.tail.head?, isEnd c = true

/-- A port is read as a number and given without superfluous zeros. No digits are no port. -/
def portRead (port : Option (List Char)) : Option (List Char) :=
  (port.filter (· ≠ [])).map fun digits => Numeral.write 10 (Numeral.value 10 digits)

def parts (url : WrittenUrl) (host : List Char) : UrlParts where
  scheme := String.ofList (url.scheme.map Char.toLower)
  host := String.ofList host
  port := (portRead url.port).map String.ofList

theorem portSuffix_unmarked {written : Option (List Char)} (proper : PortWritten written) :
    ∀ c ∈ portSuffix written, c ∉ marks := by
  cases written with
  | none => simp [portSuffix]
  | some digits =>
      intro c member
      rcases List.mem_cons.mp member with rfl | later
      · decide
      · exact not_mem_marks_of_isDigit ((proper digits rfl).1 c later)

theorem WellFormed.place_unmarked {url : WrittenUrl} (wellFormed : url.WellFormed) :
    ∀ c ∈ url.host ++ portSuffix url.port, c ∉ marks := by
  intro c member
  rcases List.mem_append.mp member with inHost | inPort
  · exact wellFormed.host.1 c inHost
  · exact portSuffix_unmarked wellFormed.port c inPort

theorem WellFormed.authority_unended {url : WrittenUrl}
    (wellFormed : url.WellFormed) : ∀ c ∈ url.authority, isEnd c = false := by
  intro c member
  rcases List.mem_append.mp member with inLogin | inPlace
  · cases user : url.user with
    | none => simp [user, login] at inLogin
    | some written =>
        rw [user, login, List.mem_append, List.mem_singleton] at inLogin
        rcases inLogin with inUser | rfl
        · exact not_isEnd_of_not_mem_marks ((wellFormed.user written user).2 c inUser)
        · decide
  · exact not_isEnd_of_not_mem_marks (wellFormed.place_unmarked c inPlace)

theorem WellFormed.nul_not_mem {url : WrittenUrl} (wellFormed : url.WellFormed)
    (isHost : IsHost url.host) : '\x00' ∉ url.text := by
  have blank : isBlank '\x00' = true := by decide
  have printable {text : List Char} (clean : Printable text) : '\x00' ∉ text := by
    intro member
    rw [clean _ member] at blank
    contradiction
  simp only [text, authority, List.mem_append, List.mem_cons, List.mem_replicate, not_or]
  refine ⟨?scheme, by decide, by simp, ⟨?user, ?host, ?port⟩, printable wellFormed.tail.1⟩
  case scheme =>
    intro member
    exact absurd (wellFormed.scheme _ member) (by decide)
  case user =>
    cases user : url.user with
    | none => simp [login]
    | some written => simpa [login] using printable (wellFormed.user written user).1
  case host =>
    intro member
    exact absurd (isHost.clean _ member).1 (by decide)
  case port =>
    cases port : url.port with
    | none => simp [portSuffix]
    | some digits =>
        intro member
        rcases List.mem_cons.mp member with colon | later
        · contradiction
        · exact absurd ((wellFormed.port digits port).1 _ later) (by decide)

theorem portRead_cases {port : Option (List Char)} (proper : PortWritten port) :
    portRead port = none ∨ ∃ number ≤ 65535, portRead port = some (Numeral.write 10 number) := by
  cases port with
  | none => exact Or.inl rfl
  | some digits =>
      cases digits with
      | nil => exact Or.inl rfl
      | cons c later => exact Or.inr ⟨_, (proper _ rfl).2, rfl⟩

end WrittenUrl

/-- The rules of libcurl. Scheme, user and port are always read in the same way. A host may be
decoded or rewritten, as `127.1` is to `127.0.0.1`, and is a proper host then; the host of a URL
that is taken literally is given as it stands. URLs of files have rules of their own. -/
structure UrlLibrary.FollowsRules (urls : UrlLibrary) (literal : WrittenUrl → Prop) : Prop where
  reads_written : ∀ text parts, urls.read text = .ok parts → parts.scheme ≠ some "file" →
    ∃ (url : WrittenUrl) (host : List Char), url.WellFormed ∧ text.toList = url.text ∧
      Url.IsHost host ∧ parts = url.parts host
  accepts_literal : ∀ url : WrittenUrl, url.WellFormed → Url.IsHost url.host → literal url →
    (url.parts url.host).scheme ≠ some "file" →
    urls.read (String.ofList url.text) = .ok (url.parts url.host)

end ProverInput

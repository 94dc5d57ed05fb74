import ProverInput.Proofs.DryRun.Procedures
import ProverInput.Proofs.Endpoint.Plain
import ProverInput.Proofs.Text.Numeral
import ProverInput.Proofs.Text.Reported

/-!
The normal form of endpoints. Whatever URL an endpoint was read from, its scheme, host and port
written one after the other name the same endpoint again, unless the library rewrites the host.
-/

namespace ProverInput.Endpoint

open Url

variable {urls : UrlLibrary} {literal : WrittenUrl → Prop} {endpoint : Endpoint}

def url (endpoint : Endpoint) : String :=
  endpoint.scheme ++ "://" ++ endpoint.host
    ++ (if endpoint.portText = "" then "" else ":" ++ endpoint.portText)

/-- Nothing of an endpoint could be written in another way or taken for another part of a URL. -/
structure Normal (endpoint : Endpoint) : Prop where
  scheme : endpoint.scheme ∈ ["http", "https", "ws", "wss"]
  host_nonempty : endpoint.host ≠ ""
  host_bare : ∀ c ∈ endpoint.host.toList, 0x20 < c.toNat ∧ c ∉ ['/', '?', '#', '@']
  host : IsHost endpoint.host.toList
  port : endpoint.portText = "" ∨ (∀ c ∈ endpoint.portText.toList, c.isDigit = true) ∧
    Numeral.value 10 endpoint.portText.toList ≤ 65535 ∧
      (endpoint.portText.toList.head? = some '0' → endpoint.portText = "0")

theorem parse_eq_ok_iff {url : String} :
    parse url urls = .ok endpoint ↔ ∃ parts, urls.read (Text.beforeNul url) = .ok parts ∧
      endpoint = ofParts parts ∧ endpoint.scheme ∈ supportedSchemes ∧ endpoint.host ≠ "" := by
  unfold parse
  cases urls.read (Text.beforeNul url) with
  | error reason => simp
  | ok parts =>
      simp only [Except.ok.injEq, exists_eq_left']
      by_cases supported : (ofParts parts).scheme ∈ supportedSchemes
      · by_cases hosted : (ofParts parts).host = ""
        · simp only [supported, hosted, not_true_eq_false, if_true, if_false]
          refine ⟨nofun, ?_⟩
          rintro ⟨rfl, _, nonempty⟩
          contradiction
        · simp only [supported, hosted, not_true_eq_false, if_false, Except.ok.injEq]
          refine ⟨?_, fun given => given.1.symm⟩
          rintro rfl
          exact ⟨rfl, supported, hosted⟩
      · simp only [supported, not_false_eq_true, if_true]
        refine ⟨nofun, ?_⟩
        rintro ⟨rfl, unsupported, _⟩
        contradiction

structure Read (endpoint : Endpoint) : Prop where
  scheme : endpoint.scheme ∈ supportedSchemes
  host : IsHost endpoint.host.toList
  port : endpoint.portText = "" ∨
    ∃ number ≤ 65535, endpoint.portText = String.ofList (Numeral.write 10 number)

theorem remote_of_supported {parts : UrlParts}
    (supported : (ofParts parts).scheme ∈ supportedSchemes) : parts.scheme ≠ some "file" := by
  have unsupported : "file" ∉ supportedSchemes := by decide
  intro file
  simp only [ofParts, file, Option.getD_some] at supported
  contradiction

theorem read_of_parse (rules : urls.FollowsRules literal) {url : String}
    (accepted : parse url urls = .ok endpoint) : endpoint.Read := by
  obtain ⟨parts, read, rfl, supported, _⟩ := parse_eq_ok_iff.mp accepted
  obtain ⟨written, host, wellFormed, _, isHost, rfl⟩ :=
    rules.reads_written _ _ read (remote_of_supported supported)
  refine ⟨supported, by simpa [ofParts, WrittenUrl.parts] using isHost, ?_⟩
  simp only [ofParts, WrittenUrl.parts]
  rcases WrittenUrl.portRead_cases wellFormed.port with none | ⟨number, bounded, read⟩
  · exact Or.inl (by rw [none]; rfl)
  · exact Or.inr ⟨number, bounded, by rw [read]; rfl⟩

theorem Read.normal (read : endpoint.Read) : endpoint.Normal where
  scheme := read.scheme
  host_nonempty := by simpa using read.host.ne_nil
  host_bare := read.host.clean
  host := read.host
  port := by
    rcases read.port with empty | ⟨number, bounded, written⟩
    · exact Or.inl empty
    · obtain ⟨denoted, digits⟩ := Numeral.value_write (by decide : 1 < 10) (by decide) number
      rw [written, String.toList_ofList]
      refine Or.inr ⟨fun c member => Numeral.isDigit_of_decimal (digits c member), ?_, ?_⟩
      · rwa [denoted]
      · intro zero
        rw [Numeral.write_of_head_eq_zero (by decide) (by decide) zero]

def written (endpoint : Endpoint) : WrittenUrl where
  scheme := endpoint.scheme.toList
  slashes := 2
  host := endpoint.host.toList
  port := if endpoint.portText = "" then none else some endpoint.portText.toList

theorem toList_url (endpoint : Endpoint) : endpoint.url.toList = endpoint.written.text := by
  have mark : "://".toList = [':', '/', '/'] := rfl
  rw [url, written, WrittenUrl.text]
  by_cases empty : endpoint.portText = ""
  · simp [empty, mark, WrittenUrl.authority, WrittenUrl.login, WrittenUrl.portSuffix]
  · simp [empty, mark, WrittenUrl.authority, WrittenUrl.login, WrittenUrl.portSuffix]

theorem scheme_written {scheme : String} (supported : scheme ∈ supportedSchemes) :
    scheme.toList.all isSchemeChar = true ∧ 1 ≤ scheme.toList.length ∧
      scheme.toList.length ≤ 40 ∧ scheme.toList.map Char.toLower = scheme.toList := by
  simp only [supportedSchemes, List.mem_cons, List.not_mem_nil, or_false] at supported
  rcases supported with rfl | rfl | rfl | rfl <;> decide

theorem Read.port_written (read : endpoint.Read) :
    WrittenUrl.PortWritten endpoint.written.port ∧
      WrittenUrl.portRead endpoint.written.port = endpoint.written.port := by
  rw [written]
  rcases read.port with empty | ⟨number, bounded, same⟩
  · rw [if_pos empty]
    exact ⟨nofun, rfl⟩
  · obtain ⟨denoted, digits⟩ := Numeral.value_write (by decide : 1 < 10) (by decide) number
    have nonempty : endpoint.portText ≠ "" := by
      rw [same]
      simpa using Numeral.write_ne_nil
    rw [if_neg nonempty, same, String.toList_ofList]
    constructor
    · rintro _ ⟨⟩
      exact ⟨fun c member => Numeral.isDigit_of_decimal (digits c member), by rwa [denoted]⟩
    · simp [WrittenUrl.portRead, Option.filter, Numeral.write_ne_nil, denoted]

theorem Read.wellFormed (read : endpoint.Read) : endpoint.written.WellFormed where
  scheme := List.all_eq_true.mp (scheme_written read.scheme).1
  scheme_length := ⟨(scheme_written read.scheme).2.1, (scheme_written read.scheme).2.2.1⟩
  slashes := ⟨Nat.le_succ 1, Nat.le_succ 2⟩
  user := nofun
  host := ⟨fun c member => (read.host.clean c member).2, read.host.enclosed⟩
  port := read.port_written.1
  tail := ⟨nofun, nofun⟩

theorem Read.parts_written (read : endpoint.Read) :
    endpoint.written.parts endpoint.host.toList =
      ⟨endpoint.scheme, endpoint.host, endpoint.written.port.map String.ofList⟩ := by
  have lower : endpoint.written.scheme.map Char.toLower = endpoint.scheme.toList :=
    (scheme_written read.scheme).2.2.2
  rw [WrittenUrl.parts, read.port_written.2, lower, String.ofList_toList, String.ofList_toList]

theorem Read.ofParts_written (read : endpoint.Read) :
    ofParts (endpoint.written.parts endpoint.host.toList) = endpoint := by
  rw [read.parts_written, ofParts, written]
  obtain ⟨scheme, host, portText⟩ := endpoint
  by_cases empty : portText = ""
  · simp [empty]
  · simp [empty]

theorem Read.parse_url (read : endpoint.Read) (rules : urls.FollowsRules literal)
    (literally : literal endpoint.written) : parse endpoint.url urls = .ok endpoint := by
  have clean : '\x00' ∉ endpoint.url.toList := by
    rw [toList_url]
    exact read.wellFormed.nul_not_mem read.host
  have remote : (endpoint.written.parts endpoint.host.toList).scheme ≠ some "file" := by
    apply remote_of_supported
    rw [read.ofParts_written]
    exact read.scheme
  rw [parse_eq_ok_iff, Text.beforeNul_eq_self clean]
  refine ⟨_, ?_, read.ofParts_written.symm, read.scheme, read.normal.host_nonempty⟩
  rw [← String.ofList_toList (s := endpoint.url), toList_url]
  exact rules.accepts_literal endpoint.written read.wellFormed read.host literally remote

theorem parse_url_of_plain {url : String} (accepted : parse url .plain = .ok endpoint) :
    parse endpoint.url .plain = .ok endpoint := by
  have read := read_of_parse UrlLibrary.plain_followsRules accepted
  refine read.parse_url UrlLibrary.plain_followsRules ?_
  obtain ⟨parts, given, rfl, supported, _⟩ := parse_eq_ok_iff.mp accepted
  obtain ⟨written, _, _, printable, _, rfl⟩ := exists_written_of_read
    (UrlLibrary.plain_read_eq_ok_iff.mp given) (remote_of_supported supported)
  simpa [Endpoint.written, ofParts, WrittenUrl.parts] using printable

/-- Take a library that follows the rules. A URL that is accepted gives an endpoint in normal form,
and the URL of the endpoint gives it again when it is taken literally, as the plain library takes
all of them. A rejected URL is reported with the reason, up to a NUL character, and no service is
made for it. -/
theorem parse_normalizes (rules : urls.FollowsRules literal) (url : String) :
    (∀ endpoint, parse url urls = .ok endpoint → endpoint.Normal ∧
      (literal endpoint.written → parse endpoint.url urls = .ok endpoint)) ∧
    (∀ endpoint, parse url .plain = .ok endpoint → parse endpoint.url .plain = .ok endpoint) ∧
    ∀ cause, parse url urls = .error cause →
      Text.ShownAs ("invalid chain RPC URL '" ++ url ++ "': " ++ cause.reason)
        (Fault.badEndpoint url cause).message ∧
      ∀ configuration : Configuration, configuration.chain.rpcUrl = url → url ≠ "" →
        DryRun.ofConfiguration urls configuration = .error (.badEndpoint url cause) ∧
        ∀ run : Run DryRun, run.called (DryRun.create urls configuration)
          = (.error (.badEndpoint url cause), run) := by
  refine ⟨?accepted, fun _ => parse_url_of_plain, ?rejected⟩
  case accepted =>
    intro endpoint accepted
    have read := read_of_parse rules accepted
    exact ⟨read.normal, read.parse_url rules⟩
  case rejected =>
    intro cause rejected
    refine ⟨Text.shownAs_beforeNul _, ?_⟩
    rintro configuration rfl given
    have failed : DryRun.ofConfiguration urls configuration
        = .error (.badEndpoint configuration.chain.rpcUrl cause) := by
      simp only [DryRun.ofConfiguration, given, if_false, rejected]
    refine ⟨failed, ?_⟩
    intro run
    rw [DryRun.called_create, failed]

/-- A bracketed host after a user, an upper-case scheme and a padded port; and a URL that is
reported up to the character that ends it. -/
theorem parse_normalizes_padded :
    let endpoint : Endpoint := ⟨"http", "[::1]", "8080"⟩
    let cause : EndpointError := .unsupportedScheme "ftp"
    (UrlLibrary.plain.FollowsRules fun url => Printable url.host) ∧
      Printable endpoint.written.host ∧
      parse "HTTP:///me:pw@[::1]:008080/a?b#c" .plain = .ok endpoint ∧ endpoint.Normal ∧
      endpoint.url = "http://[::1]:8080" ∧ parse endpoint.url .plain = .ok endpoint ∧
      parse "ftp://a\x00b" .plain = .error cause ∧
      (Fault.badEndpoint "ftp://a\x00b" cause).message = "invalid chain RPC URL 'ftp://a" ∧
      DryRun.ofConfiguration .plain { chain.rpcUrl := "ftp://a\x00b" }
        = .error (.badEndpoint "ftp://a\x00b" cause) := by
  intro endpoint cause
  have rules := UrlLibrary.plain_followsRules
  have printable : Printable endpoint.written.host :=
    any_isBlank_eq_false_iff.mp (by decide)
  have accepted : parse "HTTP:///me:pw@[::1]:008080/a?b#c" .plain = .ok endpoint := by
    decide +kernel
  have rejected : parse "ftp://a\x00b" .plain = .error cause := by decide +kernel
  obtain ⟨normal, again⟩ := (parse_normalizes rules _).1 endpoint accepted
  obtain ⟨_, unmade⟩ := (parse_normalizes rules _).2.2 cause rejected
  exact ⟨rules, printable, accepted, normal, by decide +kernel, again printable, rejected,
    by decide +kernel, (unmade { chain.rpcUrl := "ftp://a\x00b" } rfl (by decide)).1⟩

end ProverInput.Endpoint

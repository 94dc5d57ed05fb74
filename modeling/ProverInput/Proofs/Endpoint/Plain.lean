import ProverInput.Proofs.Endpoint.Rules
import ProverInput.Proofs.Text.Pieces

/-!
The plain library follows the rules. Each of its functions undoes one step of writing a URL, so what
it accepts is exactly what can be written.
-/

namespace ProverInput

namespace Url

variable {text rest tail : List Char}

theorem bind_eq_ok {ε α β : Type} {first : Except ε α} {next : α → Except ε β} {result : β}
    (passed : (first >>= next) = .ok result) :
    ∃ value, first = .ok value ∧ next value = .ok result := by
  cases first with
  | error cause => contradiction
  | ok value => exact ⟨value, rfl, passed⟩

theorem splitScheme_eq_ok_iff {lower : List Char} :
    splitScheme text = .ok (lower, rest) ↔ ∃ scheme, text = scheme ++ ':' :: rest ∧
      lower = scheme.map Char.toLower ∧ (∀ c ∈ scheme, isSchemeChar c = true) ∧
      1 ≤ scheme.length ∧ scheme.length ≤ 40 := by
  constructor
  · intro split
    have whole := List.takeWhile_append_dropWhile (p := isSchemeChar) (l := text)
    simp only [splitScheme] at split
    split at split
    · rename_i later after
      split at split
      · rename_i bounded
        obtain ⟨rfl, rfl⟩ := Prod.mk.inj (Except.ok.inj split)
        rw [after] at whole
        exact ⟨_, whole.symm, rfl, List.all_eq_true.mp List.all_takeWhile, bounded⟩
      · contradiction
    · contradiction
  · rintro ⟨scheme, rfl, rfl, proper, bounded⟩
    have colon : isSchemeChar ':' = false := by decide
    simp only [splitScheme, List.takeWhile_append_of_pos proper,
      List.dropWhile_append_of_pos proper, List.takeWhile_cons, List.dropWhile_cons, colon,
      Bool.false_eq_true, if_false, List.append_nil, bounded, and_self, if_true]

theorem exists_slashes_of_dropSlashes (dropped : dropSlashes rest = .ok text) :
    ∃ count, (1 ≤ count ∧ count ≤ 3) ∧ rest = List.replicate count '/' ++ text := by
  unfold dropSlashes at dropped
  split at dropped
  · contradiction
  · obtain rfl := Except.ok.inj dropped
    exact ⟨3, by decide, rfl⟩
  · obtain rfl := Except.ok.inj dropped
    exact ⟨2, by decide, rfl⟩
  · obtain rfl := Except.ok.inj dropped
    exact ⟨1, by decide, rfl⟩
  · contradiction

theorem dropSlashes_replicate {count : Nat} (bounded : 1 ≤ count ∧ count ≤ 3)
    (unslashed : text.head? ≠ some '/') :
    dropSlashes (List.replicate count '/' ++ text) = .ok text := by
  obtain rfl | rfl | rfl : count = 1 ∨ count = 2 ∨ count = 3 := by omega
  all_goals
    cases text with
    | nil => rfl
    | cons c later =>
        have noSlash : c ≠ '/' := by simpa using unslashed
        simp [List.replicate, dropSlashes, noSlash]

theorem span_append (unended : ∀ c ∈ text, isEnd c = false)
    (ended : ∀ c ∈ tail.head?, isEnd c = true) :
    (text ++ tail).takeWhile (!isEnd ·) = text ∧ (text ++ tail).dropWhile (!isEnd ·) = tail := by
  have kept : ∀ c ∈ text, (!isEnd c) = true := by
    intro c member
    simp [unended c member]
  rw [List.takeWhile_append_of_pos kept, List.dropWhile_append_of_pos kept]
  cases tail with
  | nil => simp
  | cons c later => simp [ended c rfl]

theorem printable_append {first second : List Char} :
    Printable (first ++ second) ↔ Printable first ∧ Printable second :=
  List.forall_mem_append

theorem printable_cons {c : Char} (bare : isBlank c = false) :
    Printable (c :: rest) ↔ Printable rest := by
  simp [Printable, bare]

theorem printable_cut_iff {separator : Char} (bare : isBlank separator = false)
    (text : List Char) :
    Printable text ↔ Printable (Text.cut separator text).1 ∧
      Printable ((Text.cut separator text).2.getD []) := by
  rcases Text.cut_cases separator text with ⟨_, cut⟩ | ⟨before, after, _, rfl, cut⟩
  · rw [cut]
    simp [Printable]
  · rw [cut, printable_append, printable_cons bare]
    rfl

theorem head?_cut {separator c : Char} (first : (Text.cut separator text).1.head? = some c) :
    text.head? = some c := by
  rcases Text.cut_cases separator text with ⟨_, cut⟩ | ⟨before, after, _, rfl, cut⟩
  · rwa [cut] at first
  · rw [cut] at first
    rw [List.head?_append, first]
    rfl

theorem not_isBlank_of_isEnd {c : Char} (ends : isEnd c = true) : isBlank c = false := by
  simp only [isEnd, Bool.or_eq_true, decide_eq_true_eq] at ends
  rcases ends with (rfl | rfl) | rfl <;> decide

/-- A path of a single character is the one that ends the authority, and no blank. -/
theorem printable_of_short {path : List Char} (short : ¬ 1 < path.length)
    (ended : ∀ c ∈ path.head?, isEnd c = true) : Printable path := by
  intro c member
  cases path with
  | nil => exact absurd member List.not_mem_nil
  | cons first later =>
      obtain rfl : later = [] := by simpa using short
      obtain rfl := List.mem_singleton.mp member
      exact not_isBlank_of_isEnd (ended c rfl)

theorem checkTail_eq_ok_iff (ended : ∀ c ∈ tail.head?, isEnd c = true) :
    checkTail tail = .ok () ↔ Printable tail := by
  rw [printable_cut_iff (by decide : isBlank '#' = false) tail,
    printable_cut_iff (by decide : isBlank '?' = false) (Text.cut '#' tail).1, checkTail]
  simp only
  have single (short : ¬ 1 < (Text.cut '?' (Text.cut '#' tail).1).1.length) :
      Printable (Text.cut '?' (Text.cut '#' tail).1).1 :=
    printable_of_short short fun c first => ended c (head?_cut (head?_cut first))
  generalize (Text.cut '?' (Text.cut '#' tail).1).1 = path at single
  generalize (Text.cut '?' (Text.cut '#' tail).1).2.getD [] = query
  generalize (Text.cut '#' tail).2.getD [] = fragment
  constructor
  · intro checked
    split at checked
    · contradiction
    · rename_i fragmentFine
      split at checked
      · contradiction
      · rename_i queryFine
        split at checked
        · contradiction
        · rename_i pathFine
          rw [Bool.not_eq_true, any_isBlank_eq_false_iff] at fragmentFine queryFine
          refine ⟨⟨?_, queryFine⟩, fragmentFine⟩
          by_cases long : 1 < path.length
          · simpa [long, Printable] using pathFine
          · exact single long
  · rintro ⟨⟨pathFine, queryFine⟩, fragmentFine⟩
    simp [any_isBlank_eq_false_iff.mpr pathFine, any_isBlank_eq_false_iff.mpr queryFine,
      any_isBlank_eq_false_iff.mpr fragmentFine]

theorem checkLogin_eq_ok_iff {login : Login} :
    checkLogin login = .ok () ↔
      Printable login.user ∧ Printable login.password ∧ Printable login.options := by
  simp only [← any_isBlank_eq_false_iff, checkLogin]
  cases login.user.any isBlank <;> cases login.password.any isBlank <;>
    cases login.options.any isBlank <;> simp

theorem checkLogin_read_eq_ok_iff (hasOptions : Bool) (text : List Char) :
    checkLogin (Login.read hasOptions text) = .ok () ↔ Printable text := by
  have whole := List.takeWhile_append_dropWhile (p := (!Login.isMark hasOptions ·)) (l := text)
  rw [checkLogin_eq_ok_iff, Login.read]
  generalize text.takeWhile (!Login.isMark hasOptions ·) = user at whole
  split
  · rename_i ended
    rw [ended, List.append_nil] at whole
    subst whole
    simp [Printable]
  · rename_i rest after
    rw [after] at whole
    rw [← whole, printable_append, printable_cons (by decide)]
    cases hasOptions with
    | true => simp only [if_true, ← printable_cut_iff (by decide : isBlank ';' = false) rest]
    | false => simp [Printable]
  · rename_i mark rest notColon after
    have marks : Login.isMark hasOptions mark = true := by
      have first := List.head?_dropWhile_not (!Login.isMark hasOptions ·) text
      simpa [after] using first
    have bare : isBlank mark = false := by
      simp only [Login.isMark, Bool.or_eq_true, Bool.and_eq_true, decide_eq_true_eq] at marks
      rcases marks with rfl | ⟨_, rfl⟩ <;> decide
    rw [after] at whole
    rw [← whole, printable_append, printable_cons bare,
      printable_cut_iff (by decide : isBlank ':' = false) rest]
    simp only [and_comm]

open WrittenUrl (login portSuffix portRead PortWritten)

variable {place host : List Char} {port : Option (List Char)}

theorem exists_login_of_splitLogin {authority : List Char}
    (unended : ∀ c ∈ authority, isEnd c = false) :
    ∃ user, authority = login user ++ (splitLogin authority).2 ∧ ∀ written, user = some written →
      written = (splitLogin authority).1 ∧ ∀ c ∈ written, c ∉ marks := by
  rcases Text.cut_cases '@' authority with ⟨_, cut⟩ | ⟨before, after, clean, same, cut⟩
  · rw [splitLogin, cut]
    exact ⟨none, rfl, nofun⟩
  · rw [splitLogin, cut]
    refine ⟨some before, by simpa [login] using same, ?_⟩
    rintro _ ⟨⟩
    refine ⟨rfl, ?_⟩
    intro c member marked
    rcases mem_marks_iff.mp marked with ends | rfl
    · have bare := unended c (same ▸ List.mem_append_left _ member)
      rw [bare] at ends
      contradiction
    · exact clean member

theorem splitLogin_append {user : Option (List Char)}
    (unmarked : ∀ written, user = some written → '@' ∉ written) (anonymous : '@' ∉ place) :
    splitLogin (login user ++ place) = (user.getD [], place) := by
  cases user with
  | none => rw [login, List.nil_append, splitLogin, Text.cut_of_not_mem anonymous, Option.getD_none]
  | some written =>
      rw [login, List.append_assoc, List.singleton_append, splitLogin,
        Text.cut_append (unmarked written rfl), Option.getD_some]

theorem portWritten_some_iff {digits : List Char} :
    PortWritten (some digits) ↔
      (∀ c ∈ digits, c.isDigit = true) ∧ Numeral.value 10 digits ≤ 65535 := by
  simp [PortWritten]

theorem readPort_eq_ok_iff {digits : List Char} :
    readPort digits = .ok port ↔ PortWritten (some digits) ∧ port = portRead (some digits) := by
  have size : UInt16.size = 65535 + 1 := rfl
  rw [portWritten_some_iff, readPort, size]
  cases digits with
  | nil =>
      constructor
      · intro same
        exact ⟨⟨by simp, by decide⟩, (Except.ok.inj same).symm⟩
      · rintro ⟨_, rfl⟩
        rfl
  | cons c later =>
      have read : portRead (some (c :: later)) =
        some (Numeral.write 10 (Numeral.value 10 (c :: later))) := rfl
      rw [read, eq_comm (a := port)]
      simp only [List.isEmpty_cons, Bool.false_eq_true, if_false, Bool.and_eq_true,
        List.all_eq_true, decide_eq_true_eq, Nat.lt_succ_iff]
      split
      · rename_i written
        rw [Except.ok.injEq]
        exact ⟨fun same => ⟨written, same⟩, And.right⟩
      · rename_i unwritten
        exact ⟨nofun, fun both => absurd both.1 unwritten⟩

theorem place_eq_ok {before digits : List Char}
    (parts : (do return (before, ← readPort digits)) = Except.ok (host, port)) :
    host = before ∧ PortWritten (some digits) ∧ port = portRead (some digits) := by
  obtain ⟨read, reads, parts⟩ := bind_eq_ok parts
  obtain ⟨rfl, rfl⟩ := Prod.mk.inj (Except.ok.inj parts)
  exact ⟨rfl, readPort_eq_ok_iff.mp reads⟩

theorem splitPort_append (enclosed : Enclosed host) {written : Option (List Char)}
    (proper : PortWritten written) :
    splitPort (host ++ portSuffix written) = .ok (host, portRead written) := by
  rcases enclosed with ⟨noColon, unbracketed⟩ | ⟨address, rfl, noBracket⟩
  · unfold splitPort
    split
    · rename_i later bracket
      have first : (host ++ portSuffix written).head? = some '[' := by rw [bracket]; rfl
      cases host with
      | nil => cases written <;> simp [portSuffix] at first
      | cons c later => exact absurd first unbracketed
    · cases written with
      | none =>
          rw [portSuffix, List.append_nil, Text.cut_of_not_mem noColon]
          rfl
      | some digits =>
          rw [portSuffix, Text.cut_append noColon]
          simp only [readPort_eq_ok_iff.mpr ⟨proper, rfl⟩]
          rfl
  · have clean : ']' ∉ '[' :: address := by
      rw [List.mem_cons, not_or]
      exact ⟨by decide, noBracket⟩
    have shape : '[' :: (address ++ [']']) ++ portSuffix written
        = ('[' :: address) ++ ']' :: portSuffix written := by simp
    rw [shape]
    unfold splitPort
    simp only [List.cons_append]
    rw [← List.cons_append, Text.cut_append clean]
    cases written with
    | none => rfl
    | some digits =>
        simp only [portSuffix, readPort_eq_ok_iff.mpr ⟨proper, rfl⟩]
        rfl

theorem exists_port_of_splitPort (parts : splitPort place = .ok (host, port)) :
    Enclosed host ∧ ∃ written, place = host ++ portSuffix written ∧ PortWritten written ∧
      port = portRead written := by
  unfold splitPort at parts
  split at parts
  · rename_i later
    rcases Text.cut_cases ']' ('[' :: later) with ⟨_, cut⟩ | ⟨before, after, clean, same, cut⟩
    · rw [cut] at parts
      contradiction
    · cases before with
      | nil => exact absurd (List.cons.inj same).1 (by decide)
      | cons c address =>
          obtain ⟨rfl, rfl⟩ := List.cons.inj same
          have noBracket : ']' ∉ address := fun member => clean (List.mem_cons_of_mem _ member)
          rw [cut] at parts
          split at parts
          · contradiction
          · rename_i found
            obtain ⟨rfl, rfl⟩ := Prod.mk.inj (Except.ok.inj parts)
            obtain ⟨rfl, ⟨⟩⟩ := Prod.mk.inj found
            exact ⟨Or.inr ⟨address, rfl, noBracket⟩, none, by simp [portSuffix], nofun, rfl⟩
          · rename_i digits found
            obtain ⟨rfl, ⟨⟩⟩ := Prod.mk.inj found
            obtain ⟨rfl, proper, same⟩ := place_eq_ok parts
            exact ⟨Or.inr ⟨address, rfl, noBracket⟩, some digits, by simp [portSuffix], proper,
              same⟩
          · contradiction
  · rename_i unbracketed
    rcases Text.cut_cases ':' place with ⟨noColon, cut⟩ | ⟨before, digits, noColon, rfl, cut⟩
    · rw [cut] at parts
      obtain ⟨rfl, rfl⟩ := Prod.mk.inj (Except.ok.inj parts)
      refine ⟨Or.inl ⟨noColon, ?_⟩, none, by simp [portSuffix], nofun, rfl⟩
      intro bracket
      obtain ⟨later, same⟩ := List.head?_eq_some_iff.mp bracket
      exact unbracketed later same
    · rw [cut] at parts
      obtain ⟨rfl, proper, same⟩ := place_eq_ok parts
      refine ⟨Or.inl ⟨noColon, ?_⟩, some digits, rfl, proper, same⟩
      intro bracket
      obtain ⟨later, rfl⟩ := List.head?_eq_some_iff.mp bracket
      exact unbracketed _ rfl

theorem readAuthority_of_wellFormed {url : WrittenUrl} (wellFormed : url.WellFormed)
    (isHost : IsHost url.host) (printable : Printable url.host) (scheme : String) :
    readAuthority scheme (List.replicate url.slashes '/' ++ (url.authority ++ url.tail)) =
      .ok (url.host, portRead url.port) := by
  have unended := wellFormed.authority_unended
  obtain ⟨whole, after⟩ := span_append unended wellFormed.tail.2
  have nonempty : url.authority ≠ [] := by simp [WrittenUrl.authority, isHost.ne_nil]
  have unslashed : (url.authority ++ url.tail).head? ≠ some '/' := by
    intro slash
    rw [List.head?_append, Option.or_of_isSome (by simpa using nonempty)] at slash
    have ends := unended '/' (List.mem_of_head? slash)
    contradiction
  have anonymous : '@' ∉ url.host ++ portSuffix url.port := fun member =>
    wellFormed.place_unmarked '@' member (by decide)
  have unmarked : ∀ written, url.user = some written → '@' ∉ written := fun written user member =>
    (wellFormed.user written user).2 '@' member (by decide)
  have loginPrintable : Printable (url.user.getD []) := by
    cases user : url.user with
    | none => simp [Printable]
    | some written => exact (wellFormed.user written user).1
  have split : splitLogin url.authority = (url.user.getD [], url.host ++ portSuffix url.port) :=
    splitLogin_append unmarked anonymous
  have checked (hasOptions : Bool) := (checkLogin_read_eq_ok_iff hasOptions _).mpr loginPrintable
  simp only [readAuthority, dropSlashes_replicate wellFormed.slashes unslashed, whole, after,
    (checkTail_eq_ok_iff wellFormed.tail.2).mpr wellFormed.tail.1, split, checked,
    splitPort_append wellFormed.host.2 wellFormed.port, checkHost_of_isHost isHost printable,
    List.isEmpty_eq_false_iff.mpr nonempty, bind, Except.bind, pure, Except.pure,
    Bool.false_eq_true, if_false]

theorem exists_written_of_readAuthority {scheme : List Char} {name : String}
    (proper : ∀ c ∈ scheme, isSchemeChar c = true)
    (bounded : 1 ≤ scheme.length ∧ scheme.length ≤ 40)
    (read : readAuthority name rest = .ok (host, port)) :
    ∃ url : WrittenUrl, url.WellFormed ∧ IsHost host ∧ Printable host ∧ url.scheme = scheme ∧
      url.host = host ∧ port = portRead url.port ∧ scheme ++ ':' :: rest = url.text := by
  unfold readAuthority at read
  obtain ⟨text, dropped, read⟩ := bind_eq_ok read
  obtain ⟨slashes, few, started⟩ := exists_slashes_of_dropSlashes dropped
  simp only at read
  split at read
  · contradiction
  · obtain ⟨_, tailChecked, read⟩ := bind_eq_ok read
    obtain ⟨_, loginChecked, read⟩ := bind_eq_ok read
    obtain ⟨⟨found, foundPort⟩, parts, read⟩ := bind_eq_ok read
    obtain ⟨_, hostChecked, read⟩ := bind_eq_ok read
    obtain ⟨rfl, rfl⟩ := Prod.mk.inj (Except.ok.inj read)
    have whole := List.takeWhile_append_dropWhile (p := (!isEnd ·)) (l := text)
    have unended : ∀ c ∈ text.takeWhile (!isEnd ·), isEnd c = false := by
      intro c member
      simpa using List.all_eq_true.mp List.all_takeWhile c member
    have ended : ∀ c ∈ (text.dropWhile (!isEnd ·)).head?, isEnd c = true := by
      intro c first
      have stopped := List.head?_dropWhile_not (!isEnd ·) text
      rw [Option.mem_def.mp first] at stopped
      simpa using stopped
    generalize text.takeWhile (!isEnd ·) = authority at *
    generalize text.dropWhile (!isEnd ·) = tail at *
    obtain ⟨user, divided, userFound⟩ := exists_login_of_splitLogin unended
    obtain ⟨enclosed, written, place, portWritten, portSame⟩ := exists_port_of_splitPort parts
    obtain ⟨isHost, printable⟩ := isHost_of_checkHost hostChecked enclosed
    refine ⟨⟨scheme, slashes, user, found, written, tail⟩,
      ⟨proper, bounded, few, ?user, ⟨fun c member => (isHost.clean c member).2, enclosed⟩,
        portWritten, (checkTail_eq_ok_iff ended).mp tailChecked, ended⟩,
      isHost, printable, rfl, rfl, portSame, ?text⟩
    case user =>
      rintro _ rfl
      obtain ⟨rfl, unmarked⟩ := userFound _ rfl
      exact ⟨(checkLogin_read_eq_ok_iff _ _).mp loginChecked, unmarked⟩
    case text =>
      rw [started, ← whole, divided, place]
      rfl

theorem exists_written_of_read {parts : UrlParts} (accepted : read text = .ok parts)
    (remote : parts.scheme ≠ some "file") :
    ∃ url : WrittenUrl, url.WellFormed ∧ IsHost url.host ∧ Printable url.host ∧
      text = url.text ∧ parts = url.parts url.host := by
  unfold read at accepted
  obtain ⟨⟨lower, rest⟩, split, accepted⟩ := bind_eq_ok accepted
  obtain ⟨scheme, rfl, rfl, proper, bounded⟩ := splitScheme_eq_ok_iff.mp split
  simp only at accepted
  split at accepted
  · rename_i file
    obtain ⟨_, _, accepted⟩ := bind_eq_ok accepted
    obtain rfl := Except.ok.inj accepted
    exact absurd (congrArg some file) remote
  · obtain ⟨⟨host, port⟩, authority, accepted⟩ := bind_eq_ok accepted
    obtain rfl := Except.ok.inj accepted
    obtain ⟨url, wellFormed, isHost, printable, rfl, rfl, rfl, same⟩ :=
      exists_written_of_readAuthority proper bounded authority
    exact ⟨url, wellFormed, isHost, printable, same, rfl⟩

theorem read_of_wellFormed {url : WrittenUrl} (wellFormed : url.WellFormed)
    (isHost : IsHost url.host) (printable : Printable url.host)
    (remote : (url.parts url.host).scheme ≠ some "file") :
    read url.text = .ok (url.parts url.host) := by
  have split : splitScheme url.text = .ok (url.scheme.map Char.toLower,
      List.replicate url.slashes '/' ++ (url.authority ++ url.tail)) :=
    splitScheme_eq_ok_iff.mpr
      ⟨url.scheme, rfl, rfl, wellFormed.scheme, wellFormed.scheme_length⟩
  have notFile : String.ofList (url.scheme.map Char.toLower) ≠ "file" := fun file =>
    remote (congrArg some file)
  simp only [read, split, bind, Except.bind, notFile, if_false,
    readAuthority_of_wellFormed wellFormed isHost printable]
  rfl

end Url

namespace UrlLibrary

theorem plain_read_eq_ok_iff {text : String} {parts : UrlParts} :
    plain.read text = .ok parts ↔ Url.read text.toList = .ok parts := by
  simp only [plain]
  cases Url.read text.toList with
  | error cause => simp
  | ok found => simp

theorem plain_followsRules : plain.FollowsRules fun url => Url.Printable url.host where
  reads_written text parts accepted remote := by
    rw [plain_read_eq_ok_iff] at accepted
    obtain ⟨url, wellFormed, isHost, _, written, same⟩ :=
      Url.exists_written_of_read accepted remote
    exact ⟨url, url.host, wellFormed, written, isHost, same⟩
  accepts_literal url wellFormed isHost printable remote := by
    rw [plain_read_eq_ok_iff, String.toList_ofList]
    exact Url.read_of_wellFormed wellFormed isHost printable remote

end UrlLibrary

end ProverInput

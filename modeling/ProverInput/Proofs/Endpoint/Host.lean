import ProverInput.Endpoint.Plain
import ProverInput.Proofs.Text.Pieces

/-!
Hosts of URLs. A host is a name without delimiters or an IPv6 address in brackets, so nothing in it
can be taken for another part of a URL.
-/

namespace ProverInput

namespace Address

variable {text : List Char}

def isAddressChar (c : Char) : Bool :=
  c.isDigit || Numeral.isDigit 16 c || c = ':' || c = '.'

theorem isAddressChar_of_isDottedQuad (quad : isDottedQuad text = true) :
    ∀ c ∈ text, isAddressChar c = true := by
  simp only [isDottedQuad, isOctet, Bool.and_eq_true, List.all_eq_true] at quad
  intro c member
  rcases Text.mem_pieces '.' member with rfl | ⟨octet, listed, found⟩
  · decide
  · simp [isAddressChar, (quad.2 octet listed).1.1.2 c found]

theorem isAddressChar_of_isGroup (group : isGroup text = true) :
    ∀ c ∈ text, isAddressChar c = true := by
  simp only [isGroup, Bool.and_eq_true, List.all_eq_true] at group
  intro c member
  simp [isAddressChar, group.2 c member]

theorem isAddressChar_of_groupCount? {groups : List (List Char)} {count : Nat}
    (counted : groupCount? groups = some count) :
    ∀ group ∈ groups, ∀ c ∈ group, isAddressChar c = true := by
  fun_induction groupCount? groups generalizing count with
  | case1 => simp
  | case2 last group =>
      simpa using isAddressChar_of_isGroup group
  | case3 last noGroup quad =>
      simpa using isAddressChar_of_isDottedQuad quad
  | case4 last noGroup noQuad => contradiction
  | case5 first rest nonempty group ih =>
      obtain ⟨others, found, _⟩ := Option.map_eq_some_iff.mp counted
      intro other member
      rcases List.mem_cons.mp member with rfl | later
      · exact isAddressChar_of_isGroup group
      · exact ih found other later
  | case6 first rest nonempty noGroup => contradiction

theorem isAddressChar_of_splitGroups {count : Nat}
    (counted : groupCount? (splitGroups text) = some count) :
    ∀ c ∈ text, isAddressChar c = true := by
  intro c member
  have split : splitGroups text = Text.pieces ':' text := by
    rw [splitGroups, if_neg]
    simpa using List.ne_nil_of_mem member
  rw [split] at counted
  rcases Text.mem_pieces ':' member with rfl | ⟨group, listed, found⟩
  · decide
  · exact isAddressChar_of_groupCount? counted group listed c found

theorem eq_append_of_cutDoubleColon? {before after : List Char}
    (found : cutDoubleColon? text = some (before, after)) :
    text = before ++ ':' :: ':' :: after := by
  fun_induction cutDoubleColon? text generalizing before with
  | case1 rest =>
      simp only [Option.some.injEq, Prod.mk.injEq] at found
      obtain ⟨rfl, rfl⟩ := found
      rfl
  | case2 c rest _ ih =>
      obtain ⟨⟨early, late⟩, inner, same⟩ := Option.map_eq_some_iff.mp found
      simp only [Prod.mk.injEq] at same
      obtain ⟨rfl, rfl⟩ := same
      rw [ih inner, List.cons_append]
  | case3 => contradiction

theorem isAddressChar_of_isIPv6 (address : isIPv6 text = true) :
    ∀ c ∈ text, isAddressChar c = true := by
  unfold isIPv6 at address
  split at address
  · exact isAddressChar_of_splitGroups (of_decide_eq_true address)
  · rename_i before after found
    split at address
    · rename_i left right _ leftCounted rightCounted
      have colon : isAddressChar ':' = true := by decide
      rw [eq_append_of_cutDoubleColon? found]
      intro c member
      simp only [List.mem_append, List.mem_cons] at member
      rcases member with early | rfl | rfl | late
      · exact isAddressChar_of_splitGroups leftCounted c early
      · exact colon
      · exact colon
      · exact isAddressChar_of_splitGroups rightCounted c late
    · contradiction

end Address

namespace Url

/-- A name without delimiters, or an IPv6 address in brackets. -/
inductive IsHost : List Char → Prop
  | name {host} : host ≠ [] → (∀ c ∈ host, 0x20 < c.toNat ∧ isDelimiter c = false) → IsHost host
  | address {address} : Address.isIPv6 address = true → IsHost ('[' :: (address ++ [']']))

/-- A host that ends where its text does, or at its bracket, whatever port follows it. -/
def Enclosed (host : List Char) : Prop :=
  (':' ∉ host ∧ host.head? ≠ some '[') ∨
    ∃ address, host = '[' :: (address ++ [']']) ∧ ']' ∉ address

def Printable (text : List Char) : Prop :=
  ∀ c ∈ text, isBlank c = false

/-- The characters around which a URL is taken apart before its host is looked at. -/
def marks : List Char := ['/', '?', '#', '@']

variable {host : List Char} {c : Char}

theorem not_isBlank_of_isAddressChar (address : Address.isAddressChar c = true) :
    isBlank c = false := by
  have ascii : ∀ n : Fin 128, Address.isAddressChar (Char.ofNat n) = true →
      isBlank (Char.ofNat n) = false := by decide
  cases blank : isBlank c with
  | false => rfl
  | true =>
      have small : c.toNat < 128 := by
        simp only [isBlank, Bool.or_eq_true, decide_eq_true_eq] at blank
        omega
      have bare := ascii ⟨c.toNat, small⟩
      simp only [Char.ofNat_toNat] at bare
      rw [bare address] at blank
      contradiction

theorem visible_of_not_isBlank (bare : isBlank c = false) : 0x20 < c.toNat := by
  simp only [isBlank, Bool.or_eq_false_iff, decide_eq_false_iff_not] at bare
  omega

theorem not_mem_marks_of_isAddressChar (address : Address.isAddressChar c = true) :
    c ∉ marks ∧ c ≠ ']' := by
  have others : (']' :: marks).any Address.isAddressChar = false := by decide
  have foreign : c ∉ ']' :: marks := by
    intro member
    exact List.any_eq_false.mp others c member address
  rw [List.mem_cons, not_or] at foreign
  exact foreign.symm

theorem not_mem_of_not_isDelimiter (bare : isDelimiter c = false) :
    c ∉ marks ∧ c ≠ ':' ∧ c ≠ '[' := by
  have delimiters : (':' :: '[' :: marks).all isDelimiter = true := by decide
  have foreign : c ∉ ':' :: '[' :: marks := by
    intro member
    rw [List.all_eq_true.mp delimiters c member] at bare
    contradiction
  rw [List.mem_cons, List.mem_cons, not_or, not_or] at foreign
  exact ⟨foreign.2.2, foreign.1, foreign.2.1⟩

theorem mem_marks_iff : c ∈ marks ↔ isEnd c = true ∨ c = '@' := by
  simp [marks, isEnd, or_assoc]

theorem not_isEnd_of_not_mem_marks (unmarked : c ∉ marks) : isEnd c = false := by
  rw [mem_marks_iff, not_or, Bool.not_eq_true] at unmarked
  exact unmarked.1

theorem not_mem_marks_of_isDigit (digit : c.isDigit = true) : c ∉ marks := by
  have others : marks.any Char.isDigit = false := by decide
  intro member
  exact List.any_eq_false.mp others c member digit

theorem IsHost.ne_nil (isHost : IsHost host) : host ≠ [] := by
  cases isHost with
  | name nonempty bare => exact nonempty
  | address address => exact List.cons_ne_nil _ _

theorem IsHost.clean (isHost : IsHost host) : ∀ c ∈ host, 0x20 < c.toNat ∧ c ∉ marks := by
  cases isHost with
  | name nonempty bare =>
      intro c member
      exact ⟨(bare c member).1, (not_mem_of_not_isDelimiter (bare c member).2).1⟩
  | address address =>
      intro c member
      simp only [List.mem_cons, List.mem_append, List.not_mem_nil, or_false] at member
      rcases member with rfl | inner | rfl
      · decide
      · have written := Address.isAddressChar_of_isIPv6 address c inner
        exact ⟨visible_of_not_isBlank (not_isBlank_of_isAddressChar written),
          (not_mem_marks_of_isAddressChar written).1⟩
      · decide

theorem IsHost.enclosed (isHost : IsHost host) : Enclosed host := by
  cases isHost with
  | name nonempty bare =>
      refine Or.inl ⟨fun member => (not_mem_of_not_isDelimiter (bare ':' member).2).2.1 rfl, ?_⟩
      intro bracket
      have member := List.mem_of_head? bracket
      exact (not_mem_of_not_isDelimiter (bare '[' member).2).2.2 rfl
  | @address address isIPv6 =>
      refine Or.inr ⟨address, rfl, ?_⟩
      intro member
      exact (not_mem_marks_of_isAddressChar
        (Address.isAddressChar_of_isIPv6 isIPv6 ']' member)).2 rfl

theorem any_isBlank_eq_false_iff {text : List Char} :
    text.any isBlank = false ↔ Printable text := by
  simp [Printable, List.any_eq_false]

theorem checkHost_of_isHost (isHost : IsHost host) (printable : Printable host) :
    checkHost host = .ok () := by
  unfold checkHost
  rw [any_isBlank_eq_false_iff.mpr printable, if_neg Bool.false_ne_true]
  cases isHost with
  | name nonempty bare =>
      have undelimited : host.any isDelimiter = false := by
        rw [List.any_eq_false]
        intro c member
        simp [(bare c member).2]
      split
      · contradiction
      · exact absurd rfl (not_mem_of_not_isDelimiter (bare '[' List.mem_cons_self).2).2.2
      · rw [undelimited, if_neg Bool.false_ne_true]
  | address address =>
      simp only [List.dropLast_concat, address, if_true]

theorem isHost_of_checkHost (checked : checkHost host = .ok ()) (enclosed : Enclosed host) :
    IsHost host ∧ Printable host := by
  unfold checkHost at checked
  split at checked
  · contradiction
  · rename_i unblanked
    rw [Bool.not_eq_true, any_isBlank_eq_false_iff] at unblanked
    refine ⟨?_, unblanked⟩
    split at checked
    · contradiction
    · rcases enclosed with ⟨_, unbracketed⟩ | ⟨address, same, _⟩
      · exact absurd rfl unbracketed
      · obtain rfl := List.tail_eq_of_cons_eq same
        split at checked
        · rename_i isIPv6
          rw [List.dropLast_concat] at isIPv6
          exact .address isIPv6
        · contradiction
    · rename_i nonempty notBracketed
      split at checked
      · contradiction
      · rename_i undelimited
        refine .name nonempty ?_
        intro c member
        rw [Bool.not_eq_true, List.any_eq_false] at undelimited
        exact ⟨visible_of_not_isBlank (unblanked c member), by simpa using undelimited c member⟩

end Url

end ProverInput

import ProverInput.Proofs.Block.Grammar

/-!
The two renderings of a block. Each of them is read back as the block, so that no height is taken
for a tag or for a numeral of the other base.
-/

namespace ProverInput.BlockRef

theorem parse_text (block : BlockRef) : parse block.text = .ok block := by
  cases block with
  | tag named => exact parse_name named
  | height value =>
      have written : (height value).text.toList = Numeral.write 10 value.toNat :=
        String.toList_ofList
      have denoted := Numeral.denotes_write (by decide : 1 < 10) (by decide) value.toNat
      rw [← written] at denoted
      have spelled := Spells.decimal denoted value.toNat_lt
      rwa [UInt64.ofNat_toNat, ← parse_eq_ok_iff] at spelled

theorem rpcArgument_height (value : UInt64) :
    (height value).rpcArgument.toList = '0' :: 'x' :: Numeral.write 16 value.toNat :=
  String.toList_ofList

theorem parse_rpcArgument (block : BlockRef) : parse block.rpcArgument = .ok block := by
  cases block with
  | tag named => exact parse_name named
  | height value =>
      have denoted := Numeral.denotes_write (by decide : 1 < 16) (by decide) value.toNat
      have spelled := Spells.hexadecimal (Or.inl (rpcArgument_height value)) denoted value.toNat_lt
      rwa [UInt64.ofNat_toNat, ← parse_eq_ok_iff] at spelled

theorem text_inj {block other : BlockRef} : block.text = other.text ↔ block = other := by
  constructor
  · intro same
    have read := parse_text block
    rw [same, parse_text] at read
    exact (Except.ok.inj read).symm
  · rintro rfl
    rfl

theorem rpcArgument_inj {block other : BlockRef} :
    block.rpcArgument = other.rpcArgument ↔ block = other := by
  constructor
  · intro same
    have read := parse_rpcArgument block
    rw [same, parse_rpcArgument] at read
    exact (Except.ok.inj read).symm
  · rintro rfl
    rfl

theorem mem_lowerDigits_of_mem_write {number : Nat} {c : Char}
    (member : c ∈ Numeral.write 16 number) : c ∈ Numeral.lowerDigits := by
  obtain ⟨digit, small, rfl⟩ := Numeral.mem_write (by decide) member
  have all : ∀ digit : Fin 16, Nat.digitChar digit ∈ Numeral.lowerDigits := by decide
  exact all ⟨digit, small⟩

structure IsQuantity (digits : List Char) : Prop where
  nonempty : 1 ≤ digits.length
  bounded : digits.length ≤ 16
  lower : ∀ c ∈ digits, c ∈ "0123456789abcdef".toList
  leading : digits.head? = some '0' → digits = ['0']

theorem isQuantity_write {number : Nat} (fits : number < 2 ^ 64) :
    IsQuantity (Numeral.write 16 number) where
  nonempty := Nat.length_toDigits_pos
  bounded := (Nat.length_toDigits_le_iff (by decide) (by decide)).mpr (by omega)
  lower := fun _ member => mem_lowerDigits_of_mem_write member
  leading := Numeral.write_of_head_eq_zero (by decide) (by decide)

/-- Both renderings of a block are read back as the block. A height becomes a quantity after `0x`.
Two texts are read alike if and only if the blocks have one rendering, whichever it is. -/
theorem renderings_read_back :
    (∀ block : BlockRef, parse block.text = .ok block ∧ parse block.rpcArgument = .ok block) ∧
      (∀ value : UInt64, ∃ digits, IsQuantity digits ∧
        (height value).rpcArgument = "0x" ++ String.ofList digits) ∧
      ∀ text otherText block other, parse text = .ok block → parse otherText = .ok other →
        (parse text = parse otherText ↔ block.rpcArgument = other.rpcArgument) ∧
          (parse text = parse otherText ↔ block.text = other.text) := by
  refine ⟨fun block => ⟨parse_text block, parse_rpcArgument block⟩, ?_, ?_⟩
  · intro value
    refine ⟨_, isQuantity_write value.toNat_lt, ?_⟩
    rw [← String.toList_inj, rpcArgument_height, String.toList_append,
      String.toList_ofList (l := Numeral.write 16 value.toNat)]
    rfl
  · intro text otherText block other read otherRead
    have same : parse text = parse otherText ↔ block = other := by
      rw [read, otherRead, Except.ok.injEq]
    exact ⟨same.trans rpcArgument_inj.symm, same.trans text_inj.symm⟩

theorem renderings_read_back_largest :
    let hexadecimal := "0X00fFFFFFFFFFFFFFFF"
    let decimal := "018446744073709551615"
    let block := height 18446744073709551615
    parse hexadecimal = .ok block ∧ parse decimal = .ok block ∧
      block.rpcArgument = "0xffffffffffffffff" ∧
      (parse hexadecimal = parse decimal ↔ block.text = block.text) := by
  intro hexadecimal decimal block
  have read : parse hexadecimal = .ok block := by decide +kernel
  have otherRead : parse decimal = .ok block := by decide +kernel
  refine ⟨read, otherRead, by decide +kernel, ?_⟩
  exact (renderings_read_back.2.2 hexadecimal decimal block block read otherRead).2

end ProverInput.BlockRef

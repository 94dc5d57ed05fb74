import ProverInput.Proofs.Json.Unambiguous
import ProverInput.Proofs.Json.Writing
import ProverInput.Proofs.Text.Utf8
import ProverInput.Proofs.Tree.Lookup
import ProverInput.Tree.Json

/-!
The JSON text of a tree. It spells the document that the tree stands for and no other; an indent
adds only white space outside the strings.
-/

namespace ProverInput

namespace Json

inductive KeysAscending : Document → Prop
  | null : KeysAscending .null
  | bool (value) : KeysAscending (.bool value)
  | number (value) : KeysAscending (.number value)
  | text (value) : KeysAscending (.text value)
  | array {items} : (∀ item ∈ items, KeysAscending item) → KeysAscending (.array items)
  | object {members : List (String × Document)} :
      (members.map fun member => Text.bytes member.1).Pairwise (· < ·) →
      (∀ member ∈ members, KeysAscending member.2) → KeysAscending (.object members)

end Json

namespace Tree

open Json (Document Blank Padded Separated Spells MemberSpells IsText KeysAscending compactFrom)

mutual

def document : Tree → Document
  | .null => .null
  | .int value => .number value.toInt
  | .text value => .text value
  | .object fields => .object (members fields)

def members : List (String × Tree) → List (String × Document)
  | [] => []
  | (key, child) :: rest => (key, child.document) :: members rest

end

theorem members_eq (fields : List (String × Tree)) :
    members fields = fields.map fun field => (field.1, field.2.document) := by
  induction fields with
  | nil => rfl
  | cons field rest ih => rw [members, ih, List.map_cons]

theorem members_injective {fields others : List (String × Tree)}
    (injective : ∀ field ∈ fields, ∀ other : Tree,
      field.2.document = other.document → field.2 = other)
    (same : members fields = members others) : fields = others := by
  induction fields generalizing others with
  | nil =>
      cases others with
      | nil => rfl
      | cons other others => simp [members] at same
  | cons field rest ih =>
      cases others with
      | nil => simp [members] at same
      | cons other others =>
          simp only [members, List.cons.injEq, Prod.mk.injEq] at same
          obtain ⟨⟨sameKey, sameChild⟩, sameRest⟩ := same
          have sameField : field = other :=
            Prod.ext sameKey (injective field List.mem_cons_self other.2 sameChild)
          rw [sameField, ih (fun item member => injective item (List.mem_cons_of_mem _ member))
            sameRest]

theorem document_injective {tree other : Tree} (same : tree.document = other.document) :
    tree = other := by
  induction tree using Tree.induct generalizing other with
  | null =>
      cases other with
      | null => rfl
      | _ => simp [document] at same
  | int value =>
      cases other with
      | int otherValue =>
          simp only [document, Document.number.injEq, Int.cast_inj] at same
          rw [Int64.toInt_inj.mp same]
      | _ => simp [document] at same
  | text value =>
      cases other with
      | text otherValue =>
          simp only [document, Document.text.injEq] at same
          rw [same]
      | _ => simp [document] at same
  | object fields ih =>
      cases other with
      | object others =>
          simp only [document, Document.object.injEq] at same
          rw [members_injective (fun field member other => ih field member) same]
      | _ => simp [document] at same

theorem keysAscending {tree : Tree} (ordered : tree.Ordered) : KeysAscending tree.document := by
  induction tree using Tree.induct with
  | null => exact KeysAscending.null
  | int value => exact KeysAscending.number _
  | text value => exact KeysAscending.text value
  | object fields ih =>
      obtain ⟨ascending, children⟩ := ordered
      rw [orderedFields_iff] at children
      rw [document, members_eq]
      apply KeysAscending.object
      · rw [List.map_map]
        have bytesAscending : (fields.map fun field => Text.bytes field.1).Pairwise (· < ·) := by
          rw [Fields.Ascending, Fields.keys, List.pairwise_map] at ascending
          exact List.pairwise_map.mpr (ascending.imp Text.bytes_lt_bytes)
        exact bytesAscending
      · intro member found
        obtain ⟨field, present, rfl⟩ := List.mem_map.mp found
        exact ih field present (children field present)

theorem blank_lineBreak (indent depth : Nat) : Blank (lineBreak indent depth) := by
  intro c member
  rw [lineBreak] at member
  split at member
  · contradiction
  · rcases List.mem_cons.mp member with rfl | space
    · decide
    · rw [List.eq_of_mem_replicate space]
      decide

theorem colon_eq (indent : Nat) : ∃ after, Blank after ∧ colon indent = ':' :: after := by
  rw [colon]
  split
  · exact ⟨[], by simp [Blank], rfl⟩
  · exact ⟨[' '], by simp [Blank, Json.isBlank], rfl⟩

def writeMember (indent depth : Nat) (field : String × Tree) : List Char :=
  lineBreak indent depth ++ Text.quoted .lower field.1 ++ colon indent
    ++ field.2.write indent depth

theorem writeMembers_eq (indent depth : Nat) (fields : List (String × Tree)) :
    writeMembers indent depth fields = fields.map (writeMember indent depth) := by
  induction fields with
  | nil => rfl
  | cons field rest ih => rw [writeMembers, ih, List.map_cons, writeMember]

theorem write_object (indent depth : Nat) {fields : List (String × Tree)} (nonempty : fields ≠ []) :
    write indent depth (.object fields)
      = '\x7b' :: [','].intercalate (fields.map (writeMember indent (depth + 1)))
          ++ lineBreak indent depth ++ ['\x7d'] := by
  cases fields with
  | nil => contradiction
  | cons field rest => rw [write, writeMembers_eq]

theorem padded_writeMember {indent depth : Nat} {field : String × Tree}
    (spelled : Spells field.2.document (field.2.write indent depth)) {after : List Char}
    (blanks : Blank after) :
    Padded (MemberSpells (field.1, field.2.document))
      (writeMember indent depth field ++ after) := by
  obtain ⟨space, spaceBlank, colonText⟩ := colon_eq indent
  refine ⟨lineBreak indent depth, _, after, blank_lineBreak indent depth,
    ⟨Text.quoted .lower field.1, [], space, _, Json.quotes_quoted field.1, by simp [Blank],
      spaceBlank, spelled, rfl⟩, blanks, ?_⟩
  simp only [writeMember, colonText, List.append_assoc, List.cons_append, List.append_nil]

theorem separated_writeMembers {indent depth : Nat} {fields : List (String × Tree)}
    (nonempty : fields ≠ [])
    (spelled : ∀ field ∈ fields, Spells field.2.document (field.2.write indent depth))
    {after : List Char} (blanks : Blank after) :
    Separated ((members fields).map MemberSpells)
      ([','].intercalate (fields.map (writeMember indent depth)) ++ after) := by
  induction fields with
  | nil => contradiction
  | cons field rest ih =>
      have first := spelled field List.mem_cons_self
      cases rest with
      | nil => simpa [members, Separated] using padded_writeMember first blanks
      | cons next later =>
          have tail := ih (by simp) fun item member => spelled item (List.mem_cons_of_mem _ member)
          refine ⟨_, _, padded_writeMember first (by simp [Blank] : Blank []), tail, ?_⟩
          simp [List.intercalate]

theorem spells_write (tree : Tree) (indent depth : Nat) :
    Spells tree.document (tree.write indent depth) := by
  induction tree using Tree.induct generalizing depth with
  | null => simp only [document, write, Spells]
  | int value =>
      simp only [document, write, Spells]
      exact Json.number?_writeInt value.toInt
  | text value =>
      simp only [document, write, Spells]
      exact Json.quotes_quoted value
  | object fields ih =>
      simp only [document, Spells, Json.memberSpellings_eq]
      by_cases empty : fields = []
      · subst empty
        exact ⟨[], by simp [members, Separated, Blank], rfl⟩
      · refine ⟨_, separated_writeMembers empty
          (fun field member => ih field member (depth + 1)) (blank_lineBreak indent depth), ?_⟩
        rw [write_object indent depth empty]
        simp only [List.cons_append, List.append_assoc]

theorem isText_json (tree : Tree) (indent : Int) : IsText tree.document (tree.json indent) := by
  rw [IsText, json, String.toList_ofList]
  exact ⟨[], _, [], by simp [Blank], spells_write tree indent.toNat 0, by simp [Blank], by simp⟩

theorem isText_json_iff (tree : Tree) (indent : Int) (document : Document) :
    IsText document (tree.json indent) ↔ document = tree.document := by
  constructor
  · intro spelled
    exact spelled.unique (isText_json tree indent)
  · rintro rfl
    exact isText_json tree indent

theorem compactFrom_writeMember {indent depth other : Nat} {field : String × Tree}
    (child : ∀ rest, compactFrom .outside (field.2.write indent depth ++ rest)
      = field.2.write 0 other ++ compactFrom .outside rest) (rest : List Char) :
    compactFrom .outside (writeMember indent depth field ++ rest)
      = writeMember 0 other field ++ compactFrom .outside rest := by
  obtain ⟨space, spaceBlank, colonText⟩ := colon_eq indent
  have flat : writeMember 0 other field
      = Text.quoted .lower field.1 ++ ':' :: field.2.write 0 other := by
    simp [writeMember, lineBreak, colon]
  rw [flat, writeMember, colonText]
  simp only [List.append_assoc, List.cons_append]
  rw [Json.compactFrom_blank (blank_lineBreak indent depth), Json.compactFrom_quoted,
    Json.compactFrom_mark (by decide), Json.compactFrom_blank spaceBlank, child]

theorem compactFrom_writeMembers {indent depth other : Nat} {fields : List (String × Tree)}
    (children : ∀ field ∈ fields, ∀ rest,
      compactFrom .outside (field.2.write indent depth ++ rest)
        = field.2.write 0 other ++ compactFrom .outside rest) (rest : List Char) :
    compactFrom .outside ([','].intercalate (fields.map (writeMember indent depth)) ++ rest)
      = [','].intercalate (fields.map (writeMember 0 other)) ++ compactFrom .outside rest := by
  induction fields with
  | nil => rfl
  | cons field later ih =>
      have first := compactFrom_writeMember (children field List.mem_cons_self)
      cases later with
      | nil => simpa [List.intercalate] using first rest
      | cons next later =>
          have tail := ih fun item member => children item (List.mem_cons_of_mem _ member)
          simp only [List.map_cons] at tail ⊢
          simp only [List.intercalate_cons_cons, List.append_assoc, List.nil_append,
            List.cons_append]
          rw [first, Json.compactFrom_mark (by decide), tail]

theorem compactFrom_write (tree : Tree) (indent depth other : Nat) (rest : List Char) :
    compactFrom .outside (tree.write indent depth ++ rest)
      = tree.write 0 other ++ compactFrom .outside rest := by
  induction tree using Tree.induct generalizing depth other rest with
  | null =>
      simp only [write]
      exact Json.compactFrom_word (List.all_eq_true.mp (by decide)) rest
  | int value =>
      simp only [write]
      exact Json.compactFrom_word (Json.solid_writeInt value.toInt) rest
  | text value => exact Json.compactFrom_quoted value rest
  | object fields ih =>
      by_cases empty : fields = []
      · subst empty
        simp only [write]
        exact Json.compactFrom_word (List.all_eq_true.mp (by decide)) rest
      · have inner := compactFrom_writeMembers
          fun field member => ih field member (depth + 1) (other + 1)
        rw [write_object indent depth empty, write_object 0 other empty]
        simp only [List.cons_append, List.append_assoc]
        rw [Json.compactFrom_mark (by decide), inner,
          Json.compactFrom_blank (blank_lineBreak indent depth)]
        rw [List.nil_append, Json.compactFrom_mark (by decide)]
        simp [lineBreak]

theorem compact_json (tree : Tree) (indent : Int) :
    Json.compact (tree.json indent) = tree.json 0 := by
  have flat := compactFrom_write tree indent.toNat 0 0 []
  rw [List.append_nil, compactFrom, List.append_nil] at flat
  rw [Json.compact, json, String.toList_ofList, flat]
  rfl

def Tame (indent : Nat) (text : List Char) : Prop :=
  ∀ c ∈ text, Json.isVisible c = true ∨ (c = '\n' ∧ 0 < indent)

theorem Tame.of_visible {indent : Nat} {text : List Char}
    (visible : text.all Json.isVisible = true) : Tame indent text :=
  fun c member => Or.inl (List.all_eq_true.mp visible c member)

theorem Tame.append {indent : Nat} {text other : List Char} (left : Tame indent text)
    (right : Tame indent other) : Tame indent (text ++ other) := by
  intro c member
  rcases List.mem_append.mp member with early | late
  · exact left c early
  · exact right c late

theorem tame_lineBreak (indent depth : Nat) : Tame indent (lineBreak indent depth) := by
  intro c member
  rw [lineBreak] at member
  split at member
  · contradiction
  · rename_i positive
    rcases List.mem_cons.mp member with rfl | space
    · exact Or.inr ⟨rfl, Nat.pos_of_ne_zero positive⟩
    · rw [List.eq_of_mem_replicate space]
      exact Or.inl (by decide)

theorem tame_colon (indent : Nat) : Tame indent (colon indent) := by
  apply Tame.of_visible
  rw [colon]
  split <;> decide

theorem tame_intercalate {indent : Nat} {parts : List (List Char)}
    (tame : ∀ part ∈ parts, Tame indent part) : Tame indent ([','].intercalate parts) := by
  induction parts with
  | nil => exact Tame.of_visible (by simp [List.intercalate])
  | cons part rest ih =>
      have first := tame part List.mem_cons_self
      cases rest with
      | nil => simpa [List.intercalate] using first
      | cons next later =>
          rw [List.intercalate_cons_cons]
          exact (first.append (Tame.of_visible (by decide))).append
            (ih fun item member => tame item (List.mem_cons_of_mem _ member))

theorem tame_write (tree : Tree) (indent depth : Nat) : Tame indent (tree.write indent depth) := by
  induction tree using Tree.induct generalizing depth with
  | null =>
      simp only [write]
      exact Tame.of_visible (by decide)
  | int value =>
      simp only [write]
      exact fun c member => Or.inl (Json.visible_writeInt value.toInt c member)
  | text value =>
      simp only [write]
      exact fun c member => Or.inl (Json.visible_quoted value c member)
  | object fields ih =>
      by_cases empty : fields = []
      · subst empty
        simp only [write]
        exact Tame.of_visible (by decide)
      · have opening : Tame indent ['\x7b'] := Tame.of_visible (by decide)
        have closing : Tame indent ['\x7d'] := Tame.of_visible (by decide)
        have parts : ∀ part ∈ fields.map (writeMember indent (depth + 1)), Tame indent part := by
          intro part member
          obtain ⟨field, present, rfl⟩ := List.mem_map.mp member
          have key : Tame indent (Text.quoted .lower field.1) :=
            fun c member => Or.inl (Json.visible_quoted field.1 c member)
          exact (((tame_lineBreak indent (depth + 1)).append key).append (tame_colon indent)).append
            (ih field present (depth + 1))
        rw [write_object indent depth empty]
        exact ((opening.append (tame_intercalate parts)).append
          (tame_lineBreak indent depth)).append closing

theorem control_json {tree : Tree} {indent : Int} {byte : UInt8}
    (member : byte ∈ Text.bytes (tree.json indent)) (control : byte.toNat < 0x20) :
    byte = 0x0A ∧ 0 < indent := by
  rw [Text.bytes_eq, json, String.toList_ofList] at member
  obtain ⟨c, written, encoded⟩ := List.mem_flatMap.mp member
  have same := Text.encode_control encoded control
  rcases tame_write tree indent.toNat 0 c written with visible | ⟨rfl, positive⟩
  · have notControl : 0x20 ≤ c.toNat := of_decide_eq_true visible
    omega
  · exact ⟨UInt8.toNat_inj.mp same.symm, by omega⟩

/-- The JSON text of a tree. It is JSON for the document of the tree and for no other document, so
no two trees share a text. Its keys are in ascending order of their bytes, an indent adds white
space between the tokens and nothing else, and control characters stand in no string. -/
theorem json_faithful (tree : Tree) (ordered : tree.Ordered) (indent : Int) :
    (∀ document, IsText document (tree.json indent) ↔ document = tree.document) ∧
      KeysAscending tree.document ∧
      (∀ other : Tree, tree.json indent = other.json indent ↔ tree = other) ∧
      Json.compact (tree.json indent) = tree.json 0 ∧
      ∀ byte ∈ Text.bytes (tree.json indent), byte.toNat < 0x20 → byte = 0x0A ∧ 0 < indent := by
  refine ⟨isText_json_iff tree indent, keysAscending ordered, ?_, compact_json tree indent,
    fun byte member control => control_json member control⟩
  intro other
  constructor
  · intro same
    have spelled := isText_json other indent
    rw [← same, isText_json_iff] at spelled
    exact document_injective spelled.symm
  · rintro rfl
    rfl

theorem json_faithful_nested :
    let tree : Tree := .object [("a\n", .int Int64.minValue),
      ("b", .object [("", .text "\x1f\\"), ("c", .object []), ("d", .null)])]
    tree.Ordered ∧
      tree.json 1 = "\x7b\n \"a\\n\": -9223372036854775808,\n"
        ++ " \"b\": \x7b\n  \"\": \"\\u001f\\\\\",\n"
        ++ "  \"c\": \x7b\x7d,\n  \"d\": null\n \x7d\n\x7d" ∧
      ∀ document, IsText document (tree.json 1) ↔ document = tree.document := by
  intro tree
  have ordered : tree.Ordered := by
    simp only [tree, Ordered, OrderedFields, Fields.Ascending, Fields.keys]
    decide
  exact ⟨ordered, by decide, (json_faithful tree ordered 1).1⟩

end Tree

end ProverInput

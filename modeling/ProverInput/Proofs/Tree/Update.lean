import ProverInput.Proofs.Tree.Lookup

/-!
Laws of putting values at paths. A value is found where it was put, everything on the way to it is
an object, and whatever stands apart from its path stays as it was.
-/

namespace ProverInput.Tree

open ProverInput.Path (Apart)

theorem find?_append (tree : Tree) (path rest : List String) :
    tree.find? (path ++ rest) = (tree.find? path).bind (·.find? rest) := by
  induction path generalizing tree with
  | nil => rfl
  | cons key later ih =>
      rw [List.cons_append, find?_cons, find?_cons, Option.bind_assoc]
      congr 1
      funext child
      exact ih child

theorem find?_set_above (tree : Tree) (path rest : List String) (value : Tree) :
    (tree.set (path ++ rest) value).find? path
      = some (((tree.find? path).getD .null).set rest value) := by
  induction path generalizing tree with
  | nil => rfl
  | cons key later ih =>
      rw [List.cons_append, find?_cons, find?_cons, lookup_set_self, Option.bind_some, ih]
      cases tree.fields.lookup key with
      | some child => rfl
      | none =>
          -- below a missing child there is nothing, and below a null neither
          cases later with
          | nil => rfl
          | cons next later => rfl

theorem find?_set_below (tree : Tree) (path rest : List String) (value : Tree) :
    (tree.set path value).find? (path ++ rest) = value.find? rest := by
  rw [find?_append, find?_set_self, Option.bind_some]

theorem exists_fields_of_set (tree : Tree) {path : List String} (nonempty : path ≠ [])
    (value : Tree) : ∃ fields, tree.set path value = .object fields := by
  cases path with
  | nil => contradiction
  | cons key rest => exact ⟨_, rfl⟩

theorem find?_set_of_properPrefix {path before : List String} (onTheWay : before <+: path)
    (proper : before ≠ path) (tree value : Tree) :
    ∃ fields, (tree.set path value).find? before = some (.object fields) := by
  obtain ⟨rest, rfl⟩ := onTheWay
  have nonempty : rest ≠ [] := by
    rintro rfl
    exact proper (List.append_nil before).symm
  obtain ⟨fields, object⟩ :=
    exists_fields_of_set ((tree.find? before).getD .null) nonempty value
  exact ⟨fields, by rw [find?_set_above, object]⟩

theorem set_set (tree : Tree) (path : List String) (value held : Tree) :
    (tree.set path value).set path held = tree.set path held := by
  induction path generalizing tree with
  | nil => rfl
  | cons key rest ih =>
      rw [set_set_self, ih]
      rfl

theorem set_found {tree value : Tree} {path : List String} (ordered : tree.Ordered)
    (found : tree.find? path = some value) : tree.set path value = tree := by
  induction path generalizing tree with
  | nil => exact (Option.some.inj found).symm
  | cons key rest ih =>
      cases tree with
      | object fields =>
          rw [find?_cons] at found
          obtain ⟨child, held, inner⟩ := Option.bind_eq_some_iff.mp found
          have childKept := ih (ordered_lookup ordered.2 held) inner
          have fieldsKept := Fields.insert_of_lookup ordered.1 held
          rw [set, held, Option.getD_some, childKept]
          exact congrArg Tree.object fieldsKept
      | _ => contradiction

/-- Putting a value at a path. Below the path the value shows, above it there are objects, and
apart from it nothing changes, whatever had to give place to an object. The last of two values at a
path stays, putting back what was found changes nothing, and values at paths apart from each other
may be put in either order. -/
theorem set_lawful (tree : Tree) (path : List String) (value : Tree) :
    (∀ rest, (tree.set path value).find? (path ++ rest) = value.find? rest) ∧
      (∀ before, before <+: path → before ≠ path →
        ∃ fields, (tree.set path value).find? before = some (.object fields)) ∧
      (∀ other, Apart path other → (tree.set path value).find? other = tree.find? other) ∧
      (∀ held, (tree.set path value).set path held = tree.set path held) ∧
      (tree.Ordered → tree.find? path = some value → tree.set path value = tree) ∧
      ∀ other held, Apart path other →
        (tree.set path value).set other held = (tree.set other held).set path value := by
  refine ⟨?_, ?_, ?_, set_set tree path value, set_found, ?_⟩
  · intro rest
    exact find?_set_below tree path rest value
  · intro before onTheWay proper
    exact find?_set_of_properPrefix onTheWay proper tree value
  · intro other apart
    exact find?_set_of_apart apart tree value
  · intro other held apart
    exact set_comm apart tree value held

theorem set_lawful_through_leaves :
    let tree : Tree := .object [("a", .text "x"), ("b", .object [("c", .null), ("d", .int 7)])]
    let path := ["b", "c", "e"]
    let value : Tree := .object [("f", .text "y")]
    tree.Ordered ∧ tree.find? ["b", "d"] = some (.int 7) ∧ Apart path ["b", "d"] ∧
      Apart path ["a", "g"] ∧ tree.set ["b", "d"] (.int 7) = tree ∧
      (tree.set path value).find? ["b", "c", "e", "f"] = some (.text "y") ∧
      (∃ fields, (tree.set path value).find? ["b", "c"] = some (.object fields)) ∧
      (tree.set path value).find? ["b", "d"] = some (.int 7) ∧
      (tree.set path value).set ["a", "g"] .null = (tree.set ["a", "g"] .null).set path value := by
  intro tree path value
  have ordered : tree.Ordered := by
    simp only [tree, Ordered, OrderedFields, Fields.Ascending, Fields.keys]
    decide
  have apart : Apart path ["b", "d"] := by decide
  have apartLeaf : Apart path ["a", "g"] := by decide
  have found : tree.find? ["b", "d"] = some (.int 7) := by rfl
  obtain ⟨below, above, beside, _, _, swap⟩ := set_lawful tree path value
  obtain ⟨_, _, _, _, back, _⟩ := set_lawful tree ["b", "d"] (.int 7)
  exact ⟨ordered, found, apart, apartLeaf, back ordered found, below ["f"],
    above ["b", "c"] (by decide) (by decide), (beside _ apart).trans found, swap _ _ apartLeaf⟩

end ProverInput.Tree

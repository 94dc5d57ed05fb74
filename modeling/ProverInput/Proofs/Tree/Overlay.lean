import ProverInput.Proofs.Tree.Lookup

/-!
What shows at a path when a tree is laid over another. A leaf of the upper tree hides everything
under it, objects are combined, and elsewhere the lower tree shows.
-/

namespace ProverInput.Tree

/-- A leaf of the tree stands on the way to the end of the path, or there. -/
def Hides (tree : Tree) (path : List String) : Prop :=
  ∃ before leaf, before <+: path ∧ tree.find? before = some leaf ∧ leaf.isObject = false

variable {base top upper leaf : Tree} {path rest : List String} {key : String}

theorem hides_nil : top.Hides [] ↔ top.isObject = false := by
  constructor
  · rintro ⟨before, leaf, onTheWay, found, isLeaf⟩
    obtain rfl := List.prefix_nil.mp onTheWay
    obtain rfl := Option.some.inj found
    exact isLeaf
  · intro isLeaf
    exact ⟨[], top, List.prefix_rfl, rfl, isLeaf⟩

theorem hides_cons :
    top.Hides (key :: rest) ↔ top.isObject = false ∨
      ∃ child, top.fields.lookup key = some child ∧ child.Hides rest := by
  constructor
  · rintro ⟨before, leaf, onTheWay, found, isLeaf⟩
    cases before with
    | nil =>
        obtain rfl := Option.some.inj found
        exact Or.inl isLeaf
    | cons head before =>
        obtain ⟨rfl, below⟩ := List.cons_prefix_cons.mp onTheWay
        rw [find?_cons] at found
        obtain ⟨child, held, inner⟩ := Option.bind_eq_some_iff.mp found
        exact Or.inr ⟨child, held, before, leaf, below, inner, isLeaf⟩
  · rintro (isLeaf | ⟨child, held, before, leaf, onTheWay, inner, isLeaf⟩)
    · exact ⟨[], top, List.nil_prefix, rfl, isLeaf⟩
    · refine ⟨key :: before, leaf, List.cons_prefix_cons.mpr ⟨rfl, onTheWay⟩, ?_, isLeaf⟩
      rw [find?_cons, held]
      exact inner

theorem clear_of_not_hides (bare : ¬ top.Hides path) : top.Clear path := by
  induction path generalizing top with
  | nil => exact trivial
  | cons key rest ih =>
      rw [hides_cons, not_or] at bare
      refine ⟨Bool.not_eq_false _ ▸ bare.1, ?_⟩
      intro child held
      exact ih fun hides => bare.2 ⟨child, held, hides⟩

theorem combined_leaf {held : Option Tree} (leaves : ∀ lower, held = some lower →
    lower.isObject = false) (value : Tree) : combined held value = value := by
  cases held with
  | none => rfl
  | some lower => rw [combined, leaves lower rfl, if_neg Bool.false_ne_true]

theorem overlay_of_leaf (isLeaf : base.isObject = false) (ordered : top.Ordered) :
    base.overlay top = top := by
  cases top with
  | object fields =>
      have covered : ((object []).overlay (.object fields)).Ordered :=
        Ordered.overlay ⟨List.Pairwise.nil, trivial⟩ ordered
      have kept : overlayFields [] fields = fields := by
        apply Fields.ext_lookup covered.1 ordered.1
        intro key
        rw [lookup_overlayFields ordered.1]
        cases fields.lookup key <;> rfl
      rw [overlay, fields_leaf isLeaf, kept]
  | _ => rfl

theorem find?_overlay_of_hides (ordered : top.Ordered) (hides : top.Hides path) (base : Tree) :
    (base.overlay top).find? path = top.find? path := by
  induction path generalizing top base with
  | nil => rw [overlay_leaf (hides_nil.mp hides)]
  | cons key rest ih =>
      cases isObject : top.isObject with
      | false => rw [overlay_leaf isObject]
      | true =>
          have below := hides_cons.mp hides
          rw [isObject] at below
          obtain ⟨child, held, childHides⟩ := below.resolve_left Bool.true_eq_false.mp
          have childOrdered := ordered_lookup ordered.fields.2 held
          rw [find?_cons, find?_cons, lookup_overlay ordered isObject, held]
          simp only [Option.bind_some]
          cases base.fields.lookup key with
          | none => rfl
          | some lower =>
              rw [combined]
              split
              · exact ih childOrdered childHides lower
              · rfl

theorem find?_overlay_of_found (ordered : top.Ordered) (bare : ¬ top.Hides path)
    (found : top.find? path = some upper) (base : Tree) :
    (base.overlay top).find? path = some (combined (base.find? path) upper) := by
  induction path generalizing top base with
  | nil =>
      obtain rfl := Option.some.inj found
      rw [find?, find?, combined]
      split
      · rfl
      · rename_i isLeaf
        rw [overlay_of_leaf (Bool.eq_false_iff.mpr isLeaf) ordered]
  | cons key rest ih =>
      have clear := clear_of_not_hides bare
      rw [find?_cons] at found
      obtain ⟨child, held, inner⟩ := Option.bind_eq_some_iff.mp found
      have childBare : ¬ child.Hides rest := fun hides =>
        bare (hides_cons.mpr (Or.inr ⟨child, held, hides⟩))
      have childOrdered := ordered_lookup ordered.fields.2 held
      rw [find?_cons, find?_cons, lookup_overlay ordered clear.1, held]
      simp only [Option.bind_some]
      cases below : base.fields.lookup key with
      | none => exact inner
      | some lower =>
          cases isObject : lower.isObject with
          | true =>
              rw [combined, isObject, if_pos rfl]
              exact ih childOrdered childBare inner lower
          | false =>
              have leaves : ∀ found, lower.find? rest = some found → found.isObject = false := by
                intro found reached
                cases rest with
                | nil => exact Option.some.inj reached ▸ isObject
                | cons next later =>
                    rw [find?_leaf isObject] at reached
                    contradiction
              rw [combined, isObject, if_neg Bool.false_ne_true, Option.bind_some,
                combined_leaf leaves, inner]

/-- A tree laid over another, path by path. Where the upper tree has a leaf, on the way or at the
end, it shows alone. Where it has an object, that object shows, laid over an object of the lower
tree if there is one. Where it has nothing the lower tree shows. So the leaves of the upper tree
show, and nothing shows that neither tree has. -/
theorem overlay_by_lookup (base top : Tree) (ordered : top.Ordered) (path : List String) :
    (top.Hides path → (base.overlay top).find? path = top.find? path) ∧
      (¬ top.Hides path → ∀ upper, top.find? path = some (.object upper) →
        (∀ lower, base.find? path = some (.object lower) →
          (base.overlay top).find? path = some ((object lower).overlay (.object upper))) ∧
        ((∀ lower, base.find? path ≠ some (.object lower)) →
          (base.overlay top).find? path = some (.object upper))) ∧
      (¬ top.Hides path → top.find? path = none →
        (base.overlay top).find? path = base.find? path) ∧
      (∀ leaf, top.find? path = some leaf → leaf.isObject = false →
        (base.overlay top).find? path = some leaf) ∧
      (((base.overlay top).find? path).isSome = true →
        (top.find? path).isSome = true ∨ (base.find? path).isSome = true) := by
  have hidden (hides : top.Hides path) := find?_overlay_of_hides ordered hides base
  have bare (clear : ¬ top.Hides path) (missing : top.find? path = none) :=
    find?_overlay_of_none ordered (clear_of_not_hides clear) missing base
  refine ⟨hidden, ?_, bare, ?_, ?_⟩
  · intro clear upper found
    have shown := find?_overlay_of_found ordered clear found base
    constructor
    · intro lower held
      rw [shown, held]
      rfl
    · intro noObject
      rw [shown, combined_leaf]
      intro lower held
      cases lower with
      | object fields => exact absurd held (noObject fields)
      | _ => rfl
  · intro leaf found isLeaf
    exact find?_overlay_leaf ordered isLeaf found base
  · intro shown
    by_cases hides : top.Hides path
    · rw [hidden hides] at shown
      exact Or.inl shown
    · cases found : top.find? path with
      | some upper => exact Or.inl rfl
      | none =>
          rw [bare hides found] at shown
          exact Or.inr shown

theorem overlay_by_lookup_mixed :
    let base : Tree := .object [("a", .object [("b", .int 1), ("c", .text "low")]),
      ("d", .text "leaf"), ("e", .object [("f", .null)])]
    let top : Tree := .object [("a", .object [("b", .object [("g", .null)])]),
      ("d", .object [("h", .text "high")]), ("e", .null)]
    top.Ordered ∧ top.Hides ["e", "f"] ∧ ¬ top.Hides ["a", "c"] ∧ ¬ top.Hides ["d"] ∧
      (base.overlay top).find? ["e", "f"] = none ∧
      (base.overlay top).find? ["a", "c"] = some (.text "low") ∧
      (base.overlay top).find? ["d"] = some (.object [("h", .text "high")]) ∧
      (base.overlay top).find? ["a"]
        = some (.object [("b", .object [("g", .null)]), ("c", .text "low")]) := by
  intro base top
  have ordered : top.Ordered := by
    simp only [top, Ordered, OrderedFields, Fields.Ascending, Fields.keys]
    decide
  have hides : top.Hides ["e", "f"] := ⟨["e"], .null, by decide, by rfl, rfl⟩
  have bare : ¬ top.Hides ["a", "c"] ∧ ¬ top.Hides ["d"] ∧ ¬ top.Hides ["a"] := by
    simp [top, hides_cons, hides_nil, fields, isObject, List.lookup_cons]
  obtain ⟨hidden, _⟩ := overlay_by_lookup base top ordered ["e", "f"]
  obtain ⟨_, _, missing, _⟩ := overlay_by_lookup base top ordered ["a", "c"]
  obtain ⟨_, replaced, _⟩ := overlay_by_lookup base top ordered ["d"]
  obtain ⟨_, merged, _⟩ := overlay_by_lookup base top ordered ["a"]
  refine ⟨ordered, hides, bare.1, bare.2.1, (hidden hides).trans (by rfl),
    (missing bare.1 (by rfl)).trans (by rfl), ?_, ?_⟩
  · exact (replaced bare.2.1 _ (by rfl)).2 (by simp [base, find?, fields, List.lookup_cons])
  · exact (merged bare.2.2 _ (by rfl)).1 _ (by rfl)

end ProverInput.Tree

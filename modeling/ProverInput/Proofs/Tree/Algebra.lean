import ProverInput.Proofs.Tree.Overlay

/-!
The algebra of laying trees over each other. Laying a tree over another twice is laying it once, and
three trees may be laid in either grouping unless a leaf of the middle one parts two objects.
-/

namespace ProverInput.Tree

variable {base middle top : Tree} {path rest : List String} {key : String}

theorem mem_of_lookup {fields : List (String × Tree)} {child : Tree}
    (held : fields.lookup key = some child) : (key, child) ∈ fields := by
  obtain ⟨before, after, rfl, _⟩ := List.lookup_eq_some_iff.mp held
  exact List.mem_append_right before List.mem_cons_self

theorem isObject_of_lookup {tree child : Tree} (held : tree.fields.lookup key = some child) :
    tree.isObject = true := by
  cases tree with
  | object fields => rfl
  | _ => contradiction

theorem isObject_overlay (base top : Tree) : (base.overlay top).isObject = top.isObject := by
  cases top <;> rfl

theorem combined_some {upper : Tree} (ordered : upper.Ordered) (lower : Tree) :
    combined (some lower) upper = lower.overlay upper := by
  rw [combined]
  split
  · rfl
  · rename_i isLeaf
    exact (overlay_of_leaf (Bool.eq_false_iff.mpr isLeaf) ordered).symm

theorem eq_of_lookup {tree other : Tree} (ordered : tree.Ordered) (otherOrdered : other.Ordered)
    (isObject : tree.isObject = true) (otherObject : other.isObject = true)
    (same : ∀ key, tree.fields.lookup key = other.fields.lookup key) : tree = other := by
  cases tree with
  | object fields =>
      cases other with
      | object others => exact congrArg object (Fields.ext_lookup ordered.1 otherOrdered.1 same)
      | _ => contradiction
  | _ => contradiction

theorem overlay_self (ordered : base.Ordered) : base.overlay base = base := by
  induction base using Tree.induct with
  | null => rfl
  | int value => rfl
  | text value => rfl
  | object fields ih =>
      apply eq_of_lookup (ordered.overlay ordered) ordered rfl rfl
      intro key
      rw [lookup_overlay ordered rfl]
      cases held : (object fields).fields.lookup key with
      | none => rfl
      | some child =>
          have childOrdered := ordered_lookup ordered.2 held
          simp only [combined_some childOrdered, ih _ (mem_of_lookup held) childOrdered]

/-- At the path the lower and the upper tree hold these objects, and the tree between them a leaf. -/
structure Parted (base middle top : Tree) (path : List String)
    (low high : List (String × Tree)) : Prop where
  below : base.find? path = some (.object low)
  between : ∃ leaf, middle.find? path = some leaf ∧ leaf.isObject = false
  above : top.find? path = some (.object high)

theorem parted_cons {low high : List (String × Tree)} :
    Parted base middle top (key :: rest) low high ↔ ∃ lower inner upper,
      base.fields.lookup key = some lower ∧ middle.fields.lookup key = some inner ∧
        top.fields.lookup key = some upper ∧ Parted lower inner upper rest low high := by
  constructor
  · rintro ⟨below, ⟨leaf, between, isLeaf⟩, above⟩
    rw [find?_cons] at below between above
    obtain ⟨lower, lowerHeld, below⟩ := Option.bind_eq_some_iff.mp below
    obtain ⟨inner, innerHeld, between⟩ := Option.bind_eq_some_iff.mp between
    obtain ⟨upper, upperHeld, above⟩ := Option.bind_eq_some_iff.mp above
    exact ⟨lower, inner, upper, lowerHeld, innerHeld, upperHeld, below, ⟨leaf, between, isLeaf⟩,
      above⟩
  · rintro ⟨lower, inner, upper, lowerHeld, innerHeld, upperHeld, below, ⟨leaf, between, isLeaf⟩,
      above⟩
    refine ⟨?_, ⟨leaf, ?_, isLeaf⟩, ?_⟩
    · rw [find?_cons, lowerHeld]
      exact below
    · rw [find?_cons, innerHeld]
      exact between
    · rw [find?_cons, upperHeld]
      exact above

theorem lookup_groupings (base : Tree) {inner upper : Tree} (ordered : middle.Ordered)
    (topOrdered : top.Ordered)
    (innerHeld : middle.fields.lookup key = some inner)
    (upperHeld : top.fields.lookup key = some upper) :
    ((base.overlay middle).overlay top).fields.lookup key
        = some ((combined (base.fields.lookup key) inner).overlay upper) ∧
      (base.overlay (middle.overlay top)).fields.lookup key
        = some (combined (base.fields.lookup key) (inner.overlay upper)) := by
  have object := isObject_of_lookup innerHeld
  have topObject := isObject_of_lookup upperHeld
  have upperOrdered := ordered_lookup topOrdered.fields.2 upperHeld
  have coveredObject : (middle.overlay top).isObject = true := by
    rw [isObject_overlay, topObject]
  constructor
  · rw [lookup_overlay topOrdered topObject, lookup_overlay ordered object, innerHeld, upperHeld]
    simp only [combined_some upperOrdered]
  · rw [lookup_overlay (ordered.overlay topOrdered) coveredObject,
      lookup_overlay topOrdered topObject, innerHeld, upperHeld]
    simp only [combined_some upperOrdered]

theorem lookup_overlay_assoc (ordered : middle.Ordered) (topOrdered : top.Ordered)
    (object : middle.isObject = true) (topObject : top.isObject = true)
    (below : ∀ lower inner upper, base.fields.lookup key = some lower →
      middle.fields.lookup key = some inner → top.fields.lookup key = some upper →
      (lower.overlay inner).overlay upper = lower.overlay (inner.overlay upper)) :
    ((base.overlay middle).overlay top).fields.lookup key
      = (base.overlay (middle.overlay top)).fields.lookup key := by
  have coveredOrdered := ordered.overlay topOrdered
  have coveredObject : (middle.overlay top).isObject = true := by
    rw [isObject_overlay, topObject]
  cases upperHeld : top.fields.lookup key with
  | none =>
      rw [lookup_overlay topOrdered topObject, lookup_overlay ordered object, upperHeld,
        lookup_overlay coveredOrdered coveredObject, lookup_overlay topOrdered topObject, upperHeld]
  | some upper =>
      cases innerHeld : middle.fields.lookup key with
      | none =>
          rw [lookup_overlay topOrdered topObject, lookup_overlay ordered object, upperHeld,
            innerHeld, lookup_overlay coveredOrdered coveredObject,
            lookup_overlay topOrdered topObject, upperHeld, innerHeld]
          rfl
      | some inner =>
          obtain ⟨left, right⟩ := lookup_groupings base ordered topOrdered innerHeld upperHeld
          rw [left, right]
          cases lowerHeld : base.fields.lookup key with
          | none => rfl
          | some lower =>
              have innerOrdered := ordered_lookup ordered.fields.2 innerHeld
              have upperOrdered := ordered_lookup topOrdered.fields.2 upperHeld
              rw [combined_some innerOrdered, combined_some (innerOrdered.overlay upperOrdered),
                below lower inner upper lowerHeld innerHeld upperHeld]

/-- The grouping does not matter if each parted object is covered by the one above the leaf. -/
theorem overlay_assoc_of_covered (ordered : base.Ordered) (middleOrdered : middle.Ordered)
    (topOrdered : top.Ordered)
    (covered : ∀ path low high, Parted base middle top path low high →
      (object low).overlay (.object high) = .object high) :
    (base.overlay middle).overlay top = base.overlay (middle.overlay top) := by
  induction top using Tree.induct generalizing base middle with
  | null => rfl
  | int value => rfl
  | text value => rfl
  | object high ih =>
      cases isObject : middle.isObject with
      | false =>
          rw [overlay_leaf isObject, overlay_of_leaf isObject topOrdered]
          cases base with
          | object low => exact (covered [] low high ⟨rfl, ⟨_, rfl, isObject⟩, rfl⟩).symm
          | _ => exact (overlay_of_leaf rfl topOrdered).symm
      | true =>
          apply eq_of_lookup ((ordered.overlay middleOrdered).overlay topOrdered)
            (ordered.overlay (middleOrdered.overlay topOrdered)) rfl rfl
          intro key
          apply lookup_overlay_assoc middleOrdered topOrdered isObject rfl
          intro lower inner upper lowerHeld innerHeld upperHeld
          apply ih _ (mem_of_lookup upperHeld) (ordered_lookup ordered.fields.2 lowerHeld)
            (ordered_lookup middleOrdered.fields.2 innerHeld)
            (ordered_lookup topOrdered.2 upperHeld)
          intro rest low high parted
          exact covered (key :: rest) low high
            (parted_cons.mpr ⟨lower, inner, upper, lowerHeld, innerHeld, upperHeld, parted⟩)

theorem covered_of_overlay_assoc {low high : List (String × Tree)}
    (middleOrdered : middle.Ordered) (topOrdered : top.Ordered)
    (grouped : (base.overlay middle).overlay top = base.overlay (middle.overlay top))
    (parted : Parted base middle top path low high) :
    (object low).overlay (.object high) = .object high := by
  induction path generalizing base middle top with
  | nil =>
      obtain ⟨below, ⟨leaf, between, isLeaf⟩, above⟩ := parted
      obtain rfl := Option.some.inj below
      obtain rfl := Option.some.inj between
      obtain rfl := Option.some.inj above
      rw [overlay_leaf isLeaf, overlay_of_leaf isLeaf topOrdered] at grouped
      exact grouped.symm
  | cons key rest ih =>
      obtain ⟨lower, inner, upper, lowerHeld, innerHeld, upperHeld, below⟩ := parted_cons.mp parted
      have innerOrdered := ordered_lookup middleOrdered.fields.2 innerHeld
      have upperOrdered := ordered_lookup topOrdered.fields.2 upperHeld
      obtain ⟨left, right⟩ := lookup_groupings base middleOrdered topOrdered innerHeld upperHeld
      rw [grouped, right, lowerHeld, combined_some innerOrdered,
        combined_some (innerOrdered.overlay upperOrdered), Option.some.injEq] at left
      exact ih innerOrdered upperOrdered left.symm below

/-- Laying trees over each other, grouped. A tree laid over itself or twice over another changes
nothing more. Where a leaf of the middle tree parts two objects, the grouping shows whether the
lower one comes back; it is the only thing that makes a difference. -/
theorem overlay_lawful (base middle top : Tree) (ordered : base.Ordered)
    (middleOrdered : middle.Ordered) (topOrdered : top.Ordered) :
    base.overlay base = base ∧
      (base.overlay middle).overlay middle = base.overlay middle ∧
      ((∀ path low high, ¬ Parted base middle top path low high) →
        (base.overlay middle).overlay top = base.overlay (middle.overlay top)) ∧
      ((base.overlay middle).overlay top = base.overlay (middle.overlay top) ↔
        ∀ path low high, Parted base middle top path low high →
          (object low).overlay (.object high) = .object high) := by
  have assoc_iff {upper : Tree} (upperOrdered : upper.Ordered) :
      (base.overlay middle).overlay upper = base.overlay (middle.overlay upper) ↔
        ∀ path low high, Parted base middle upper path low high →
          (object low).overlay (.object high) = .object high :=
    ⟨fun grouped path low high => covered_of_overlay_assoc middleOrdered upperOrdered grouped,
      overlay_assoc_of_covered ordered middleOrdered upperOrdered⟩
  refine ⟨overlay_self ordered, ?_, ?_, assoc_iff topOrdered⟩
  · have whole : ∀ path low high, ¬ Parted base middle middle path low high := by
      rintro path low high ⟨_, ⟨leaf, between, isLeaf⟩, above⟩
      rw [above] at between
      obtain rfl := Option.some.inj between
      contradiction
    rw [(assoc_iff middleOrdered).mpr fun path low high parted =>
      absurd parted (whole path low high), overlay_self middleOrdered]
  · intro whole
    exact (assoc_iff topOrdered).mpr fun path low high parted =>
      absurd parted (whole path low high)

theorem overlay_lawful_parted :
    let base : Tree := .object [("a", .object [("x", .int 1)]), ("b", .object [("c", .null)])]
    let middle : Tree := .object [("a", .object [("y", .text "m")])]
    let leaf : Tree := .object [("a", .object [("y", .text "m")]), ("b", .text "leaf")]
    let top : Tree := .object [("a", .object [("x", .null)]), ("b", .object [("d", .int 2)])]
    base.Ordered ∧ middle.Ordered ∧ leaf.Ordered ∧ top.Ordered ∧
      (∀ path low high, ¬ Parted base middle top path low high) ∧
      Parted base leaf top ["b"] [("c", .null)] [("d", .int 2)] ∧
      base.overlay base = base ∧ (base.overlay leaf).overlay leaf = base.overlay leaf ∧
      (base.overlay middle).overlay top = base.overlay (middle.overlay top) ∧
      (base.overlay leaf).overlay top ≠ base.overlay (leaf.overlay top) := by
  intro base middle leaf top
  have ordered : base.Ordered ∧ middle.Ordered ∧ leaf.Ordered ∧ top.Ordered := by
    simp only [base, middle, leaf, top, Ordered, OrderedFields, Fields.Ascending, Fields.keys]
    decide
  have whole : ∀ path low high, ¬ Parted base middle top path low high := by
    intro path low high parted
    cases path with
    | nil =>
        obtain ⟨leaf, between, isLeaf⟩ := parted.between
        obtain rfl := Option.some.inj between
        contradiction
    | cons key rest =>
        obtain ⟨lower, inner, upper, lowerHeld, innerHeld, _, below⟩ := parted_cons.mp parted
        by_cases shared : key = "a"
        · subst shared
          obtain rfl := Option.some.inj lowerHeld
          obtain rfl := Option.some.inj innerHeld
          cases rest with
          | nil =>
              obtain ⟨leaf, between, isLeaf⟩ := below.between
              obtain rfl := Option.some.inj between
              contradiction
          | cons next rest =>
              -- below it the two have no key in common
              obtain ⟨_, _, _, lowerNext, innerNext, _⟩ := parted_cons.mp below
              by_cases same : next = "x"
              · subst same
                contradiction
              · simp [fields, List.lookup_cons, beq_eq_false_iff_ne.mpr same] at lowerNext
        · simp [middle, fields, List.lookup_cons, beq_eq_false_iff_ne.mpr shared] at innerHeld
  have parted : Parted base leaf top ["b"] [("c", .null)] [("d", .int 2)] :=
    ⟨by rfl, ⟨.text "leaf", by rfl, rfl⟩, by rfl⟩
  obtain ⟨self, _, grouped, _⟩ := overlay_lawful base middle top ordered.1 ordered.2.1 ordered.2.2.2
  obtain ⟨_, again, _, grouping⟩ :=
    overlay_lawful base leaf top ordered.1 ordered.2.2.1 ordered.2.2.2
  refine ⟨ordered.1, ordered.2.1, ordered.2.2.1, ordered.2.2.2, whole, parted, self, again,
    grouped whole, ?_⟩
  intro same
  have covered := grouping.mp same _ _ _ parted
  revert covered
  decide

end ProverInput.Tree

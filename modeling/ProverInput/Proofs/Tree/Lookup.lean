import ProverInput.Tree.Basic

/-!
What a tree holds after a value was put at a path, and after another tree was laid over it. Paths
apart from each other do not meet, and a path is clear when no leaf stands on its way.
-/

namespace ProverInput

def Path.Apart (path other : List String) : Prop :=
  ¬path <+: other ∧ ¬other <+: path

instance (path other : List String) : Decidable (Path.Apart path other) :=
  inferInstanceAs (Decidable (_ ∧ _))

theorem Path.apart_cons {key : String} {path other : List String} :
    Apart (key :: path) (key :: other) ↔ Apart path other := by
  simp only [Apart, List.prefix_cons_inj]

namespace Tree

open ProverInput.Path (Apart)

theorem find?_cons (tree : Tree) (key : String) (rest : List String) :
    tree.find? (key :: rest) = (tree.fields.lookup key).bind (·.find? rest) := by
  rw [find?]
  cases tree.fields.lookup key <;> rfl

theorem lookup_set_self (tree : Tree) (key : String) (rest : List String) (value : Tree) :
    (tree.set (key :: rest) value).fields.lookup key
      = some (((tree.fields.lookup key).getD .null).set rest value) :=
  Fields.lookup_insert_self key _ tree.fields

theorem lookup_set_of_ne {key other : String} (different : other ≠ key) (tree : Tree)
    (rest : List String) (value : Tree) :
    (tree.set (key :: rest) value).fields.lookup other = tree.fields.lookup other :=
  Fields.lookup_insert_of_ne different _ tree.fields

theorem find?_set_self (tree : Tree) (path : List String) (value : Tree) :
    (tree.set path value).find? path = some value := by
  induction path generalizing tree with
  | nil => rfl
  | cons key rest ih =>
      rw [find?_cons, lookup_set_self]
      exact ih _

theorem find?_set_of_apart {path other : List String} (apart : Apart path other) (tree : Tree)
    (value : Tree) : (tree.set path value).find? other = tree.find? other := by
  induction path generalizing tree other with
  | nil => exact absurd List.nil_prefix apart.1
  | cons key rest ih =>
      cases other with
      | nil => exact absurd List.nil_prefix apart.2
      | cons head later =>
          rw [find?_cons, find?_cons]
          by_cases same : head = key
          · subst same
            rw [lookup_set_self, Option.bind_some, ih (Path.apart_cons.mp apart)]
            cases tree.fields.lookup head with
            | some child => rfl
            | none =>
                cases later with
                | nil => exact absurd List.nil_prefix (Path.apart_cons.mp apart).2
                | cons next later => rfl
          · rw [lookup_set_of_ne same]

theorem set_set_self (tree : Tree) (key : String) (rest later : List String) (value held : Tree) :
    (tree.set (key :: rest) value).set (key :: later) held
      = .object (Fields.insert key
          ((((tree.fields.lookup key).getD .null).set rest value).set later held) tree.fields) := by
  rw [set, lookup_set_self, Option.getD_some, set]
  exact congrArg Tree.object (Fields.insert_insert_self key _ _ tree.fields)

theorem set_set_of_ne {key other : String} (different : other ≠ key) (tree : Tree)
    (rest later : List String) (value held : Tree) :
    (tree.set (key :: rest) value).set (other :: later) held
      = .object (Fields.insert other (((tree.fields.lookup other).getD .null).set later held)
          (Fields.insert key (((tree.fields.lookup key).getD .null).set rest value)
            tree.fields)) := by
  rw [set, lookup_set_of_ne different]
  rfl

theorem set_comm {path other : List String} (apart : Apart path other) (tree value held : Tree) :
    (tree.set path value).set other held = (tree.set other held).set path value := by
  induction path generalizing tree other with
  | nil => exact absurd List.nil_prefix apart.1
  | cons key rest ih =>
      cases other with
      | nil => exact absurd List.nil_prefix apart.2
      | cons head later =>
          by_cases same : head = key
          · subst same
            rw [set_set_self, set_set_self, ih (Path.apart_cons.mp apart)]
          · rw [set_set_of_ne same, set_set_of_ne (Ne.symm same), Fields.insert_comm same]

theorem ordered_lookup {fields : List (String × Tree)} (children : OrderedFields fields)
    {key : String} {child : Tree} (found : fields.lookup key = some child) : child.Ordered := by
  induction fields with
  | nil => contradiction
  | cons field rest ih =>
      obtain ⟨first, others⟩ := children
      rw [List.lookup_cons] at found
      split at found
      · exact Option.some.inj found ▸ first
      · exact ih others found

theorem orderedFields_insert {fields : List (String × Tree)} (children : OrderedFields fields)
    (key : String) {value : Tree} (ordered : value.Ordered) :
    OrderedFields (Fields.insert key value fields) := by
  induction fields with
  | nil => exact ⟨ordered, trivial⟩
  | cons field rest ih =>
      rw [Fields.insert]
      split
      · exact ⟨ordered, children⟩
      · split
        · exact ⟨ordered, children.2⟩
        · exact ⟨children.1, ih children.2⟩

theorem Ordered.fields {tree : Tree} (ordered : tree.Ordered) :
    Fields.Ascending tree.fields ∧ OrderedFields tree.fields := by
  cases tree with
  | object fields => exact ordered
  | _ => exact ⟨List.Pairwise.nil, trivial⟩

theorem Ordered.set {tree value : Tree} (ordered : tree.Ordered) (leaf : value.Ordered)
    (path : List String) : (tree.set path value).Ordered := by
  induction path generalizing tree with
  | nil => exact leaf
  | cons key rest ih =>
      obtain ⟨ascending, children⟩ := ordered.fields
      have child : ((tree.fields.lookup key).getD .null).Ordered := by
        cases found : tree.fields.lookup key with
        | none => exact trivial
        | some child => exact ordered_lookup children found
      exact ⟨Fields.ascending_insert key _ ascending, orderedFields_insert children key (ih child)⟩

def Clear : Tree → List String → Prop
  | _, [] => True
  | tree, key :: rest =>
    tree.isObject = true ∧ ∀ child, tree.fields.lookup key = some child → child.Clear rest

theorem clear_empty (path : List String) : (object []).Clear path := by
  cases path with
  | nil => exact trivial
  | cons key rest => exact ⟨rfl, by simp [fields]⟩

theorem clear_set_self (tree value : Tree) (path : List String) :
    (tree.set path value).Clear path := by
  induction path generalizing tree with
  | nil => exact trivial
  | cons key rest ih =>
      refine ⟨rfl, ?_⟩
      intro child found
      rw [lookup_set_self] at found
      exact Option.some.inj found ▸ ih _

theorem Clear.set_of_apart {tree value : Tree} {path other : List String} (apart : Apart path other)
    (clear : tree.Clear other) : (tree.set path value).Clear other := by
  induction path generalizing tree other with
  | nil => exact absurd List.nil_prefix apart.1
  | cons key rest ih =>
      cases other with
      | nil => exact trivial
      | cons head later =>
          refine ⟨rfl, ?_⟩
          intro child found
          by_cases same : head = key
          · subst same
            have inner := Path.apart_cons.mp apart
            rw [lookup_set_self] at found
            obtain rfl := Option.some.inj found
            cases held : tree.fields.lookup head with
            | some old => exact ih inner (clear.2 old held)
            | none =>
                -- what is put into a missing child is put into an empty object
                cases rest with
                | nil => exact absurd List.nil_prefix inner.1
                | cons next rest =>
                    have fresh : ((object []).set (next :: rest) value).Clear later :=
                      ih inner (clear_empty later)
                    exact fresh
          · rw [lookup_set_of_ne same] at found
            exact clear.2 child found

def combined (held : Option Tree) (value : Tree) : Tree :=
  match held with
  | some child => if child.isObject then child.overlay value else value
  | none => value

theorem overlayFields_cons (base : List (String × Tree)) (key : String) (value : Tree)
    (rest : List (String × Tree)) :
    overlayFields base ((key, value) :: rest)
      = overlayFields (Fields.insert key (combined (base.lookup key) value) base) rest :=
  rfl

theorem lookup_overlayFields {top : List (String × Tree)} (ascending : Fields.Ascending top)
    (base : List (String × Tree)) (key : String) :
    (overlayFields base top).lookup key
      = match top.lookup key with
        | some value => some (combined (base.lookup key) value)
        | none => base.lookup key := by
  induction top generalizing base with
  | nil => rfl
  | cons field rest ih =>
      obtain ⟨head, value⟩ := field
      obtain ⟨smaller, ascendingRest⟩ := List.pairwise_cons.mp ascending
      rw [overlayFields_cons, ih ascendingRest]
      by_cases same : key = head
      · subst same
        have fresh : rest.lookup key = none := Fields.lookup_eq_none_of_below smaller
        rw [fresh, List.lookup_cons_self, Fields.lookup_insert_self]
      · have unequal : (key == head) = false := by simpa using same
        rw [Fields.lookup_insert_of_ne same, List.lookup_cons, unequal]

theorem ordered_overlayFields {base top : List (String × Tree)}
    (ascending : Fields.Ascending base) (children : OrderedFields base)
    (leaves : ∀ field ∈ top, field.2.Ordered)
    (overlays : ∀ field ∈ top, ∀ held : Tree, held.Ordered → (held.overlay field.2).Ordered) :
    Fields.Ascending (overlayFields base top) ∧ OrderedFields (overlayFields base top) := by
  induction top generalizing base with
  | nil => exact ⟨ascending, children⟩
  | cons field rest ih =>
      obtain ⟨key, value⟩ := field
      have leaf := leaves _ List.mem_cons_self
      have child : (combined (base.lookup key) value).Ordered := by
        cases found : base.lookup key with
        | none => exact leaf
        | some held =>
            rw [combined]
            split
            · exact overlays _ List.mem_cons_self held (ordered_lookup children found)
            · exact leaf
      rw [overlayFields_cons]
      exact ih (Fields.ascending_insert key _ ascending) (orderedFields_insert children key child)
        (fun field member => leaves field (List.mem_cons_of_mem _ member))
        (fun field member => overlays field (List.mem_cons_of_mem _ member))

theorem orderedFields_iff (fields : List (String × Tree)) :
    OrderedFields fields ↔ ∀ field ∈ fields, field.2.Ordered := by
  induction fields with
  | nil => simp [OrderedFields]
  | cons field rest ih => simp [OrderedFields, ih]

theorem Ordered.overlay {base top : Tree} (ordered : base.Ordered) (topOrdered : top.Ordered) :
    (base.overlay top).Ordered := by
  induction top using Tree.induct generalizing base with
  | null => exact trivial
  | int value => exact trivial
  | text value => exact trivial
  | object fields ih =>
      obtain ⟨ascending, children⟩ := ordered.fields
      have leaves := (orderedFields_iff fields).mp topOrdered.2
      exact ordered_overlayFields ascending children leaves
        fun field member held heldOrdered => ih field member heldOrdered (leaves field member)

theorem overlay_leaf {value : Tree} (leaf : value.isObject = false) (base : Tree) :
    base.overlay value = value := by
  cases value with
  | object fields => contradiction
  | _ => rfl

theorem fields_leaf {value : Tree} (leaf : value.isObject = false) : value.fields = [] := by
  cases value with
  | object fields => contradiction
  | _ => rfl

theorem find?_leaf {value : Tree} (leaf : value.isObject = false) (key : String)
    (rest : List String) : value.find? (key :: rest) = none := by
  rw [find?_cons, fields_leaf leaf]
  rfl

theorem lookup_overlay {top : Tree} (ordered : top.Ordered) (object : top.isObject = true)
    (base : Tree) (key : String) :
    (base.overlay top).fields.lookup key
      = match top.fields.lookup key with
        | some value => some (combined (base.fields.lookup key) value)
        | none => base.fields.lookup key := by
  cases top with
  | object fields => exact lookup_overlayFields ordered.1 base.fields key
  | _ => contradiction

theorem find?_overlay_leaf {top value : Tree} {path : List String} (ordered : top.Ordered)
    (leaf : value.isObject = false) (found : top.find? path = some value) (base : Tree) :
    (base.overlay top).find? path = some value := by
  induction path generalizing top base with
  | nil =>
      obtain rfl := Option.some.inj found
      rw [overlay_leaf leaf, found]
  | cons key rest ih =>
      cases isObject : top.isObject with
      | false =>
          rw [find?_leaf isObject] at found
          contradiction
      | true =>
          rw [find?_cons] at found ⊢
          obtain ⟨child, held, inner⟩ := Option.bind_eq_some_iff.mp found
          have childOrdered := ordered_lookup ordered.fields.2 held
          rw [lookup_overlay ordered isObject, held]
          simp only [Option.bind_some]
          cases below : base.fields.lookup key with
          | none => exact inner
          | some lower =>
              rw [combined]
              split
              · exact ih childOrdered inner lower
              · exact inner

/-- Where the upper tree holds nothing and no leaf of it stands on the way, the lower tree shows. -/
theorem find?_overlay_of_none {top : Tree} {path : List String} (ordered : top.Ordered)
    (clear : top.Clear path) (missing : top.find? path = none) (base : Tree) :
    (base.overlay top).find? path = base.find? path := by
  induction path generalizing top base with
  | nil => contradiction
  | cons key rest ih =>
      rw [find?_cons] at missing ⊢
      rw [lookup_overlay ordered clear.1, find?_cons]
      cases held : top.fields.lookup key with
      | none => rfl
      | some child =>
          rw [held, Option.bind_some] at missing
          have childOrdered := ordered_lookup ordered.fields.2 held
          have childClear := clear.2 child held
          simp only [Option.bind_some]
          cases below : base.fields.lookup key with
          | none => exact missing
          | some lower =>
              rw [combined, Option.bind_some]
              split
              · exact ih childOrdered childClear missing lower
              · rename_i leaf
                cases rest with
                | nil => contradiction
                | cons next later =>
                    rw [missing, find?_leaf (Bool.eq_false_iff.mpr leaf)]

theorem Clear.overlay {base top : Tree} {path : List String} (clear : base.Clear path)
    (ordered : top.Ordered) (topClear : top.Clear path) : (base.overlay top).Clear path := by
  induction path generalizing top base with
  | nil => exact trivial
  | cons key rest ih =>
      have isObject : (base.overlay top).isObject = true := by
        cases top with
        | object fields => rfl
        | _ => exact absurd topClear.1 Bool.false_ne_true
      refine ⟨isObject, ?_⟩
      intro child found
      rw [lookup_overlay ordered topClear.1] at found
      cases held : top.fields.lookup key with
      | none =>
          rw [held] at found
          exact clear.2 child found
      | some upper =>
          rw [held] at found
          obtain rfl := Option.some.inj found
          have upperClear := topClear.2 upper held
          cases below : base.fields.lookup key with
          | none => exact upperClear
          | some lower =>
              rw [combined]
              split
              · exact ih (clear.2 lower below) (ordered_lookup ordered.fields.2 held) upperClear
              · exact upperClear

end Tree

end ProverInput

import ProverInput.Proofs.Tree.Lookup

/-!
Trees of texts. Putting a text into such a tree and laying one over another gives such a tree, so
whatever is found in it is a text or an object.
-/

namespace ProverInput.Tree

inductive Textual : Tree → Prop
  | text (value) : Textual (.text value)
  | object {fields : List (String × Tree)} :
      (∀ key child, fields.lookup key = some child → Textual child) → Textual (.object fields)

variable {tree base top : Tree}

theorem Textual.child (textual : tree.Textual) {key : String} {child : Tree}
    (found : tree.fields.lookup key = some child) : child.Textual := by
  cases textual with
  | text value => contradiction
  | object children => exact children key child found

theorem Textual.find? (textual : tree.Textual) {path : List String} {value : Tree}
    (found : tree.find? path = some value) : value.Textual := by
  induction path generalizing tree with
  | nil => exact Option.some.inj found ▸ textual
  | cons key rest ih =>
      rw [find?_cons] at found
      obtain ⟨child, held, inner⟩ := Option.bind_eq_some_iff.mp found
      exact ih (textual.child held) inner

theorem textual_set (children : ∀ key child, tree.fields.lookup key = some child → child.Textual)
    (path : List String) (value : String) : (tree.set path (.text value)).Textual := by
  induction path generalizing tree with
  | nil => exact Textual.text value
  | cons key rest ih =>
      apply Textual.object
      intro other child found
      by_cases same : other = key
      · subst same
        rw [Fields.lookup_insert_self] at found
        obtain rfl := Option.some.inj found
        apply ih
        intro next grandchild below
        cases held : tree.fields.lookup other with
        | none =>
            rw [held] at below
            contradiction
        | some old =>
            rw [held] at below
            exact (children other old held).child below
      · rw [Fields.lookup_insert_of_ne same] at found
        exact children other child found

theorem Textual.set (textual : tree.Textual) (path : List String) (value : String) :
    (tree.set path (.text value)).Textual :=
  textual_set (fun _ _ found => textual.child found) path value

theorem Textual.overlay (textual : base.Textual) (topTextual : top.Textual)
    (ordered : top.Ordered) : (base.overlay top).Textual := by
  induction topTextual generalizing base with
  | text value => exact Textual.text value
  | @object fields children ih =>
      apply Textual.object
      intro key child found
      rw [lookup_overlayFields ordered.1] at found
      cases held : fields.lookup key with
      | none =>
          rw [held] at found
          exact textual.child found
      | some upper =>
          rw [held] at found
          obtain rfl := Option.some.inj found
          cases below : base.fields.lookup key with
          | none => exact children key upper held
          | some lower =>
              rw [combined]
              split
              · exact ih key upper held (textual.child below) (ordered_lookup ordered.2 held)
              · exact children key upper held

end ProverInput.Tree

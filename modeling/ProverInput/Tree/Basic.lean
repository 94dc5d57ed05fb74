import ProverInput.Tree.Fields

/-!
Trees of configuration values: objects whose leaves are texts, 64-bit integers and null. A tree is
read and updated at paths, and one tree can be laid over another.
-/

namespace ProverInput

inductive Tree where
  | null
  | int (value : Int64)
  | text (value : String)
  | object (fields : List (String × Tree))
  deriving Repr

namespace Tree

instance : Inhabited Tree := ⟨.null⟩

@[elab_as_elim]
theorem induct {motive : Tree → Prop} (null : motive .null) (int : ∀ value, motive (.int value))
    (text : ∀ value, motive (.text value))
    (object : ∀ fields, (∀ field ∈ fields, motive field.2) → motive (.object fields)) :
    ∀ tree, motive tree
  | .null => null
  | .int value => int value
  | .text value => text value
  | .object fields => object fields fun field _ => induct null int text object field.2
termination_by tree => tree
decreasing_by
  rename_i member
  have smaller := List.sizeOf_lt_of_mem member
  obtain ⟨key, value⟩ := field
  simp only [Tree.object.sizeOf_spec, Prod.mk.sizeOf_spec] at smaller ⊢
  omega

def fields : Tree → List (String × Tree)
  | .object fields => fields
  | _ => []

def isObject : Tree → Bool
  | .object _ => true
  | _ => false

def toObject (tree : Tree) : Tree :=
  .object tree.fields

def find? : Tree → List String → Option Tree
  | tree, [] => some tree
  | tree, key :: rest =>
    match tree.fields.lookup key with
    | some child => child.find? rest
    | none => none

/-- Puts a value at a path. Whatever stands on the way and is no object gives place to an object;
the empty path replaces the whole tree. -/
def set : Tree → List String → Tree → Tree
  | _, [], value => value
  | tree, key :: rest, value =>
    let child := (tree.fields.lookup key).getD .null
    .object (Fields.insert key (child.set rest value) tree.fields)

mutual

/-- Lays the second tree over the first. Two objects are combined key by key; in every other case
the second tree hides the first. -/
def overlay (base : Tree) : Tree → Tree
  | .null => .null
  | .int value => .int value
  | .text value => .text value
  | .object top => .object (overlayFields base.fields top)

def overlayFields (base : List (String × Tree)) : List (String × Tree) → List (String × Tree)
  | [] => base
  | (key, value) :: rest =>
    let combined := match base.lookup key with
      | some child => if child.isObject then overlay child value else value
      | none => value
    overlayFields (Fields.insert key combined base) rest

end

mutual

def Ordered : Tree → Prop
  | .object fields => Fields.Ascending fields ∧ OrderedFields fields
  | _ => True

def OrderedFields : List (String × Tree) → Prop
  | [] => True
  | (_, child) :: rest => Ordered child ∧ OrderedFields rest

end

mutual

def decideEq : (left right : Tree) → Decidable (left = right)
  | .null, right =>
    match right with
    | .null => isTrue rfl
    | .int _ => isFalse (by simp)
    | .text _ => isFalse (by simp)
    | .object _ => isFalse (by simp)
  | .int value, right =>
    match right with
    | .null => isFalse (by simp)
    | .int other => decidable_of_iff (value = other) (by simp)
    | .text _ => isFalse (by simp)
    | .object _ => isFalse (by simp)
  | .text value, right =>
    match right with
    | .null => isFalse (by simp)
    | .int _ => isFalse (by simp)
    | .text other => decidable_of_iff (value = other) (by simp)
    | .object _ => isFalse (by simp)
  | .object fields, right =>
    match right with
    | .null => isFalse (by simp)
    | .int _ => isFalse (by simp)
    | .text _ => isFalse (by simp)
    | .object others =>
      match decideEqFields fields others with
      | isTrue same => isTrue (by rw [same])
      | isFalse different => isFalse (by simpa using different)

def decideEqFields : (left right : List (String × Tree)) → Decidable (left = right)
  | [], right =>
    match right with
    | [] => isTrue rfl
    | _ :: _ => isFalse (by simp)
  | (key, child) :: rest, right =>
    match right with
    | [] => isFalse (by simp)
    | (otherKey, otherChild) :: otherRest =>
      match decEq key otherKey, decideEq child otherChild, decideEqFields rest otherRest with
      | isTrue sameKey, isTrue sameChild, isTrue sameRest =>
        isTrue (by rw [sameKey, sameChild, sameRest])
      | isFalse different, _, _ => isFalse (by simp [different])
      | _, isFalse different, _ => isFalse (by simp [different])
      | _, _, isFalse different => isFalse (by simp [different])

end

instance : DecidableEq Tree := decideEq

end Tree

end ProverInput

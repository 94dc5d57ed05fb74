/-!
Fields of an object, kept in ascending order of their keys. Keys are compared by code point, which
is also the order of their UTF-8 bytes.
-/

namespace ProverInput.Fields

variable {α : Type}

def insert (key : String) (value : α) : List (String × α) → List (String × α)
  | [] => [(key, value)]
  | (other, held) :: rest =>
    if key < other then (key, value) :: (other, held) :: rest
    else if key = other then (key, value) :: rest
    else (other, held) :: insert key value rest

def keys (fields : List (String × α)) : List String :=
  fields.map (·.1)

def Ascending (fields : List (String × α)) : Prop :=
  (keys fields).Pairwise (· < ·)

theorem lookup_insert_self (key : String) (value : α) (fields : List (String × α)) :
    (insert key value fields).lookup key = some value := by
  induction fields with
  | nil => simp [insert]
  | cons field rest ih =>
    obtain ⟨other, held⟩ := field
    simp only [insert]
    split
    · simp
    · split
      · simp
      · rename_i different
        have unequal : (key == other) = false := by simpa using different
        simp [List.lookup_cons, unequal, ih]

theorem lookup_insert_of_ne {key other : String} (different : other ≠ key) (value : α)
    (fields : List (String × α)) :
    (insert key value fields).lookup other = fields.lookup other := by
  have unequal : (other == key) = false := by simpa using different
  induction fields with
  | nil => simp [insert, List.lookup_cons, unequal]
  | cons field rest ih =>
    obtain ⟨head, held⟩ := field
    simp only [insert]
    split
    · simp [List.lookup_cons, unequal]
    · split
      · rename_i same
        subst same
        simp [List.lookup_cons, unequal]
      · simp only [List.lookup_cons, ih]

theorem mem_keys_insert {key other : String} {value : α} {fields : List (String × α)}
    (member : other ∈ keys (insert key value fields)) : other = key ∨ other ∈ keys fields := by
  induction fields with
  | nil => simpa [insert, keys] using member
  | cons field rest ih =>
    obtain ⟨head, held⟩ := field
    simp only [insert] at member
    split at member
    · simpa [keys] using member
    · split at member
      · rename_i same
        subst same
        simpa [keys] using member
      · simp only [keys, List.map_cons, List.mem_cons] at member ⊢
        rcases member with same | later
        · exact Or.inr (Or.inl same)
        · rcases ih later with same | old
          · exact Or.inl same
          · exact Or.inr (Or.inr old)

theorem ascending_insert (key : String) (value : α) {fields : List (String × α)}
    (ascending : Ascending fields) : Ascending (insert key value fields) := by
  induction fields with
  | nil => simp [insert, Ascending, keys]
  | cons field rest ih =>
    obtain ⟨head, held⟩ := field
    have parts : (∀ other ∈ keys rest, head < other) ∧ Ascending rest := by
      simpa [Ascending, keys] using ascending
    simp only [insert]
    split
    · rename_i smaller
      refine List.pairwise_cons.mpr ⟨?_, ascending⟩
      intro other member
      rcases List.mem_cons.mp member with same | later
      · exact same ▸ smaller
      · exact String.lt_trans smaller (parts.1 other later)
    · split
      · rename_i same
        subst same
        exact ascending
      · rename_i notSmaller different
        have larger : head < key := by
          apply String.not_le.mp
          intro below
          exact different (String.le_antisymm below (String.not_lt.mp notSmaller))
        refine List.pairwise_cons.mpr ⟨?_, ih parts.2⟩
        intro other member
        rcases mem_keys_insert member with same | old
        · exact same ▸ larger
        · exact parts.1 other old

theorem insert_insert_self (key : String) (value held : α) (fields : List (String × α)) :
    insert key value (insert key held fields) = insert key value fields := by
  induction fields with
  | nil => simp only [insert, String.lt_irrefl, if_false, if_true]
  | cons field rest ih =>
    obtain ⟨head, first⟩ := field
    simp only [insert]
    split
    · simp only [insert, String.lt_irrefl, if_false, if_true]
    · split
      · simp only [insert, String.lt_irrefl, if_false, if_true]
      · rename_i notSmaller different
        simp [insert, notSmaller, different, ih]

theorem insert_comm {key other : String} (different : key ≠ other) (value held : α)
    (fields : List (String × α)) :
    insert key value (insert other held fields) = insert other held (insert key value fields) := by
  induction fields with
  | nil => grind [insert]
  | cons field rest ih =>
    obtain ⟨head, first⟩ := field
    grind [insert]

/-! Fields in ascending order are determined by what they hold under each key. -/

theorem lookup_eq_none_of_below {key : String} {fields : List (String × α)}
    (below : ∀ other ∈ keys fields, key < other) : fields.lookup key = none := by
  rw [List.lookup_eq_none_iff]
  intro field member
  have larger := below field.1 (List.mem_map_of_mem member)
  simpa using fun same => String.lt_irrefl _ (same ▸ larger)

theorem head_le_of_lookup {key head : String} {value held : α} {rest : List (String × α)}
    (ascending : Ascending ((head, held) :: rest))
    (found : ((head, held) :: rest).lookup key = some value) : head ≤ key := by
  rw [← String.not_lt]
  intro smaller
  have below : ∀ other ∈ keys ((head, held) :: rest), key < other := by
    intro other member
    rcases List.mem_cons.mp member with rfl | later
    · exact smaller
    · exact String.lt_trans smaller ((List.pairwise_cons.mp ascending).1 other later)
  rw [lookup_eq_none_of_below below] at found
  contradiction

theorem ext_lookup {fields others : List (String × α)} (ascending : Ascending fields)
    (othersAscending : Ascending others)
    (same : ∀ key, fields.lookup key = others.lookup key) : fields = others := by
  induction fields generalizing others with
  | nil =>
      cases others with
      | nil => rfl
      | cons other later =>
          have found := same other.1
          rw [List.lookup_cons_self] at found
          contradiction
  | cons field rest ih =>
      obtain ⟨key, value⟩ := field
      have first := same key
      rw [List.lookup_cons_self] at first
      cases others with
      | nil => contradiction
      | cons other later =>
          obtain ⟨otherKey, otherValue⟩ := other
          have otherFirst := same otherKey
          rw [List.lookup_cons_self] at otherFirst
          have sameKey : key = otherKey :=
            String.le_antisymm (head_le_of_lookup ascending otherFirst)
              (head_le_of_lookup othersAscending first.symm)
          subst sameKey
          rw [List.lookup_cons_self, Option.some.injEq] at first
          obtain ⟨smaller, restAscending⟩ := List.pairwise_cons.mp ascending
          obtain ⟨otherSmaller, laterAscending⟩ := List.pairwise_cons.mp othersAscending
          have sameRest : rest = later := by
            apply ih restAscending laterAscending
            intro query
            by_cases head : query = key
            · subst head
              rw [lookup_eq_none_of_below smaller, lookup_eq_none_of_below otherSmaller]
            · have unequal : (query == key) = false := by simpa using head
              simpa only [List.lookup_cons, unequal] using same query
          rw [first, sameRest]

theorem insert_of_lookup {key : String} {value : α} {fields : List (String × α)}
    (ascending : Ascending fields) (found : fields.lookup key = some value) :
    insert key value fields = fields := by
  apply ext_lookup (ascending_insert key value ascending) ascending
  intro query
  by_cases same : query = key
  · rw [same, lookup_insert_self, found]
  · exact lookup_insert_of_ne same value fields

end ProverInput.Fields

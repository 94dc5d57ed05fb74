import ProverInput.Proofs.Text.Pieces
import ProverInput.Tree.Path

/-!
Segments of dotted keys. The two sides of a dot are split on their own, so a text is split into a
path if and only if it spells the path, with as many further dots as it likes. The text with single
dots is a normal form.
-/

namespace ProverInput.Path

variable {text : List Char} {segment dotted : String} {path : List String}

def IsSegment (segment : String) : Prop :=
  segment ≠ "" ∧ '.' ∉ segment.toList

instance (segment : String) : Decidable (IsSegment segment) :=
  inferInstanceAs (Decidable (_ ∧ _))

theorem split_ofList (text : List Char) :
    split (.ofList text) = ((text.splitOn '.').filter (· ≠ [])).map String.ofList := by
  rw [split, Text.pieces_eq_splitOn, String.toList_ofList]

theorem split_dot (before rest : List Char) :
    split (.ofList (before ++ '.' :: rest)) = split (.ofList before) ++ split (.ofList rest) := by
  rw [split_ofList, split_ofList, split_ofList, List.splitOn_append_cons_self, List.filter_append,
    List.map_append]

theorem split_clean (clean : '.' ∉ text) :
    split (.ofList text) = if text = [] then [] else [.ofList text] := by
  rw [split_ofList, List.splitOn_eq_singleton clean]
  by_cases empty : text = []
  · simp [empty]
  · simp [empty]

theorem split_segment (isSegment : IsSegment segment) : split segment = [segment] := by
  have nonempty : segment.toList ≠ [] := by simpa using isSegment.1
  have whole := split_clean isSegment.2
  rwa [if_neg nonempty, String.ofList_toList] at whole

theorem split_dots (count : Nat) (rest : List Char) :
    split (.ofList (List.replicate count '.' ++ rest)) = split (.ofList rest) := by
  induction count with
  | zero => rfl
  | succ count ih =>
      rw [List.replicate_succ, List.cons_append, ← ih]
      exact split_dot [] _

theorem isSegment_of_split_clean (clean : '.' ∉ text) (member : segment ∈ split (.ofList text)) :
    IsSegment segment := by
  rw [split_clean clean] at member
  by_cases empty : text = []
  · simp [empty] at member
  · rw [if_neg empty, List.mem_singleton] at member
    rw [member, IsSegment, String.toList_ofList]
    exact ⟨by simpa using empty, clean⟩

theorem isSegment_of_mem_split (member : segment ∈ split dotted) : IsSegment segment := by
  rw [← String.ofList_toList (s := dotted)] at member
  generalize dotted.toList = text at member
  induction text using Text.separator_induction '.' with
  | last text clean => exact isSegment_of_split_clean clean member
  | next before rest clean ih =>
      rw [split_dot, List.mem_append] at member
      exact member.elim (isSegment_of_split_clean clean) ih

theorem split_join (nonempty : path ≠ []) (segments : ∀ segment ∈ path, IsSegment segment) :
    split (join path) = path := by
  have pieces : (join path).toList.splitOn '.' = path.map String.toList := by
    rw [join, if_neg nonempty, String.toList_intercalate]
    refine List.splitOn_intercalate '.' ?_ (by simpa using nonempty)
    intro piece member
    obtain ⟨segment, listed, rfl⟩ := List.mem_map.mp member
    exact (segments segment listed).2
  have kept : (path.map String.toList).filter (· ≠ []) = path.map String.toList := by
    rw [List.filter_eq_self]
    intro piece member
    obtain ⟨segment, listed, rfl⟩ := List.mem_map.mp member
    simpa using (segments segment listed).1
  rw [← String.ofList_toList (s := join path), split_ofList, pieces, kept, List.map_map]
  simp

def spelled (lead : Nat) (parts : List (String × Nat)) : List Char :=
  List.replicate lead '.' ++
    parts.flatMap fun (segment, dots) => segment.toList ++ List.replicate dots '.'

/-- The text holds the segments of the path in order, with at least one dot between neighbours and
any number of dots at both ends. -/
def Spells (dotted : String) (path : List String) : Prop :=
  ∃ lead parts, dotted.toList = spelled lead parts ∧ parts.map Prod.fst = path ∧
    ∀ part ∈ parts.dropLast, 0 < part.2

theorem spelled_nil (lead : Nat) : spelled lead [] = List.replicate lead '.' :=
  List.append_nil _

theorem spelled_cons (lead dots : Nat) (segment : String) (later : List (String × Nat)) :
    spelled lead ((segment, dots) :: later) =
      List.replicate lead '.' ++ (segment.toList ++ spelled dots later) := by
  rw [spelled, spelled, List.flatMap_cons, List.append_assoc]

theorem spelled_succ (lead : Nat) (parts : List (String × Nat)) :
    spelled (lead + 1) parts = '.' :: spelled lead parts :=
  rfl

theorem split_spelled {parts : List (String × Nat)} (lead : Nat)
    (segments : ∀ part ∈ parts, IsSegment part.1)
    (separated : ∀ part ∈ parts.dropLast, 0 < part.2) :
    split (.ofList (spelled lead parts)) = parts.map Prod.fst := by
  induction parts generalizing lead with
  | nil => rw [spelled_nil, ← List.append_nil (List.replicate lead '.'), split_dots]; rfl
  | cons part later ih =>
      obtain ⟨segment, dots⟩ := part
      rw [List.forall_mem_cons] at segments
      rw [spelled_cons, split_dots]
      cases dots with
      | zero =>
          -- only the last segment may have no dot behind it
          cases later with
          | nil => simpa [spelled] using split_segment segments.1
          | cons next later =>
              exact absurd (separated (segment, 0) List.mem_cons_self) (Nat.lt_irrefl 0)
      | succ dots =>
          have separatedLater : ∀ part ∈ later.dropLast, 0 < part.2 := by
            cases later with
            | nil => simp
            | cons next later => exact (List.forall_mem_cons.mp separated).2
          rw [spelled_succ, split_dot, ih dots segments.2 separatedLater, String.ofList_toList,
            split_segment segments.1]
          rfl

theorem spells_split (dotted : String) : Spells dotted (split dotted) := by
  rw [← String.ofList_toList (s := dotted)]
  generalize dotted.toList = text
  induction text using Text.separator_induction '.' with
  | last text clean =>
      rw [split_clean clean]
      split
      · exact ⟨0, [], by simpa [spelled], rfl, by simp⟩
      · exact ⟨0, [(.ofList text, 0)], by simp [spelled], rfl, by simp⟩
  | next before rest clean ih =>
      obtain ⟨lead, parts, same, named, separated⟩ := ih
      rw [String.toList_ofList] at same
      subst same
      rw [split_dot, split_clean clean, ← named, Spells, String.toList_ofList]
      split
      · rename_i empty
        exact ⟨lead + 1, parts, by rw [empty]; rfl, rfl, separated⟩
      · refine ⟨0, (.ofList before, lead + 1) :: parts, ?_, rfl, ?_⟩
        · rw [spelled_cons, spelled_succ, String.toList_ofList]
          rfl
        · cases parts with
          | nil => simp
          | cons part later =>
              rw [List.dropLast_cons_cons, List.forall_mem_cons]
              exact ⟨Nat.succ_pos lead, separated⟩

theorem split_eq_iff : split dotted = path ↔
    (∀ segment ∈ path, IsSegment segment) ∧ Spells dotted path := by
  constructor
  · rintro rfl
    exact ⟨fun _ => isSegment_of_mem_split, spells_split dotted⟩
  · rintro ⟨segments, lead, parts, same, rfl, separated⟩
    rw [← String.ofList_toList (s := dotted), same]
    exact split_spelled lead (fun part member => segments _ (List.mem_map_of_mem member)) separated

theorem split_eq_nil_iff : split dotted = [] ↔ ∀ c ∈ dotted.toList, c = '.' := by
  constructor
  · intro nothing
    obtain ⟨_, lead, parts, same, named, _⟩ := split_eq_iff.mp nothing
    rw [List.map_eq_nil_iff.mp named, spelled_nil] at same
    exact (List.eq_replicate_iff.mp same).2
  · intro dots
    rw [split_eq_iff]
    refine ⟨by simp, dotted.toList.length, [], ?_, rfl, by simp⟩
    rw [spelled_nil]
    exact List.eq_replicate_iff.mpr ⟨rfl, dots⟩

/-- The key with one dot between segments. A key without segments becomes the name of the root. -/
def normalized (dotted : String) : String :=
  join (split dotted)

theorem split_normalized (nonempty : split dotted ≠ []) :
    split (normalized dotted) = split dotted :=
  split_join nonempty fun _ => isSegment_of_mem_split

theorem normalized_of_split_eq_nil (nothing : split dotted = []) :
    normalized dotted = "<root>" := by
  rw [normalized, nothing]
  rfl

theorem split_root : split "<root>" = ["<root>"] :=
  split_segment (by decide)

theorem normalized_normalized (dotted : String) :
    normalized (normalized dotted) = normalized dotted := by
  by_cases nothing : split dotted = []
  · rw [normalized_of_split_eq_nil nothing, normalized, split_root]
    rfl
  · rw [normalized, split_normalized nothing]
    rfl

theorem split_normalized_iff :
    split (normalized dotted) = split dotted ↔ ∃ c ∈ dotted.toList, c ≠ '.' := by
  have nothing_iff : split dotted ≠ [] ↔ ∃ c ∈ dotted.toList, c ≠ '.' := by
    rw [ne_eq, split_eq_nil_iff]
    simp
  rw [← nothing_iff]
  refine ⟨?_, split_normalized⟩
  intro same nothing
  -- the name of the root is itself a segment
  rw [normalized_of_split_eq_nil nothing, split_root, nothing] at same
  contradiction

end ProverInput.Path

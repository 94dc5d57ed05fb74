import ProverInput.Text.Pieces

/-!
Texts that were split at a separator. Nothing but separators gets lost, and no separator is left in
what stands before the first one.
-/

namespace ProverInput.Text

variable {separator c : Char} {text before rest : List Char}

theorem cut_cons_self (separator : Char) (rest : List Char) :
    cut separator (separator :: rest) = ([], some rest) := by
  simp [cut]

theorem cut_cons_of_ne (different : c ≠ separator) (rest : List Char) :
    cut separator (c :: rest) = (c :: (cut separator rest).1, (cut separator rest).2) := by
  have kept : (c != separator) = true := by simpa using different
  simp only [cut, List.dropWhile_cons, List.takeWhile_cons, kept, if_true]
  split
  · rfl
  · rfl

theorem cut_append (clean : separator ∉ before) (rest : List Char) :
    cut separator (before ++ separator :: rest) = (before, some rest) := by
  induction before with
  | nil => exact cut_cons_self separator rest
  | cons c later ih =>
      rw [List.mem_cons, not_or] at clean
      rw [List.cons_append, cut_cons_of_ne (Ne.symm clean.1), ih clean.2]

theorem cut_of_not_mem (clean : separator ∉ text) : cut separator text = (text, none) := by
  induction text with
  | nil => rfl
  | cons c later ih =>
      rw [List.mem_cons, not_or] at clean
      rw [cut_cons_of_ne (Ne.symm clean.1), ih clean.2]

theorem cut_cases (separator : Char) (text : List Char) :
    (separator ∉ text ∧ cut separator text = (text, none)) ∨
      ∃ before rest, separator ∉ before ∧ text = before ++ separator :: rest ∧
        cut separator text = (before, some rest) := by
  by_cases member : separator ∈ text
  · obtain ⟨before, rest, rfl, clean⟩ := List.eq_append_cons_of_mem member
    exact Or.inr ⟨before, rest, clean, rfl, cut_append clean rest⟩
  · exact Or.inl ⟨member, cut_of_not_mem member⟩

theorem pieces_eq_splitOn (separator : Char) (text : List Char) :
    pieces separator text = text.splitOn separator := by
  induction text with
  | nil => rfl
  | cons c rest ih =>
      rw [pieces, List.splitOn_cons_eq_if_modifyHead, ih]
      by_cases same : c = separator
      · simp [same]
      · simp only [same, if_false, beq_iff_eq]
        cases split : rest.splitOn separator with
        | nil => exact absurd split (List.splitOn_ne_nil separator rest)
        | cons piece later => rfl

@[elab_as_elim]
theorem separator_induction {motive : List Char → Prop} (separator : Char)
    (last : ∀ text, separator ∉ text → motive text)
    (next : ∀ before rest, separator ∉ before → motive rest → motive (before ++ separator :: rest))
    (text : List Char) : motive text := by
  by_cases member : separator ∈ text
  · obtain ⟨before, rest, divided, clean⟩ := List.eq_append_cons_of_mem member
    have shorter : rest.length < text.length := by
      rw [divided, List.length_append, List.length_cons]
      omega
    rw [divided]
    exact next before rest clean (separator_induction separator last next rest)
  · exact last text member
termination_by text.length

theorem mem_pieces (separator : Char) (member : c ∈ text) :
    c = separator ∨ ∃ piece ∈ pieces separator text, c ∈ piece := by
  rw [pieces_eq_splitOn]
  induction text using separator_induction separator with
  | last text clean =>
      rw [List.splitOn_eq_singleton clean]
      exact Or.inr ⟨text, List.mem_singleton_self text, member⟩
  | next before rest clean ih =>
      rw [List.splitOn_append_cons_self, List.splitOn_eq_singleton clean]
      rcases List.mem_append.mp member with first | later
      · exact Or.inr ⟨before, List.mem_cons_self, first⟩
      · rcases List.mem_cons.mp later with same | later
        · exact Or.inl same
        · exact (ih later).imp_right fun ⟨piece, listed, found⟩ =>
            ⟨piece, List.mem_cons_of_mem before listed, found⟩

end ProverInput.Text

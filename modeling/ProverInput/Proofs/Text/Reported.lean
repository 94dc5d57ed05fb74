import ProverInput.Text.Reported

/-!
Reported texts. A headline is its code in brackets and the text up to the first NUL character.
-/

namespace ProverInput.Text

theorem beforeNul_append {text : String} (clean : '\x00' ∉ text.toList) (more : String) :
    beforeNul (text ++ more) = text ++ beforeNul more := by
  have kept : ∀ c ∈ text.toList, (c != '\x00') = true := by
    intro c member
    have different : c ≠ '\x00' := by
      intro same
      exact clean (same ▸ member)
    simpa using different
  rw [beforeNul, String.toList_append, List.takeWhile_append_of_pos kept, String.ofList_append,
    String.ofList_toList, beforeNul]

theorem beforeNul_eq_self {text : String} (clean : '\x00' ∉ text.toList) :
    beforeNul text = text := by
  have kept := beforeNul_append clean ""
  simpa [beforeNul] using kept

theorem headline_eq {code : String} (named : code ≠ "") (clean : '\x00' ∉ code.toList)
    (text : String) : headline code text = "[" ++ code ++ "] " ++ beforeNul text := by
  have cleanCode : '\x00' ∉ ("[" ++ code ++ "] ").toList := by
    simp [String.toList_append, clean]
  rw [headline, if_neg named, beforeNul_append cleanCode]

/-- The text is shown up to its first NUL character, and whole if it has none. -/
def ShownAs (text shown : String) : Prop :=
  '\x00' ∉ shown.toList ∧ (shown = text ∨ ∃ rest, text = shown ++ "\x00" ++ rest)

theorem shownAs_beforeNul (text : String) : ShownAs text (beforeNul text) := by
  by_cases member : '\x00' ∈ text.toList
  · obtain ⟨shown, rest, same, clean⟩ := List.eq_append_cons_of_mem member
    have parts : text = String.ofList shown ++ ("\x00" ++ String.ofList rest) := by
      apply String.toList_inj.mp
      simp [same]
    have cut : beforeNul text = String.ofList shown := by
      rw [parts, beforeNul_append (by simpa using clean)]
      simp [beforeNul]
    rw [cut]
    exact ⟨by simpa using clean, Or.inr ⟨String.ofList rest, by rw [String.append_assoc, ← parts]⟩⟩
  · rw [beforeNul_eq_self member]
    exact ⟨member, Or.inl rfl⟩

end ProverInput.Text

import ProverInput.Proofs.Tree.Segments

/-!
Reading the segments off a text from dot to dot. What a scan has found before a position are the
maximal runs without a dot that end before it, and what it has not found yet is what the rest of the
text is split into. Each round uses up a dot, and the round that finds none is the last.
-/

namespace ProverInput.Path

structure Span where
  start : Nat
  finish : Nat
  deriving DecidableEq, Repr

variable {text : List Char} {start finish lower upper : Nat} {span : Span} {found : List String}

/-- A stretch of the text that is not empty and holds no dot, and that no longer one without a dot
contains. -/
structure IsRun (text : List Char) (span : Span) : Prop where
  nonempty : span.start < span.finish
  inside : span.finish ≤ text.length
  clean : '.' ∉ text.extract span.start span.finish
  maximal : ∀ start finish, start ≤ span.start → span.finish ≤ finish → finish ≤ text.length →
    '.' ∉ text.extract start finish → start = span.start ∧ finish = span.finish

def Span.read (text : List Char) (span : Span) : String :=
  .ofList (text.extract span.start span.finish)

theorem mem_extract_iff {c : Char} : c ∈ text.extract start finish ↔
    ∃ position, start ≤ position ∧ position < finish ∧ text[position]? = some c := by
  rw [List.extract_eq_take_drop, List.mem_iff_getElem?]
  constructor
  · rintro ⟨offset, read⟩
    rw [List.getElem?_take] at read
    split at read
    · rw [List.getElem?_drop] at read
      exact ⟨start + offset, by omega, by omega, read⟩
    · contradiction
  · rintro ⟨position, lower, upper, read⟩
    refine ⟨position - start, ?_⟩
    rw [List.getElem?_take, if_pos (by omega), List.getElem?_drop, Nat.add_sub_cancel' lower]
    exact read

def Opens (text : List Char) (start : Nat) : Prop :=
  start = 0 ∨ text[start - 1]? = some '.'

def Closes (text : List Char) (finish : Nat) : Prop :=
  finish = text.length ∨ text[finish]? = some '.'

theorem Opens.le_of_clean (opens : Opens text start) (clean : '.' ∉ text.extract lower upper)
    (overlap : start ≤ upper) : start ≤ lower := by
  rcases opens with rfl | dot
  · exact Nat.zero_le lower
  · refine Nat.le_of_not_lt fun below => clean ?_
    exact mem_extract_iff.mpr ⟨start - 1, by omega, by omega, dot⟩

theorem Closes.le_of_clean (closes : Closes text finish) (clean : '.' ∉ text.extract lower upper)
    (inside : upper ≤ text.length) (overlap : lower ≤ finish) : upper ≤ finish := by
  rcases closes with rfl | dot
  · exact inside
  · refine Nat.le_of_not_lt fun above => clean ?_
    exact mem_extract_iff.mpr ⟨finish, overlap, above, dot⟩

theorem isRun_of_between (opens : Opens text start) (closes : Closes text finish)
    (clean : '.' ∉ text.extract start finish) (nonempty : start < finish)
    (inside : finish ≤ text.length) : IsRun text ⟨start, finish⟩ where
  nonempty := nonempty
  inside := inside
  clean := clean
  maximal := by
    intro lower upper (before : lower ≤ start) (after : finish ≤ upper) bounded free
    have opened := opens.le_of_clean free (by omega)
    have closed := closes.le_of_clean free bounded (by omega)
    exact ⟨Nat.le_antisymm before opened, Nat.le_antisymm closed after⟩

theorem IsRun.eq_of_between (run : IsRun text span) (opens : Opens text start)
    (clean : '.' ∉ text.extract start finish) (inside : finish ≤ text.length)
    (overlap : start ≤ span.finish) (within : span.finish ≤ finish) : span = ⟨start, finish⟩ := by
  have opened := opens.le_of_clean run.clean overlap
  obtain ⟨rfl, rfl⟩ := run.maximal start finish opened within inside clean
  rfl

theorem isRun_passed_iff (span : Span) (opens : Opens text start) (closes : Closes text finish)
    (clean : '.' ∉ text.extract start finish) (forward : start ≤ finish)
    (inside : finish ≤ text.length) :
    IsRun text span ∧ span.finish < finish + 1 ↔
      (IsRun text span ∧ span.finish < start) ∨ (start < finish ∧ span = ⟨start, finish⟩) := by
  constructor
  · rintro ⟨run, passed⟩
    by_cases earlier : span.finish < start
    · exact Or.inl ⟨run, earlier⟩
    · obtain rfl := run.eq_of_between opens clean inside (by omega) (by omega)
      exact Or.inr ⟨run.nonempty, rfl⟩
  · rintro (⟨run, earlier⟩ | ⟨nonempty, rfl⟩)
    · exact ⟨run, by omega⟩
    · exact ⟨isRun_of_between opens closes clean nonempty inside, Nat.lt_succ_self finish⟩

def Found (text : List Char) (bound : Nat) (found : List String) : Prop :=
  ∃ spans : List Span, spans.Pairwise (·.finish < ·.start) ∧
    (∀ span, span ∈ spans ↔ IsRun text span ∧ span.finish < bound) ∧
    found = spans.map (Span.read text)

def between (text : List Char) (start finish : Nat) : List String :=
  if start < finish then [.ofList (text.extract start finish)] else []

theorem found_zero (text : List Char) : Found text 0 [] :=
  ⟨[], List.Pairwise.nil, by simp, rfl⟩

theorem Found.advance (sofar : Found text start found) (opens : Opens text start)
    (closes : Closes text finish) (clean : '.' ∉ text.extract start finish)
    (forward : start ≤ finish) (inside : finish ≤ text.length) :
    Found text (finish + 1) (found ++ between text start finish) := by
  obtain ⟨spans, ascending, listed, rfl⟩ := sofar
  have passed (span : Span) := isRun_passed_iff span opens closes clean forward inside
  unfold between
  split
  · rename_i nonempty
    refine ⟨spans ++ [⟨start, finish⟩], ?_, ?_, by rw [List.map_append]; rfl⟩
    · rw [List.pairwise_append]
      refine ⟨ascending, List.pairwise_singleton _ _, ?_⟩
      intro span member last isLast
      rw [List.mem_singleton.mp isLast]
      exact ((listed span).mp member).2
    · intro span
      rw [passed, List.mem_append, List.mem_singleton, listed]
      simp [nonempty]
  · rename_i empty
    refine ⟨spans, ascending, ?_, List.append_nil _⟩
    intro span
    rw [passed, listed]
    simp [empty]

theorem split_extract (clean : '.' ∉ text.extract start finish) (inside : finish ≤ text.length) :
    split (.ofList (text.extract start finish)) = between text start finish := by
  have empty_iff : text.extract start finish = [] ↔ ¬ start < finish := by
    rw [← List.length_eq_zero_iff, List.extract_eq_take_drop, List.length_take, List.length_drop]
    omega
  rw [split_clean clean, between]
  by_cases nonempty : start < finish
  · simp [empty_iff, nonempty]
  · simp [empty_iff, nonempty]

def dotFrom? (text : List Char) (start : Nat) : Option Nat :=
  ((text.drop start).idxOf? '.').map (start + ·)

theorem dotFrom?_eq_none (missed : dotFrom? text start = none) : '.' ∉ text.drop start := by
  rwa [dotFrom?, Option.map_eq_none_iff, List.idxOf?_eq_none_iff] at missed

theorem dotFrom?_eq_some {dot : Nat} (hit : dotFrom? text start = some dot) :
    start ≤ dot ∧ text[dot]? = some '.' ∧ '.' ∉ text.extract start dot ∧
      text.drop start = text.extract start dot ++ '.' :: text.drop (dot + 1) := by
  obtain ⟨offset, first, rfl⟩ := Option.map_eq_some_iff.mp hit
  obtain ⟨inside, holds, earlier⟩ := List.idxOf?_eq_some_iff.mp first
  refine ⟨Nat.le_add_right start offset, ?_, ?_, ?_⟩
  · rw [← List.getElem?_drop, List.getElem?_eq_getElem inside, holds]
  · intro member
    obtain ⟨position, lower, upper, read⟩ := mem_extract_iff.mp member
    rw [← Nat.add_sub_cancel' lower, ← List.getElem?_drop] at read
    obtain ⟨_, dot⟩ := List.getElem?_eq_some_iff.mp read
    exact earlier (position - start) (by omega) dot
  · have next := List.drop_eq_getElem_cons inside
    rw [holds] at next
    rw [List.extract_eq_take_drop, Nat.add_sub_cancel_left, Nat.add_assoc, ← List.drop_drop, ← next,
      List.take_append_drop]

inductive Scan where
  | reading (start : Nat) (found : List String)
  | finished (found : List String)
  deriving DecidableEq, Repr

namespace Scan

def round (text : List Char) : Scan → Scan
  | finished found => finished found
  | reading start found =>
      if start ≤ text.length then
        match dotFrom? text start with
        | some dot => reading (dot + 1) (found ++ between text start dot)
        | none => finished (found ++ between text start text.length)
      else finished found

def after (text : List Char) : Nat → Scan
  | 0 => reading 0 []
  | rounds + 1 => (after text rounds).round text

def remaining (text : List Char) : Scan → Nat
  | finished _ => 0
  | reading start _ => (text.drop start).count '.' + 1

theorem remaining_round (text : List Char) (scan : Scan) :
    (scan.round text).remaining text = scan.remaining text - 1 := by
  cases scan with
  | finished found => rfl
  | reading start found =>
      rw [round]
      split
      · split
        · rename_i dot hit
          obtain ⟨_, _, clean, divided⟩ := dotFrom?_eq_some hit
          rw [remaining, remaining, divided, List.count_append, List.count_eq_zero.mpr clean,
            List.count_cons_self]
          omega
        · rename_i missed
          rw [remaining, remaining, List.count_eq_zero.mpr (dotFrom?_eq_none missed)]
      · rename_i outside
        rw [remaining, remaining, List.drop_of_length_le (by omega)]
        rfl

theorem remaining_after (text : List Char) (rounds : Nat) :
    (after text rounds).remaining text = text.count '.' + 1 - rounds := by
  induction rounds with
  | zero => rfl
  | succ rounds ih => rw [after, remaining_round, ih]; omega

/-- What a scan knows. While it reads, what it has found and what the rest is split into make up the
segments of the text. -/
inductive Progress (text : List Char) : Scan → Prop
  | reading {start : Nat} {found : List String} (inside : start ≤ text.length)
      (opens : Opens text start) (sofar : Found text start found)
      (pending : found ++ split (.ofList (text.drop start)) = split (.ofList text)) :
      Progress text (reading start found)
  | finished {found : List String} (all : Found text (text.length + 1) found)
      (complete : found = split (.ofList text)) : Progress text (finished found)

theorem Progress.round {scan : Scan} (progress : Progress text scan) :
    Progress text (scan.round text) := by
  cases progress with
  | finished all complete => exact .finished all complete
  | @reading start found inside opens sofar pending =>
      rw [Scan.round, if_pos inside]
      split
      · rename_i dot hit
        obtain ⟨forward, holds, clean, divided⟩ := dotFrom?_eq_some hit
        have bounded : dot < text.length := (List.getElem?_eq_some_iff.mp holds).1
        refine .reading bounded (Or.inr holds) ?_ ?_
        · exact sofar.advance opens (Or.inr holds) clean forward (Nat.le_of_lt bounded)
        · rw [divided, split_dot, split_extract clean (Nat.le_of_lt bounded)] at pending
          rw [List.append_assoc, pending]
      · rename_i missed
        have last : text.drop start = text.extract start text.length :=
          List.drop_eq_extract
        have clean := dotFrom?_eq_none missed
        rw [last] at clean pending
        rw [split_extract clean (Nat.le_refl _)] at pending
        exact .finished (sofar.advance opens (Or.inl rfl) clean inside (Nat.le_refl _)) pending

theorem progress_after (text : List Char) (rounds : Nat) : Progress text (after text rounds) := by
  induction rounds with
  | zero => exact .reading (Nat.zero_le _) (Or.inl rfl) (found_zero text) rfl
  | succ rounds ih => exact ih.round

theorem after_eq_finished_iff (text : List Char) (rounds : Nat) :
    after text rounds = finished (split (.ofList text)) ↔ text.count '.' < rounds := by
  have left := remaining_after text rounds
  constructor
  · intro ended
    rw [ended, remaining] at left
    omega
  · intro enough
    have progress := progress_after text rounds
    cases reached : after text rounds with
    | reading start found =>
        rw [reached, remaining] at left
        omega
    | finished found =>
        rw [reached] at progress
        cases progress with
        | finished _ complete => rw [complete]

theorem found_split (text : List Char) : Found text (text.length + 1) (split (.ofList text)) := by
  have progress := progress_after text (text.count '.' + 1)
  rw [(after_eq_finished_iff text _).mpr (Nat.lt_succ_self _)] at progress
  cases progress with
  | finished all _ => exact all

end Scan

/-- Splitting at the dots. The segments are the maximal runs without a dot, each once and in order,
and a scan that goes from dot to dot comes to its end with them. A path is what its own text and all
its spellings are split into. The text of what a key was split into is a normal form, which has the
segments of the key unless there are only dots in the key. -/
theorem split_lawful (dotted : String) :
    (∃ spans : List Span, spans.Pairwise (·.finish < ·.start) ∧
      (∀ span, span ∈ spans ↔ IsRun dotted.toList span) ∧
      split dotted = spans.map (Span.read dotted.toList)) ∧
    (∀ rounds, Scan.after dotted.toList rounds = .finished (split dotted) ↔
      dotted.toList.count '.' < rounds) ∧
    (∀ path, path ≠ [] → (∀ segment ∈ path, IsSegment segment) → split (join path) = path) ∧
    (∀ path, split dotted = path ↔
      (∀ segment ∈ path, IsSegment segment) ∧ Spells dotted path) ∧
    normalized (normalized dotted) = normalized dotted ∧
    (split (normalized dotted) = split dotted ↔ ∃ c ∈ dotted.toList, c ≠ '.') := by
  refine ⟨?_, ?_, fun _ => split_join, fun _ => split_eq_iff, normalized_normalized dotted,
    split_normalized_iff⟩
  · obtain ⟨spans, ascending, listed, same⟩ := Scan.found_split dotted.toList
    rw [String.ofList_toList] at same
    refine ⟨spans, ascending, ?_, same⟩
    intro span
    rw [listed]
    exact ⟨And.left, fun run => ⟨run, Nat.lt_succ_of_le run.inside⟩⟩
  · intro rounds
    rw [← Scan.after_eq_finished_iff, String.ofList_toList]

theorem split_lawful_repeated_dots :
    let dotted := "..log...level."
    let path := ["log", "level"]
    path ≠ [] ∧ (∀ segment ∈ path, IsSegment segment) ∧ Spells dotted path ∧
      split (join path) = path ∧ split dotted = path ∧
      Scan.after dotted.toList 7 = .finished path ∧
      split (normalized dotted) = split dotted ∧ split (normalized "...") ≠ split "..." := by
  intro dotted path
  have segments : ∀ segment ∈ path, IsSegment segment := by
    simp only [path, List.forall_mem_cons]
    decide
  have spells : Spells dotted path :=
    ⟨2, [("log", 3), ("level", 1)], by decide, rfl, by simp⟩
  obtain ⟨_, ends, own, spelled, _, kept⟩ := split_lawful dotted
  obtain ⟨_, _, _, _, _, keptDots⟩ := split_lawful "..."
  have same : split dotted = path := (spelled path).mpr ⟨segments, spells⟩
  refine ⟨by decide, segments, spells, own path (by decide) segments, same, ?_, ?_, ?_⟩
  · rw [← same]
    exact (ends 7).mpr (by decide)
  · exact kept.mpr ⟨'l', by decide, by decide⟩
  · rw [ne_eq, keptDots]
    simp

end ProverInput.Path

import Mathlib.Data.List.TakeWhile
import ProverInput.Log.Event
import ProverInput.Proofs.Json.Unambiguous
import ProverInput.Proofs.Json.Writing

/-!
Lines of text can be read back. A reader beside the writer finds the parts of a line where they end,
and whatever stands in a value, it finds the value and nothing else.
-/

namespace ProverInput.Log

def IsLine (text : String) : Prop :=
  ∃ body, text = body ++ "\n" ∧ '\n' ∉ body.toList

/-- Whatever follows two lines of a log, they end at their own newlines. -/
theorem IsLine.append_inj {line other later otherLater : String} (single : IsLine line)
    (otherSingle : IsLine other) (same : line ++ later = other ++ otherLater) :
    line = other ∧ later = otherLater := by
  obtain ⟨body, rfl, inBody⟩ := single
  obtain ⟨otherBody, rfl, inOther⟩ := otherSingle
  have running {text : String} (outside : '\n' ∉ text.toList) :
      ∀ c ∈ text.toList, decide (c ≠ '\n') = true := fun c member =>
    decide_eq_true fun newline => outside (newline ▸ member)
  have stops (text : List Char) : Json.Stops (fun c => decide (c ≠ '\n')) ('\n' :: text) :=
    Json.stops_cons (by decide)
  have characters : body.toList ++ '\n' :: later.toList =
      otherBody.toList ++ '\n' :: otherLater.toList := by
    simpa [String.toList_append] using congrArg String.toList same
  obtain ⟨sameBody, sameLater⟩ := Json.run_unique (running inBody) (running inOther)
    (stops later.toList) (stops otherLater.toList) characters
  rw [String.toList_inj.mp sameBody]
  exact ⟨rfl, String.toList_inj.mp (List.cons.inj sameLater).2⟩

def inWord (c : Char) : Bool :=
  c ≠ ' ' && c ≠ '\n'

def IsWord (text : String) : Prop :=
  ' ' ∉ text.toList ∧ '\n' ∉ text.toList

instance (text : String) : Decidable (IsWord text) :=
  inferInstanceAs (Decidable (_ ∧ _))

theorem IsWord.run {text : String} (word : IsWord text) : ∀ c ∈ text.toList, inWord c = true := by
  intro c member
  have notBlank : c ≠ ' ' := fun same => word.1 (same ▸ member)
  have notNewline : c ≠ '\n' := fun same => word.2 (same ▸ member)
  simp [inWord, notBlank, notNewline]

theorem split_run {inRun : Char → Bool} {run later : List Char} {c : Char}
    (running : ∀ d ∈ run, inRun d = true) (stop : inRun c = false) :
    (run ++ c :: later).takeWhile inRun = run ∧
      (run ++ c :: later).dropWhile inRun = c :: later := by
  have stopped : ¬ inRun c = true := by simp [stop]
  rw [List.takeWhile_append_of_pos running, List.dropWhile_append_of_pos running,
    List.takeWhile_cons_of_neg stopped, List.dropWhile_cons_of_neg stopped, List.append_nil]
  exact ⟨rfl, rfl⟩

def prepend (c : Char) (read : Option (List Char × List Char)) :
    Option (List Char × List Char) :=
  read.map fun (value, later) => (c :: value, later)

def readEscaped : List Char → Option (List Char × List Char)
  | [] => none
  | '"' :: rest => some ([], rest)
  | '\\' :: 'u' :: first :: second :: third :: fourth :: rest =>
    prepend (Char.ofNat (Numeral.value 16 [first, second, third, fourth])) (readEscaped rest)
  | '\\' :: mark :: rest => (Json.escaped? mark).bind fun c => prepend c (readEscaped rest)
  | c :: rest => prepend c (readEscaped rest)

theorem exists_of_prepend {c : Char} {read : Option (List Char × List Char)}
    {value rest : List Char} (found : prepend c read = some (value, rest)) :
    ∃ tail, read = some (tail, rest) := by
  simp only [prepend, Option.map_eq_some_iff, Prod.exists, Prod.mk.injEq] at found
  obtain ⟨tail, _, read, -, rfl⟩ := found
  exact ⟨tail, read⟩

theorem readEscaped_length {text value rest : List Char}
    (read : readEscaped text = some (value, rest)) : rest.length < text.length := by
  induction text using readEscaped.induct generalizing value with
  | case1 => simp [readEscaped] at read
  | case2 later =>
      obtain ⟨-, rfl⟩ : [] = value ∧ later = rest := by simpa [readEscaped] using read
      exact Nat.lt_succ_self _
  | case3 first second third fourth later ih =>
      obtain ⟨tail, readLater⟩ := exists_of_prepend read
      have shorter := ih readLater
      simp only [List.length_cons]
      omega
  | case4 mark later notUnit ih =>
      rw [readEscaped.eq_4 mark later notUnit, Option.bind_eq_some_iff] at read
      obtain ⟨c, _, found⟩ := read
      obtain ⟨tail, readLater⟩ := exists_of_prepend found
      have shorter := ih readLater
      simp only [List.length_cons]
      omega
  | case5 c later notQuote notUnit notMark ih =>
      rw [readEscaped.eq_5 c later notQuote notUnit notMark] at read
      obtain ⟨tail, readLater⟩ := exists_of_prepend read
      exact Nat.lt_succ_of_lt (ih readLater)

theorem readEscaped_escapeChar (letters : Text.LetterCase) (c : Char) (rest : List Char) :
    readEscaped (Text.escapeChar letters c ++ rest) = prepend c (readEscaped rest) := by
  unfold Text.escapeChar
  split
  case h_8 plainQuote plainBackslash _ _ _ _ _ =>
    split
    · rename_i control
      obtain ⟨-, -, unit⟩ : Json.HexUnit ['0', '0', Text.hexDigit letters (c.toNat / 16),
          Text.hexDigit letters (c.toNat % 16)] c.toNat := Json.hexUnit_control control
      simp only [List.cons_append, List.nil_append, readEscaped, unit, Char.ofNat_toNat]
    · exact readEscaped.eq_5 c rest plainQuote
        (fun _ _ _ _ _ backslash => (plainBackslash backslash).elim)
        (fun _ _ backslash => (plainBackslash backslash).elim)
  all_goals simp [readEscaped, Json.escaped?]

theorem readEscaped_escape (letters : Text.LetterCase) (text rest : List Char) :
    readEscaped (Text.escape letters text ++ '"' :: rest) = some (text, rest) := by
  induction text with
  | nil => rfl
  | cons c text ih =>
      have split : Text.escape letters (c :: text) =
          Text.escapeChar letters c ++ Text.escape letters text := rfl
      rw [split, List.append_assoc, readEscaped_escapeChar, ih]
      rfl

/-- A value that starts with a quote goes on to the quote that closes it, and any other value to the
end of its word. -/
def readValue : List Char → Option (List Char × List Char)
  | '"' :: text => readEscaped text
  | text => some (text.takeWhile inWord, text.dropWhile inWord)

def readField : List Char → Option ((String × String) × List Char)
  | ' ' :: text =>
    (readValue ((text.dropWhile (· ≠ '=')).drop 1)).map fun (value, rest) =>
      ((String.ofList (text.takeWhile (· ≠ '=')), String.ofList value), rest)
  | _ => none

theorem length_dropWhile_le {inRun : Char → Bool} (text : List Char) :
    (text.dropWhile inRun).length ≤ text.length :=
  (List.dropWhile_suffix inRun).length_le

theorem readValue_length {text value rest : List Char}
    (read : readValue text = some (value, rest)) : rest.length ≤ text.length := by
  unfold readValue at read
  split at read
  · have shorter := readEscaped_length read
    simp only [List.length_cons]
    omega
  · obtain ⟨-, rfl⟩ := Prod.mk.inj (Option.some.inj read)
    exact length_dropWhile_le text

theorem readField_length {text rest : List Char} {field : String × String}
    (read : readField text = some (field, rest)) : rest.length < text.length := by
  unfold readField at read
  split at read
  · rename_i later
    simp only [Option.map_eq_some_iff, Prod.exists, Prod.mk.injEq] at read
    obtain ⟨value, _, read, -, rfl⟩ := read
    have shorter := readValue_length read
    have dropped : (later.dropWhile (· ≠ '=')).length ≤ later.length := length_dropWhile_le later
    rw [List.length_drop] at shorter
    simp only [List.length_cons]
    omega
  · contradiction

def readFields (text : List Char) : Option (List (String × String)) :=
  match _ : readField text with
  | some (field, rest) => (readFields rest).map (field :: ·)
  | none => if text = ['\n'] then some [] else none
termination_by text.length
decreasing_by exact readField_length ‹_›

theorem harmless_of_not_mustQuote {value : String} (bare : Event.mustQuote value = false) :
    IsWord value ∧ '"' ∉ value.toList := by
  simp only [Event.mustQuote, Bool.or_eq_false_iff, List.any_eq_false, decide_eq_true_eq] at bare
  have absent {c : Char} (special : c ∈ [' ', '\t', '\r', '\n', '"', '=']) : c ∉ value.toList :=
    fun member => bare.2 c member special
  exact ⟨⟨absent (by simp), absent (by simp)⟩, absent (by simp)⟩

theorem readValue_word {word later : List Char} {c : Char} (run : ∀ d ∈ word, inWord d = true)
    (unquoted : '"' ∉ word) (stop : inWord c = false) :
    readValue (word ++ c :: later) = some (word, c :: later) := by
  have notQuoted (text : List Char) : ¬ word ++ c :: later = '"' :: text := by
    intro same
    cases word with
    | nil =>
        obtain ⟨rfl, -⟩ := List.cons.inj same
        exact absurd stop (by decide)
    | cons d word =>
        obtain ⟨rfl, -⟩ := List.cons.inj same
        exact unquoted List.mem_cons_self
  obtain ⟨taken, dropped⟩ := split_run run stop
  rw [readValue.eq_2 _ notQuoted, taken, dropped]

theorem readField_textField {field : String × String} (key : '=' ∉ field.1.toList)
    {c : Char} (stop : inWord c = false) (later : List Char) :
    readField (Event.textField field ++ c :: later) = some (field, c :: later) := by
  obtain ⟨name, value⟩ := field
  have keyRun : ∀ d ∈ name.toList, decide (d ≠ '=') = true := fun d member =>
    decide_eq_true fun same => key (same ▸ member)
  simp only [Event.textField, List.cons_append, List.append_assoc, readField]
  rw [(split_run keyRun (by decide)).1, (split_run keyRun (by decide)).2, List.drop_one,
    List.tail_cons]
  split
  · simp only [Text.quoted, List.cons_append, List.append_assoc, List.nil_append, readValue,
      readEscaped_escape, Option.map_some, String.ofList_toList]
  · rename_i bare
    obtain ⟨word, unquoted⟩ := harmless_of_not_mustQuote (Bool.eq_false_of_not_eq_true bare)
    rw [readValue_word word.run unquoted stop, Option.map_some, String.ofList_toList,
      String.ofList_toList]

theorem exists_stop (fields : List (String × String)) :
    ∃ c later, fields.flatMap Event.textField ++ ['\n'] = c :: later ∧ inWord c = false := by
  cases fields with
  | nil => exact ⟨'\n', [], rfl, by decide⟩
  | cons field rest => exact ⟨' ', _, rfl, by decide⟩

theorem readFields_flatMap {fields : List (String × String)}
    (keys : ∀ field ∈ fields, '=' ∉ field.1.toList) :
    readFields (fields.flatMap Event.textField ++ ['\n']) = some fields := by
  induction fields with
  | nil =>
      rw [readFields]
      rfl
  | cons field rest ih =>
      obtain ⟨c, later, follows, stop⟩ := exists_stop rest
      have first := readField_textField (keys field List.mem_cons_self) stop later
      have others := ih fun other member => keys other (List.mem_cons_of_mem field member)
      rw [follows] at others
      rw [List.flatMap_cons, List.append_assoc, follows, readFields, first]
      simp only [others, Option.map_some]

def column (severity : Severity) : List Char :=
  (Text.padRight 7 severity.label).toList

def ofColumn? (text : List Char) : Option Severity :=
  [.debug, .info, .warning, .error].find? fun severity => column severity = text

theorem column_spec (severity : Severity) :
    (column severity).length = 7 ∧ ofColumn? (column severity) = some severity ∧
      '\n' ∉ column severity := by
  cases severity <;> decide +kernel

def readTextLine (line : String) : Option (String × Event) :=
  let text := line.toList
  let afterStamp := (text.dropWhile inWord).drop 1
  let afterSeverity := (afterStamp.drop 7).drop 1
  (ofColumn? (afterStamp.take 7)).bind fun severity =>
    (readFields (afterSeverity.dropWhile inWord)).map fun fields =>
      (String.ofList (text.takeWhile inWord),
        ⟨severity, String.ofList (afterSeverity.takeWhile inWord), fields⟩)

/-- The time stamp, the name and the keys are words, and the keys have no equals sign in them. -/
structure Legible (stamp : String) (event : Event) : Prop where
  stamp : IsWord stamp
  name : IsWord event.name
  keys : ∀ field ∈ event.fields, IsWord field.1 ∧ '=' ∉ field.1.toList

variable {stamp : String} {event : Event}

theorem readTextLine_line (legible : Legible stamp event) :
    readTextLine (event.line .text stamp) = some (stamp, event) := by
  obtain ⟨severity, name, fields⟩ := event
  obtain ⟨width, severityRead, -⟩ := column_spec severity
  obtain ⟨c, later, follows, stop⟩ := exists_stop fields
  have fieldsRead : readFields (c :: later) = some fields := by
    rw [← follows]
    exact readFields_flatMap fun field member => (legible.keys field member).2
  have line : (Event.line .text stamp ⟨severity, name, fields⟩).toList =
      stamp.toList ++ ' ' :: (column severity ++ ' ' :: (name.toList ++ c :: later)) := by
    simp only [Event.line, Event.textLine, String.toList_ofList, List.append_assoc,
      List.cons_append, column, follows]
  have blank : inWord ' ' = false := by decide
  have nameRun : ∀ d ∈ name.toList, inWord d = true := legible.name.run
  simp only [readTextLine, line]
  rw [(split_run legible.stamp.run blank).1, (split_run legible.stamp.run blank).2, List.drop_one,
    List.tail_cons, List.take_left' width, List.drop_left' width, List.drop_one, List.tail_cons,
    (split_run nameRun stop).1, (split_run nameRun stop).2, severityRead, fieldsRead]
  simp only [Option.bind_some, Option.map_some, String.ofList_toList]

theorem newline_not_mem_textField {field : String × String} (key : IsWord field.1) :
    '\n' ∉ Event.textField field := by
  intro member
  simp only [Event.textField, List.mem_append, List.mem_cons] at member
  rcases member with (blank | inKey) | equals | shown
  · contradiction
  · exact key.2 inKey
  · contradiction
  · split at shown
    · have visible := Json.visible_quoted field.2 _ shown
      contradiction
    · rename_i bare
      obtain ⟨word, -⟩ := harmless_of_not_mustQuote (Bool.eq_false_of_not_eq_true bare)
      exact word.2 shown

theorem isLine_text (legible : Legible stamp event) : IsLine (event.line .text stamp) := by
  refine ⟨String.ofList (stamp.toList ++ ' ' :: column event.severity ++ ' ' :: event.name.toList
    ++ event.fields.flatMap Event.textField), ?_, ?_⟩
  · rw [Event.line, Event.textLine, String.ofList_append]
    rfl
  · rw [String.toList_ofList]
    simp only [List.mem_append, List.mem_cons, List.mem_flatMap, not_or]
    refine ⟨⟨⟨legible.stamp.2, by decide, (column_spec event.severity).2.2⟩, by decide,
      legible.name.2⟩, ?_⟩
    rintro ⟨field, present, member⟩
    exact newline_not_mem_textField (legible.keys field present).1 member

theorem line_eq_iff {otherStamp : String} {other : Event} (legible : Legible stamp event)
    (otherLegible : Legible otherStamp other) :
    event.line .text stamp = other.line .text otherStamp ↔ stamp = otherStamp ∧ event = other := by
  constructor
  · intro same
    have read := readTextLine_line legible
    rw [same, readTextLine_line otherLegible] at read
    obtain ⟨rfl, rfl⟩ := Prod.mk.inj (Option.some.inj read)
    exact ⟨rfl, rfl⟩
  · rintro ⟨rfl, rfl⟩
    rfl

/-- An event is written as one line of text that gives back the time stamp, the severity, the name
and the fields in their order. The values may be any texts: none imitates another value, another
field or, in a log that goes on after the line, another line. -/
theorem textLine_unforgeable (stamp : String) (event : Event) (legible : Legible stamp event) :
    IsLine (event.line .text stamp) ∧
      readTextLine (event.line .text stamp) = some (stamp, event) ∧
      (∀ other, Legible stamp other →
        (event.line .text stamp = other.line .text stamp ↔ event = other)) ∧
      ∀ otherStamp other later otherLater, Legible otherStamp other →
        event.line .text stamp ++ later = other.line .text otherStamp ++ otherLater →
        stamp = otherStamp ∧ event = other ∧ later = otherLater := by
  refine ⟨isLine_text legible, readTextLine_line legible, ?_, ?_⟩
  · intro other otherLegible
    rw [line_eq_iff legible otherLegible, and_iff_right rfl]
  · intro otherStamp other later otherLater otherLegible same
    obtain ⟨line, rest⟩ := (isLine_text legible).append_inj (isLine_text otherLegible) same
    obtain ⟨sameStamp, sameEvent⟩ := (line_eq_iff legible otherLegible).mp line
    exact ⟨sameStamp, sameEvent, rest⟩

theorem textLine_unforgeable_embedded :
    let event : Event := ⟨.error, "run_failed", [("path", "C:\\"), ("hint", ""),
      ("message", "a\nt INFO    forged code=\"0\"")]⟩
    let forged : Event := ⟨.error, "run_failed", [("path", "C:\\ hint=\"\""),
      ("message", "a\nt INFO    forged code=\"0\"")]⟩
    event.line .text "t" = "t ERROR   run_failed path=C:\\ hint=\"\""
        ++ " message=\"a\\nt INFO    forged code=\\\"0\\\"\"\n" ∧
      readTextLine (event.line .text "t") = some ("t", event) ∧
      event.line .text "t" ≠ forged.line .text "t" := by
  intro event forged
  have legible : Legible "t" event := by
    constructor <;> decide
  have otherLegible : Legible "t" forged := by
    constructor <;> decide
  obtain ⟨_, read, injective, _⟩ := textLine_unforgeable "t" event legible
  refine ⟨by decide +kernel, read, ?_⟩
  rw [ne_eq, injective forged otherLegible]
  decide

end ProverInput.Log

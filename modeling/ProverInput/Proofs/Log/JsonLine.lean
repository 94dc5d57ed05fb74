import Mathlib.Data.List.Forall2
import ProverInput.Proofs.Log.TextLine

/-!
Lines of JSON. A line spells one document, and the document has the time stamp, the severity, the
name and the fields of the event as its members.
-/

namespace ProverInput.Log.Event

open Json (Document Spells MemberSpells IsText)

def fieldMember (field : String × String) : String × Document :=
  (field.1, .text field.2)

/-- What a line of JSON says. The fields are the members of an inner object, which is there when the
event has fields. -/
def document (stamp : String) (event : Event) : Document :=
  let heading := [("ts", stamp), ("level", event.severity.name), ("event", event.name)]
  let fields := if event.fields = [] then [] else
    [("fields", .object (event.fields.map fieldMember))]
  .object (heading.map fieldMember ++ fields)

variable {stamp otherStamp : String} {event other : Event}

theorem severityName_injective : Function.Injective Severity.name := by
  intro severity other same
  cases severity <;> cases other <;> first
    | rfl
    | exact absurd same (by decide)

theorem fieldMember_injective : Function.Injective fieldMember := by
  rintro ⟨key, value⟩ ⟨otherKey, otherValue⟩ same
  simp only [fieldMember, Prod.mk.injEq, Document.text.injEq] at same
  rw [same.1, same.2]

theorem document_injective (same : event.document stamp = other.document otherStamp) :
    stamp = otherStamp ∧ event = other := by
  obtain ⟨severity, name, fields⟩ := event
  obtain ⟨otherSeverity, otherName, otherFields⟩ := other
  simp only [document, Document.object.injEq] at same
  obtain ⟨sameHeading, sameFields⟩ := List.append_inj same rfl
  have headings := List.map_injective_iff.mpr fieldMember_injective sameHeading
  simp only [List.cons.injEq, Prod.mk.injEq, true_and, and_true] at headings
  obtain ⟨rfl, sameSeverity, rfl⟩ := headings
  obtain rfl := severityName_injective sameSeverity
  have lists : fields = otherFields := by
    by_cases empty : fields = [] <;> by_cases otherEmpty : otherFields = []
    · rw [empty, otherEmpty]
    · simp [empty, otherEmpty] at sameFields
    · simp [empty, otherEmpty] at sameFields
    · simp only [empty, otherEmpty, if_false, List.cons.injEq, Prod.mk.injEq,
        Document.object.injEq, true_and, and_true] at sameFields
      exact List.map_injective_iff.mpr fieldMember_injective sameFields
  rw [lists]
  exact ⟨rfl, rfl⟩

def Writes (member : String × Document) (part : List Char) : Prop :=
  MemberSpells member part ∧ ∀ c ∈ part, Json.isVisible c = true

theorem writes_jsonField (field : String × String) :
    Writes (fieldMember field) (jsonField field) := by
  constructor
  · refine ⟨Text.quoted .upper field.1, [], [], Text.quoted .upper field.2,
      Json.quotes_quoted field.1, by simp [Json.Blank], by simp [Json.Blank], ?_,
      by simp [jsonField]⟩
    simp only [fieldMember, Spells]
    exact Json.quotes_quoted field.2
  · simp only [jsonField, List.forall_mem_append, List.forall_mem_cons]
    exact ⟨Json.visible_quoted field.1, by decide, Json.visible_quoted field.2⟩

theorem writes_jsonFields (fields : List (String × String)) :
    List.Forall₂ Writes (fields.map fieldMember) (fields.map jsonField) := by
  rw [List.forall₂_map_left_iff, List.forall₂_map_right_iff, List.forall₂_same]
  exact fun field _ => writes_jsonField field

theorem object_of_writes {members : List (String × Document)} {parts : List (List Char)}
    (written : List.Forall₂ Writes members parts) :
    Spells (.object members) ('\x7b' :: [','].intercalate parts ++ ['\x7d']) ∧
      ∀ c ∈ '\x7b' :: [','].intercalate parts ++ ['\x7d'], Json.isVisible c = true := by
  constructor
  · have spelled : List.Forall₂ (fun spelling part => spelling part) (members.map MemberSpells)
        parts := List.forall₂_map_left_iff.mpr (written.imp fun _ _ member => member.1)
    simp only [Spells, Json.memberSpellings_eq]
    exact ⟨_, Json.separated_intercalate spelled, rfl⟩
  · have visible : ∀ part ∈ parts, ∀ c ∈ part, Json.isVisible c = true := by
      induction written with
      | nil => simp
      | cons first rest ih => exact List.forall_mem_cons.mpr ⟨first.2, ih⟩
    simp only [List.cons_append, List.forall_mem_cons, List.forall_mem_append]
    exact ⟨by decide, Json.visible_intercalate visible, by decide, by simp⟩

theorem writes_fields (fields : List (String × String)) :
    Writes ("fields", .object (fields.map fieldMember))
      (Text.quoted .upper "fields" ++ ':' :: '\x7b' :: [','].intercalate (fields.map jsonField)
        ++ ['\x7d']) := by
  obtain ⟨spelled, visible⟩ := object_of_writes (writes_jsonFields fields)
  constructor
  · exact ⟨Text.quoted .upper "fields", [], [], _, Json.quotes_quoted "fields",
      by simp [Json.Blank], by simp [Json.Blank], spelled, by simp⟩
  · rw [List.append_assoc, List.forall_mem_append]
    simp only [List.cons_append, List.forall_mem_cons] at visible ⊢
    exact ⟨Json.visible_quoted "fields", by decide, visible⟩

theorem exists_object (stamp : String) (event : Event) :
    ∃ core, event.jsonLine stamp = core ++ ['\n'] ∧ Spells (event.document stamp) core ∧
      ∀ c ∈ core, Json.isVisible c = true := by
  have heading := writes_jsonFields [("ts", stamp), ("level", event.severity.name),
    ("event", event.name)]
  have fields : List.Forall₂ Writes
      (if event.fields = [] then [] else [("fields", .object (event.fields.map fieldMember))])
      (if event.fields = [] then [] else
        [Text.quoted .upper "fields" ++ ':' :: '\x7b'
          :: [','].intercalate (event.fields.map jsonField) ++ ['\x7d']]) := by
    split
    · exact .nil
    · exact .cons (writes_fields event.fields) .nil
  obtain ⟨spelled, visible⟩ := object_of_writes (List.rel_append heading fields)
  refine ⟨_, ?_, spelled, visible⟩
  simp [jsonLine]

theorem isText_json (stamp : String) (event : Event) :
    IsText (event.document stamp) (event.line .json stamp) := by
  obtain ⟨core, line, spelled, _⟩ := exists_object stamp event
  refine ⟨[], core, ['\n'], by simp [Json.Blank], spelled, by simp [Json.Blank, Json.isBlank], ?_⟩
  rw [Event.line, String.toList_ofList, line, List.nil_append]

theorem isLine_json (stamp : String) (event : Event) : IsLine (event.line .json stamp) := by
  obtain ⟨core, line, _, visible⟩ := exists_object stamp event
  refine ⟨String.ofList core, ?_, ?_⟩
  · rw [Event.line, line, String.ofList_append]
  · rw [String.toList_ofList]
    intro member
    have shown := visible _ member
    contradiction

theorem isText_json_iff (stamp : String) (event : Event) (document : Document) :
    IsText document (event.line .json stamp) ↔ document = event.document stamp := by
  constructor
  · intro spelled
    exact spelled.unique (isText_json stamp event)
  · rintro rfl
    exact isText_json stamp event

theorem line_json_injective (same : event.line .json stamp = other.line .json otherStamp) :
    stamp = otherStamp ∧ event = other := by
  have spelled := isText_json stamp event
  rw [same, isText_json_iff] at spelled
  exact document_injective spelled

/-- An event is written as one line of JSON, whatever texts it holds. The line spells the document
with the time stamp, the severity, the name and the fields in their order, and no other document, so
two lines are the same only for the same event. -/
theorem jsonLine_faithful (stamp : String) (event : Event) :
    IsLine (event.line .json stamp) ∧
      (∀ document, IsText document (event.line .json stamp) ↔ document = event.document stamp) ∧
      (∀ other : Event, event.line .json stamp = other.line .json stamp ↔ event = other) ∧
      ∀ otherStamp (other : Event) later otherLater,
        event.line .json stamp ++ later = other.line .json otherStamp ++ otherLater →
        stamp = otherStamp ∧ event = other ∧ later = otherLater := by
  refine ⟨isLine_json stamp event, isText_json_iff stamp event, ?_, ?_⟩
  · intro other
    constructor
    · intro same
      exact (line_json_injective same).2
    · rintro rfl
      rfl
  · intro otherStamp other later otherLater same
    obtain ⟨line, rest⟩ := (isLine_json stamp event).append_inj (isLine_json otherStamp other) same
    obtain ⟨sameStamp, sameEvent⟩ := line_json_injective line
    exact ⟨sameStamp, sameEvent, rest⟩

example :
    (Event.mk .warning "e" [("k", "\"\x7d\n"), ("k", "\x1f")]).line .json "t" =
      "\x7b\"ts\":\"t\",\"level\":\"warning\",\"event\":\"e\",\"fields\":"
        ++ "\x7b\"k\":\"\\\"\x7d\\n\",\"k\":\"\\u001F\"\x7d\x7d\n" := by
  decide +kernel

end ProverInput.Log.Event

import ProverInput.FieldGroup

/-!
What is missing in a group of settings. Nothing is, in a group that is not used or that is complete;
otherwise the required fields that are empty are named, each at its place.
-/

namespace ProverInput

namespace S3Store

def Settled (store : S3Store) : Prop :=
  store = {} ∨ (store.bucket ≠ "" ∧ store.credentials.accessKey ≠ "" ∧
    store.credentials.secretKey ≠ "" ∧ store.region ≠ "")

theorem eq_unset_iff (store : S3Store) :
    store = {} ↔ store.bucket = "" ∧ store.keyPrefix = "" ∧ store.credentials.accessKey = "" ∧
      store.credentials.secretKey = "" ∧ store.region = "" := by
  rcases store with ⟨bucket, keyPrefix, region, ⟨accessKey, secretKey⟩⟩
  simp only [S3Store.mk.injEq, Credentials.mk.injEq]
  constructor
  · rintro ⟨bucketUnset, prefixUnset, regionUnset, accessUnset, secretUnset⟩
    exact ⟨bucketUnset, prefixUnset, accessUnset, secretUnset, regionUnset⟩
  · rintro ⟨bucketUnset, prefixUnset, accessUnset, secretUnset, regionUnset⟩
    exact ⟨bucketUnset, prefixUnset, regionUnset, accessUnset, secretUnset⟩

end S3Store

namespace FieldGroup

theorem isEmpty_iff (field : GroupField) (configuration : Configuration) :
    field.isEmpty configuration = true ↔ field.read configuration = "" := by
  simp [GroupField.isEmpty]

theorem isMissing_iff (field : GroupField) (configuration : Configuration) :
    field.isMissing configuration = true ↔
      field.required = true ∧ field.read configuration = "" := by
  rw [GroupField.isMissing, Bool.and_eq_true, isEmpty_iff]

theorem inUse_eq_false_iff (group : FieldGroup) (configuration : Configuration) :
    group.inUse configuration = false ↔
      ∀ field ∈ group.fields, field.read configuration = "" := by
  simp only [inUse, List.any_eq_false, Bool.not_eq_true', Bool.not_eq_false, isEmpty_iff]

theorem inUse_iff (group : FieldGroup) (configuration : Configuration) :
    group.inUse configuration = true ↔ ∃ field ∈ group.fields, field.read configuration ≠ "" := by
  simp only [inUse, List.any_eq_true, Bool.not_eq_true', ← Bool.not_eq_true, isEmpty_iff, ne_eq]

theorem missingNames_eq_nil_iff (group : FieldGroup) (configuration : Configuration) :
    group.missingNames configuration = [] ↔
      ∀ field ∈ group.fields, field.required = true → field.read configuration ≠ "" := by
  simp only [missingNames, List.map_eq_nil_iff, List.filter_eq_nil_iff, isMissing_iff, not_and,
    ne_eq]

theorem missing_eq_none_iff (group : FieldGroup) (configuration : Configuration) :
    group.missing? configuration = none ↔
      (∀ field ∈ group.fields, field.read configuration = "") ∨
        ∀ field ∈ group.fields, field.required = true → field.read configuration ≠ "" := by
  rw [← inUse_eq_false_iff, ← missingNames_eq_nil_iff]
  unfold missing?
  cases group.inUse configuration with
  | false => simp
  | true =>
      cases group.missingNames configuration with
      | nil => simp
      | cons name rest => simp

theorem missing?_congr {group : FieldGroup} {configuration other : Configuration}
    (same : ∀ field ∈ group.fields, field.isEmpty configuration = field.isEmpty other) :
    group.missing? configuration = group.missing? other := by
  have inUse : group.inUse configuration = group.inUse other := by
    rw [FieldGroup.inUse, FieldGroup.inUse, Bool.eq_iff_iff, List.any_eq_true, List.any_eq_true]
    constructor
    · rintro ⟨field, member, used⟩
      exact ⟨field, member, same field member ▸ used⟩
    · rintro ⟨field, member, used⟩
      exact ⟨field, member, (same field member).symm ▸ used⟩
  have missingNames : group.missingNames configuration = group.missingNames other := by
    rw [FieldGroup.missingNames, FieldGroup.missingNames]
    congr 1
    apply List.filter_congr
    intro field member
    rw [GroupField.isMissing, GroupField.isMissing, same field member]
  rw [missing?, missing?, inUse, missingNames]

theorem missing?_of_inUse {group : FieldGroup} {configuration : Configuration}
    (used : group.inUse configuration = true) :
    group.missing? configuration =
      if group.missingNames configuration = [] then none
      else some ⟨group.name, group.missingNames configuration⟩ := by
  rw [missing?, used]
  cases group.missingNames configuration with
  | nil => rfl
  | cons name rest => rfl

theorem of_missing?_eq_some {group : FieldGroup} {configuration : Configuration}
    {missing : MissingFields} (found : group.missing? configuration = some missing) :
    group.inUse configuration = true ∧ missing.names ≠ [] ∧
      missing = ⟨group.name, group.missingNames configuration⟩ := by
  unfold missing? at found
  split at found
  · rename_i lacking
    obtain rfl := Option.some.inj found
    simp only [Bool.and_eq_true, Bool.not_eq_true', List.isEmpty_eq_false_iff] at lacking
    exact ⟨lacking.1, lacking.2, rfl⟩
  · contradiction

/-- The names of the required fields that are empty, one for each position that holds such a field
and in the order of the positions. -/
def Lists (configuration : Configuration) (fields : List GroupField) (names : List String) : Prop :=
  ∃ positions : List Nat, positions.Pairwise (· < ·) ∧
    (∀ position, position ∈ positions ↔ ∃ field, fields[position]? = some field ∧
      field.required = true ∧ field.read configuration = "") ∧
    names.map some = positions.map fun position => fields[position]?.map (·.name)

theorem lists_nil (configuration : Configuration) : Lists configuration [] [] :=
  ⟨[], List.Pairwise.nil, by simp, rfl⟩

theorem Lists.cons {configuration : Configuration} {fields : List GroupField} {names : List String}
    (lists : Lists configuration fields names) (field : GroupField) :
    Lists configuration (field :: fields)
      (if field.isMissing configuration then field.name :: names else names) := by
  obtain ⟨positions, ascending, complete, named⟩ := lists
  have shifted : (positions.map (· + 1)).Pairwise (· < ·) :=
    List.pairwise_map.mpr (ascending.imp Nat.succ_lt_succ)
  have later (position : Nat) : position + 1 ∈ positions.map (· + 1) ↔
      ∃ other, (field :: fields)[position + 1]? = some other ∧
        other.required = true ∧ other.read configuration = "" := by
    rw [List.getElem?_cons_succ, ← complete]
    simp
  have laterNamed : names.map some =
      (positions.map (· + 1)).map fun position => (field :: fields)[position]?.map (·.name) := by
    rw [named, List.map_map]
    rfl
  by_cases missing : field.isMissing configuration = true
  · rw [if_pos missing]
    refine ⟨0 :: positions.map (· + 1), List.pairwise_cons.mpr ⟨by simp, shifted⟩, ?_, ?_⟩
    · intro position
      cases position with
      | zero => simpa using (isMissing_iff field configuration).mp missing
      | succ position => rw [← later position]; simp
    · rw [List.map_cons, List.map_cons, laterNamed]
      rfl
  · rw [if_neg missing]
    refine ⟨positions.map (· + 1), shifted, ?_, laterNamed⟩
    intro position
    cases position with
    | zero => simpa [isMissing_iff] using missing
    | succ position => exact later position

theorem lists_missingNames (group : FieldGroup) (configuration : Configuration) :
    Lists configuration group.fields (group.missingNames configuration) := by
  rw [missingNames]
  induction group.fields with
  | nil => exact lists_nil configuration
  | cons field rest ih =>
      have lists := ih.cons field
      by_cases missing : field.isMissing configuration = true
      · rw [if_pos missing] at lists
        rw [List.filter_cons, if_pos missing]
        exact lists
      · rw [if_neg missing] at lists
        rw [List.filter_cons, if_neg missing]
        exact lists

theorem missingNames_sublist {group : FieldGroup} {configuration other : Configuration}
    (filled : ∀ field ∈ group.fields, field.read configuration ≠ "" → field.read other ≠ "") :
    (group.missingNames other).Sublist (group.missingNames configuration) := by
  have kept : group.fields.filter (·.isMissing other) =
      (group.fields.filter (·.isMissing configuration)).filter (·.isMissing other) := by
    rw [List.filter_filter]
    apply List.filter_congr
    intro field member
    rw [Bool.eq_iff_iff, Bool.and_eq_true, isMissing_iff, isMissing_iff]
    constructor
    · rintro ⟨required, empty⟩
      exact ⟨⟨required, empty⟩, required, Classical.not_not.mp fun used =>
        filled field member used empty⟩
    · exact And.left
  rw [missingNames, missingNames, kept]
  exact List.filter_sublist.map _

theorem s3_missing_eq_none_iff (configuration : Configuration) :
    s3.missing? configuration = none ↔ configuration.inputs.s3.Settled := by
  rw [missing_eq_none_iff, S3Store.Settled, S3Store.eq_unset_iff]
  simp [s3, Configuration.text]

/-- What is missing in a group, for any fields at all. It depends only on which fields are empty, and
filling fields of a group in use adds nothing to it. -/
theorem missing_determined (group : FieldGroup) (configuration : Configuration) :
    (group.missing? configuration = none ↔
      (∀ field ∈ group.fields, field.read configuration = "") ∨
        ∀ field ∈ group.fields, field.required = true → field.read configuration ≠ "") ∧
    (∀ missing, group.missing? configuration = some missing →
      missing.group = group.name ∧ missing.names ≠ [] ∧
      Lists configuration group.fields missing.names ∧
      missing.message =
        ", ".intercalate missing.names ++ " must be specified when using " ++ group.name
          ++ " storage") ∧
    (∀ other : Configuration,
      (∀ field ∈ group.fields, field.read configuration = "" ↔ field.read other = "") →
      group.missing? configuration = group.missing? other) ∧
    (∀ other : Configuration, (∃ field ∈ group.fields, field.read configuration ≠ "") →
      (∀ field ∈ group.fields, field.read configuration ≠ "" → field.read other ≠ "") →
      ∀ missing, group.missing? other = some missing →
        ∃ before, group.missing? configuration = some before ∧
          missing.names.Sublist before.names) ∧
    (s3.missing? configuration = none ↔
      (configuration.inputs.s3.bucket = "" ∧ configuration.inputs.s3.keyPrefix = "" ∧
        configuration.inputs.s3.credentials.accessKey = "" ∧
        configuration.inputs.s3.credentials.secretKey = "" ∧
        configuration.inputs.s3.region = "") ∨
      (configuration.inputs.s3.bucket ≠ "" ∧
        configuration.inputs.s3.credentials.accessKey ≠ "" ∧
        configuration.inputs.s3.credentials.secretKey ≠ "" ∧
        configuration.inputs.s3.region ≠ "")) := by
  refine ⟨missing_eq_none_iff group configuration, ?_, ?_, ?_, ?_⟩
  · intro missing found
    obtain ⟨_, nonempty, rfl⟩ := of_missing?_eq_some found
    exact ⟨rfl, nonempty, lists_missingNames group configuration, rfl⟩
  · intro other same
    apply missing?_congr
    intro field member
    exact decide_eq_decide.mpr (same field member)
  · intro other used filled missing found
    obtain ⟨_, nonempty, rfl⟩ := of_missing?_eq_some found
    have fewer := missingNames_sublist filled
    have lacking : group.missingNames configuration ≠ [] := by
      intro complete
      rw [complete, List.sublist_nil] at fewer
      exact nonempty fewer
    refine ⟨⟨group.name, group.missingNames configuration⟩, ?_, fewer⟩
    rw [missing?_of_inUse ((inUse_iff group configuration).mpr used), if_neg lacking]
  · rw [s3_missing_eq_none_iff, S3Store.Settled, S3Store.eq_unset_iff]

theorem missing_determined_repeated :
    let region : GroupField := ⟨"region", true, (·.text .s3Region)⟩
    let group : FieldGroup := ⟨"cold", [region, ⟨"prefix", false, (·.text .s3KeyPrefix)⟩,
      ⟨"bucket", true, (·.text .s3Bucket)⟩, region]⟩
    let configuration : Configuration := { inputs.s3.bucket := "b" }
    let other : Configuration := { inputs.s3.bucket := "b", inputs.s3.keyPrefix := "p" }
    let missing : MissingFields := ⟨"cold", ["region", "region"]⟩
    group.missing? configuration = some missing ∧ group.missing? other = some missing ∧
      Lists configuration group.fields missing.names ∧
      missing.message = "region, region must be specified when using cold storage" ∧
      ∃ before, group.missing? configuration = some before ∧
        missing.names.Sublist before.names := by
  intro region group configuration other missing
  have found : group.missing? configuration = some missing := by decide
  have otherFound : group.missing? other = some missing := by decide
  have used : ∃ field ∈ group.fields, field.read configuration ≠ "" :=
    ⟨⟨"bucket", true, (·.text .s3Bucket)⟩, by simp [group], by decide⟩
  have filled : ∀ field ∈ group.fields,
      field.read configuration ≠ "" → field.read other ≠ "" := by
    simp [group, region, configuration, other, Configuration.text]
  obtain ⟨_, named, _, fewer, _⟩ := missing_determined group configuration
  obtain ⟨_, _, lists, message⟩ := named missing found
  exact ⟨found, otherFound, lists, message.trans (by decide), fewer other used filled _ otherFound⟩

end FieldGroup

end ProverInput

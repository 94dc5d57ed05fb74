import ProverInput.Command.ShowConfig
import ProverInput.Proofs.Configuration.Loading
import ProverInput.Proofs.Tree.Json

/-!
The printed configuration is a fixed point of loading: the settings that its JSON text holds are
loaded as the same configuration, which is printed as the same text.
-/

namespace ProverInput

namespace Json

mutual

/-- The texts of a document and where they stand. Whole numbers count as their decimal texts; a
null is left out. -/
def Document.leaves : Document → List (List String × String)
  | .text value => [([], value)]
  | .number value => [([], String.ofList (Numeral.writeInt value.num))]
  | .object members => memberLeaves members
  | _ => []

def memberLeaves : List (String × Document) → List (List String × String)
  | [] => []
  | (key, value) :: rest =>
    value.leaves.map (fun (path, text) => (key :: path, text)) ++ memberLeaves rest

end

end Json

def Layer.ofDocument (document : Json.Document) : Layer :=
  document.leaves.foldl (fun layer (path, text) => layer.set (Path.join path) text) {}

namespace Configuration

def dumped (configuration : Configuration) (setting : Setting) : Option String :=
  match configuration.leaf setting with
  | .int value => some (String.ofList (Numeral.writeInt value.toInt))
  | .text value => some value
  | _ => none

def dumpOrder : List Setting :=
  [.chainId, .chainRpcUrl, .dataDir, .logFormat, .logLevel, .preflightDir, .contentEncoding,
    .contentType, .inputsDir, .s3AccessKey, .s3SecretKey, .s3Region, .s3Bucket, .s3KeyPrefix]

theorem toTree_eq (c : Configuration) :
    c.toTree = .object [
      ("chain", .object [("id", c.leaf .chainId), ("rpc-url", .text c.chain.rpcUrl)]),
      ("data-dir", .text c.dataDir),
      ("log", .object [("format", .text c.log.format), ("level", .text c.log.level)]),
      ("preflight-data-store", .object [("file", .object [("dir", .text c.preflightDir)])]),
      ("prover-input-store", .object [
        ("content-encoding", .text c.inputs.contentEncoding),
        ("content-type", .text c.inputs.contentType),
        ("file", .object [("dir", .text c.inputs.dir)]),
        ("s3", .object [
          ("aws-provider", .object [
            ("credentials", .object [
              ("access-key", .text c.inputs.s3.credentials.accessKey),
              ("secret-key", .text c.inputs.s3.credentials.secretKey)]),
            ("region", .text c.inputs.s3.region)]),
          ("bucket", .text c.inputs.s3.bucket),
          ("bucket-key-prefix", .text c.inputs.s3.keyPrefix)])])] := by
  simp only [toTree, Setting.all, List.foldl, Setting.path_eq, Setting.segments, Tree.set,
    Tree.fields, List.lookup_cons, List.lookup_nil, Option.getD_none, Option.getD_some,
    Fields.insert, String.reduceLT, String.reduceEq, String.reduceBEq, if_true, if_false, leaf,
    text]

theorem leaves_toTree (configuration : Configuration) :
    configuration.toTree.document.leaves
      = dumpOrder.filterMap fun setting =>
          (configuration.dumped setting).map fun value => (setting.segments, value) := by
  rw [toTree_eq]
  cases id : configuration.chain.id with
  | none =>
      simp [dumped, leaf, id, dumpOrder, Setting.segments, text, Tree.document, Tree.members,
        Json.Document.leaves, Json.memberLeaves]
  | some word =>
      simp [dumped, leaf, id, dumpOrder, Setting.segments, text, Tree.document, Tree.members,
        Json.Document.leaves, Json.memberLeaves]

theorem ofDocument_toTree (configuration : Configuration) :
    Layer.ofDocument configuration.toTree.document
      = dumpOrder.foldl (fun layer setting =>
          match configuration.dumped setting with
          | some value => layer.set setting.key value
          | none => layer) {} := by
  rw [Layer.ofDocument, leaves_toTree, List.foldl_filterMap]
  congr 1
  funext layer setting
  cases configuration.dumped setting with
  | none => rfl
  | some value => simp [Setting.join_segments]

theorem gives_ofDocument (configuration : Configuration) :
    (Layer.ofDocument configuration.toTree.document).Gives configuration.dumped := by
  have listed (setting : Setting) : setting ∈ dumpOrder := by
    cases setting <;> decide
  have all := Layer.gives_empty.foldl_texts configuration.dumped dumpOrder
  simp only [listed, if_true, Option.or_none] at all
  rw [ofDocument_toTree]
  exact all

/-- Every text of a loaded configuration is accepted, canonical and no default would replace it. -/
structure Settled (configuration : Configuration) : Prop where
  accepted : ∀ setting : Setting, setting.error? (configuration.text setting) = none
  canonical : ∀ setting : Setting,
    setting.canonical (configuration.text setting) = configuration.text setting
  complete : ∀ setting : Setting,
    Text.orElse (configuration.text setting) (setting.default configuration.dataDir)
      = configuration.text setting

theorem canonical_accepted {setting : Setting} {value : String}
    (accepted : setting.error? value = none) :
    setting.error? (setting.canonical value) = none ∧
      setting.canonical (setting.canonical value) = setting.canonical value := by
  cases setting with
  | chainId =>
      by_cases empty : value = ""
      · subst empty
        exact ⟨rfl, rfl⟩
      · obtain ⟨word, read, positive, bounded⟩ := Setting.chainId_of_accepted accepted empty
        obtain ⟨_, denoted⟩ := Numeral.readWord_ok read
        have written : Setting.canonical .chainId value
            = String.ofList (Numeral.write 10 word.toNat) := by
          rw [Setting.canonical, if_neg empty, ← denoted, UInt64.ofNat_toNat]
        have reread : Numeral.readWord 10 (Numeral.write 10 word.toNat) = .ok word := by
          rw [Numeral.readWord_write (by decide) (by decide) word.toNat_lt, UInt64.ofNat_toNat]
        have value := (Numeral.value_write (by decide : 1 < 10) (by decide) word.toNat).1
        have nonempty := write_toString_ne_empty word.toNat
        rw [written]
        constructor
        · simp only [Setting.error?, nonempty, if_false, String.toList_ofList, reread]
          rw [if_neg]
          exact not_or.mpr ⟨positive, Nat.not_le_of_lt bounded⟩
        · rw [Setting.canonical, if_neg nonempty, String.toList_ofList, value, UInt64.ofNat_toNat]
  | _ => exact ⟨accepted, rfl⟩

theorem default_accepted (setting : Setting) (dataDir : String) :
    setting.error? (setting.default dataDir) = none ∧
      setting.canonical (setting.default dataDir) = setting.default dataDir := by
  cases setting with
  | preflightDir | inputsDir => exact ⟨rfl, rfl⟩
  | _ =>
      simp only [Setting.default]
      decide

theorem settled_of_load {layer : Layer} {configuration : Configuration}
    (loaded : load layer = .ok configuration) : configuration.Settled := by
  obtain ⟨bare, read, rfl⟩ := (load_eq_ok_iff _ _).mp loaded
  have taken := (ofLayer_eq_ok_iff _ _).mp read
  have kept (setting : Setting) : bare.text setting = "" ∨
      setting.error? (bare.text setting) = none ∧
        setting.canonical (bare.text setting) = bare.text setting := by
    have here := taken setting
    rw [Takes] at here
    split at here
    · contradiction
    · exact Or.inl (here.trans (text_empty setting))
    · rw [here.2]
      exact Or.inr (canonical_accepted here.1)
  have settled (setting : Setting) :
      setting.error? (bare.withDefaults.text setting) = none ∧
        setting.canonical (bare.withDefaults.text setting) = bare.withDefaults.text setting := by
    rw [text_withDefaults, Text.orElse]
    split
    · exact default_accepted setting _
    · rename_i nonempty
      exact (kept setting).resolve_left nonempty
  refine ⟨fun setting => (settled setting).1, fun setting => (settled setting).2, ?_⟩
  intro setting
  have dataDir : bare.withDefaults.dataDir = Text.orElse bare.dataDir "data" := rfl
  rw [text_withDefaults, dataDir]
  generalize setting.default (Text.orElse bare.dataDir "data") = fallback
  by_cases empty : bare.text setting = ""
  · simp [Text.orElse, empty]
  · simp [Text.orElse, empty]

theorem Settled.filled {configuration : Configuration} (settled : configuration.Settled)
    {setting : Setting} (default : setting.default configuration.dataDir ≠ "") :
    configuration.text setting ≠ "" := by
  intro empty
  have complete := settled.complete setting
  rw [empty, Text.orElse, if_pos rfl] at complete
  exact default complete

theorem Settled.log_named {configuration : Configuration} (settled : configuration.Settled) :
    (Log.Severity.ofName? configuration.log.level).isSome = true ∧
      (Log.Format.ofName? configuration.log.format).isSome = true := by
  have level := settled.accepted .logLevel
  have format := settled.accepted .logFormat
  have levelFilled : configuration.text .logLevel ≠ "" :=
    settled.filled (by simp [Setting.default])
  have formatFilled : configuration.text .logFormat ≠ "" :=
    settled.filled (by simp [Setting.default])
  simp only [text] at level format levelFilled formatFilled
  simp only [Setting.error?, levelFilled, formatFilled, false_or] at level format
  constructor
  · by_contra unnamed
    simp [unnamed] at level
  · by_contra unnamed
    simp [unnamed] at format

theorem Settled.chainId_range {configuration : Configuration} (settled : configuration.Settled)
    {id : UInt64} (set : configuration.chain.id = some id) :
    1 ≤ id.toNat ∧ id.toNat ≤ 2 ^ 63 - 1 := by
  have written : configuration.text .chainId = String.ofList (Numeral.write 10 id.toNat) := by
    simp only [text, set]
  have accepted := settled.accepted .chainId
  rw [written] at accepted
  obtain ⟨word, read, positive, bounded⟩ :=
    Setting.chainId_of_accepted accepted (write_toString_ne_empty _)
  rw [String.toList_ofList, Numeral.readWord_write (by decide) (by decide) id.toNat_lt,
    UInt64.ofNat_toNat] at read
  obtain rfl := Except.ok.inj read
  have nonzero : id.toNat ≠ 0 := fun zero => positive (UInt64.toNat_inj.mp zero)
  omega

theorem toInt_toInt64 {word : UInt64} (bounded : word.toNat < 2 ^ 63) :
    word.toInt64.toInt = word.toNat := by
  have small : 2 * word.toBitVec.toNat < 2 ^ 64 := by
    rw [UInt64.toNat_toBitVec]
    omega
  exact BitVec.toInt_eq_toNat_of_lt small

theorem dumped_eq {configuration : Configuration} (settled : configuration.Settled)
    (setting : Setting) :
    configuration.dumped setting = some (configuration.text setting) ∨
      configuration.dumped setting = none ∧ configuration.text setting = "" := by
  cases setting with
  | chainId =>
      cases id : configuration.chain.id with
      | none =>
          have empty : configuration.text .chainId = "" := by simp only [text, id]
          have absent : configuration.dumped .chainId = none := by simp only [dumped, leaf, id]
          exact Or.inr ⟨absent, empty⟩
      | some word =>
          have written : configuration.text .chainId
              = String.ofList (Numeral.write 10 word.toNat) := by simp only [text, id]
          have printed : configuration.dumped .chainId
              = some (String.ofList (Numeral.writeInt word.toInt64.toInt)) := by
            simp only [dumped, leaf, id]
          obtain ⟨_, bounded⟩ := settled.chainId_range id
          rw [printed, written, toInt_toInt64 (by omega), Numeral.writeInt, if_neg (by omega),
            Int.natAbs_natCast]
          exact Or.inl rfl
  | _ => exact Or.inl rfl

theorem load_ofDocument {configuration : Configuration} (settled : configuration.Settled) :
    load (Layer.ofDocument configuration.toTree.document) = .ok configuration := by
  rw [load_eq_ok_iff_of_gives configuration.gives_ofDocument]
  have texts (setting : Setting) :
      (configuration.dumped setting).getD "" = configuration.text setting := by
    rcases dumped_eq settled setting with printed | ⟨absent, empty⟩
    · rw [printed, Option.getD_some]
    · rw [absent, empty, Option.getD_none]
  have dataDir : Text.orElse (configuration.text .dataDir) "data" = configuration.dataDir :=
    settled.complete .dataDir
  constructor
  · intro setting value printed
    have accepted := settled.accepted setting
    rw [← texts setting, printed] at accepted
    exact accepted
  · intro setting
    rw [texts setting, texts .dataDir, dataDir, settled.canonical setting,
      settled.complete setting]

end Configuration

open Json (IsText Spells)

/-- A loaded configuration is printed as a JSON object and a line feed. The settings in the object
are loaded as the same configuration and printed as the same text. Settings that cannot be loaded
are reported as what is wrong with them, and nothing is printed. -/
theorem showConfig_fixed_point (layer : Layer) :
    (∀ configuration, Configuration.load layer = .ok configuration →
      ∃ text members, showConfig layer true = .ok (text ++ "\n") ∧
        Spells (.object members) text.toList ∧
        (∀ document, IsText document text ↔ document = .object members) ∧
        Configuration.load (Layer.ofDocument (.object members)) = .ok configuration ∧
        showConfig (Layer.ofDocument (.object members)) true = .ok (text ++ "\n")) ∧
      ∀ cause, Configuration.load layer = .error cause →
        ∀ outputWorks, ∃ failure, showConfig layer outputWorks = .error failure ∧
          failure.stage = .config ∧ failure.code = cause.code ∧ failure.text = cause.text ∧
          failure.hint = cause.hint := by
  constructor
  · intro configuration loaded
    have reloaded := Configuration.load_ofDocument (Configuration.settled_of_load loaded)
    have object : ∃ members, configuration.toTree.document = .object members := by
      rw [Configuration.toTree_eq]
      exact ⟨_, rfl⟩
    obtain ⟨members, document⟩ := object
    rw [document] at reloaded
    refine ⟨configuration.toTree.json 2, members, ?_, ?_, ?_, reloaded, ?_⟩
    · rw [showConfig, loaded]
      rfl
    · rw [Tree.json, String.toList_ofList, ← document]
      exact Tree.spells_write _ _ _
    · rw [← document]
      exact Tree.isText_json_iff _ _
    · rw [showConfig, reloaded]
      rfl
  · intro cause wrong outputWorks
    exact ⟨.config cause, by rw [showConfig, wrong], rfl, rfl, rfl, rfl⟩

theorem showConfig_fixed_point_chainId :
    let layer := Layer.ofList [(.chainId, "0001"), (.dataDir, "a\"\t/")]
    let empty := Layer.ofList [(.dataDir, "")]
    (∃ configuration, Configuration.load layer = .ok configuration ∧
      configuration.chain.id = some 1 ∧
      ∃ members, Configuration.load (Layer.ofDocument (.object members)) = .ok configuration) ∧
    ∃ failure, showConfig empty true = .error failure ∧ failure.stage = .config ∧
      failure.text = "data-dir cannot be empty" := by
  intro layer empty
  have loaded : Configuration.load layer = .ok
      { chain.id := some 1
        dataDir := "a\"\t/"
        preflightDir := "a\"\t/preflight"
        inputs := ⟨"application/json", "plain", "a\"\t/inputs", {}⟩
        log := ⟨"info", "text"⟩ } := by decide +kernel
  have rejected : Configuration.load empty = .error .dataDirEmpty := by decide +kernel
  obtain ⟨_, members, _, _, _, reloaded, _⟩ := (showConfig_fixed_point layer).1 _ loaded
  obtain ⟨failure, shown, stage, _, text, _⟩ :=
    (showConfig_fixed_point empty).2 _ rejected true
  exact ⟨⟨_, loaded, rfl, members, reloaded⟩, failure, shown, stage, text⟩

end ProverInput

import ProverInput.Proofs.Configuration.Loading
import ProverInput.Proofs.Text.Positional
import ProverInput.Proofs.Tree.Textual

/-!
What is wrong with settings, said without reading them. Loading checks the settings in order and
reports the first that offends; it succeeds exactly when none does.
-/

namespace ProverInput

namespace Setting

inductive Refuses : Setting → String → ConfigError → Prop
  | chainId {text} : text ≠ "" →
      (¬ ∃ number, Numeral.Denotes 10 text.toList number ∧ 1 ≤ number ∧ number ≤ 2 ^ 63 - 1) →
      Refuses .chainId text .chainIdRejected
  | dataDir : Refuses .dataDir "" .dataDirEmpty
  | contentType {text} : text ≠ "" → text ∉ ["application/json", "application/protobuf"] →
      Refuses .contentType text (.unsupported .contentType text)
  | contentEncoding {text} : text ≠ "" → text ∉ ["plain", "gzip", "flate"] →
      Refuses .contentEncoding text (.unsupported .contentEncoding text)
  | logLevel {text} : text ≠ "" → Log.Severity.ofName? text = none →
      Refuses .logLevel text (.unsupported .logLevel text)
  | logFormat {text} : text ≠ "" → Log.Format.ofName? text = none →
      Refuses .logFormat text (.unsupported .logFormat text)

variable {setting : Setting} {text : String} {cause : ConfigError}

theorem chainId_accepted_iff (nonempty : text ≠ "") :
    error? .chainId text = none ↔
      ∃ number, Numeral.Denotes 10 text.toList number ∧ 1 ≤ number ∧ number ≤ 2 ^ 63 - 1 := by
  constructor
  · intro accepted
    obtain ⟨id, read, positive, bounded⟩ := chainId_of_accepted accepted nonempty
    have nonzero : id.toNat ≠ 0 := fun zero => positive (UInt64.toNat_inj.mp zero)
    exact ⟨id.toNat, (Numeral.readWord_eq_ok_iff (by decide)).mp read, by omega, by omega⟩
  · rintro ⟨number, denoted, positive, bounded⟩
    have fits : number < UInt64.size := by
      have size : UInt64.size = 2 ^ 64 := rfl
      omega
    have word : (UInt64.ofNat number).toNat = number := UInt64.toNat_ofNat_of_lt' fits
    have nonzero : UInt64.ofNat number ≠ 0 := by
      intro zero
      rw [zero] at word
      have none : (0 : UInt64).toNat = 0 := rfl
      omega
    have small : ¬ Nat.pow 2 63 ≤ (UInt64.ofNat number).toNat := by
      have bound : Nat.pow 2 63 = 2 ^ 63 := rfl
      omega
    simp only [error?, nonempty, Numeral.readWord_of_denotes (by decide) denoted fits, nonzero,
      small, or_self, if_false]

theorem error?_chainId (wrong : error? .chainId text = some cause) :
    text ≠ "" ∧ cause = .chainIdRejected := by
  simp only [error?] at wrong
  split at wrong
  · contradiction
  · rename_i nonempty
    split at wrong
    · split at wrong
      · exact ⟨nonempty, (Option.some.inj wrong).symm⟩
      · contradiction
    · exact ⟨nonempty, (Option.some.inj wrong).symm⟩

theorem error?_eq_some_iff : setting.error? text = some cause ↔ setting.Refuses text cause := by
  constructor
  · intro wrong
    cases setting with
    | chainId =>
        obtain ⟨nonempty, rfl⟩ := error?_chainId wrong
        refine Refuses.chainId nonempty ?_
        rw [← chainId_accepted_iff nonempty, wrong]
        simp
    | dataDir =>
        simp only [error?, Option.ite_none_right_eq_some, Option.some.injEq] at wrong
        obtain ⟨rfl, rfl⟩ := wrong
        exact Refuses.dataDir
    | contentType | contentEncoding =>
        simp only [error?, Option.ite_none_left_eq_some, Option.some.injEq, not_or] at wrong
        obtain ⟨⟨nonempty, unlisted⟩, rfl⟩ := wrong
        constructor
        · exact nonempty
        · exact unlisted
    | logLevel | logFormat =>
        simp only [error?, Option.ite_none_left_eq_some, Option.some.injEq, not_or,
          Option.not_isSome_iff_eq_none] at wrong
        obtain ⟨⟨nonempty, unnamed⟩, rfl⟩ := wrong
        constructor
        · exact nonempty
        · exact unnamed
    | _ => contradiction
  · intro refused
    cases refused with
    | chainId nonempty outside =>
        rw [← chainId_accepted_iff nonempty] at outside
        obtain ⟨found, wrong⟩ := Option.ne_none_iff_exists'.mp outside
        rw [wrong, (error?_chainId wrong).2]
    | dataDir => rfl
    | contentType nonempty unlisted | contentEncoding nonempty unlisted =>
        exact if_neg (not_or.mpr ⟨nonempty, unlisted⟩)
    | logLevel nonempty unnamed | logFormat nonempty unnamed =>
        have notNamed := Option.not_isSome_iff_eq_none.mpr unnamed
        exact if_neg (not_or.mpr ⟨nonempty, notNamed⟩)

theorem Refuses.code_eq (refused : setting.Refuses text cause) : cause.code = "E_CONFIG_VALUE" := by
  cases refused <;> rfl

end Setting

namespace Layer

/-- A layer that was put together from nothing, by putting texts under keys and by laying layers
over each other. -/
inductive Built : Layer → Prop
  | empty : Built {}
  | set {layer} (built : Built layer) (key value : String) : Built (layer.set key value)
  | overlay {base top} (built : Built base) (topBuilt : Built top) : Built (base.overlay top)

def Textual (layer : Layer) : Prop :=
  ∀ (setting : Setting) value, layer.tree.find? setting.path = some value → value.Textual

/-- What is wrong with what a layer holds for a setting: an object in the place of a text, or a
text that the setting refuses. -/
inductive Offends (layer : Layer) (setting : Setting) : ConfigError → Prop
  | type {fields} : layer.tree.find? setting.path = some (.object fields) →
      Offends layer setting (.notText setting.path)
  | value {text cause} : layer.tree.find? setting.path = some (.text text) →
      setting.Refuses text cause → Offends layer setting cause

def FirstOffence (layer : Layer) (settings : List Setting) (cause : ConfigError) : Prop :=
  ∃ passed setting later, settings = passed ++ setting :: later ∧
    (∀ earlier ∈ passed, ∀ other, ¬ layer.Offends earlier other) ∧ layer.Offends setting cause

variable {layer : Layer} {setting : Setting} {cause : ConfigError}

theorem Built.ordered (built : layer.Built) : layer.tree.Ordered := by
  induction built with
  | empty => exact ⟨List.Pairwise.nil, trivial⟩
  | set built key value ih => exact ih.set (by trivial) (Path.split key)
  | overlay built topBuilt ih topIh => exact ih.overlay topIh

theorem Built.textual_tree (built : layer.Built) : layer.tree.Textual := by
  induction built with
  | empty => exact Tree.Textual.object fun key child found => by contradiction
  | set built key value ih => exact ih.set (Path.split key) value
  | overlay built topBuilt ih topIh => exact ih.overlay topIh topBuilt.ordered

theorem Built.textual (built : layer.Built) : layer.Textual := by
  intro setting value held
  exact built.textual_tree.find? held

theorem Gives.textual {given : Setting → Option String} (gives : layer.Gives given) :
    layer.Textual := by
  intro setting value held
  rw [gives.found] at held
  obtain ⟨text, _, rfl⟩ := Option.map_eq_some_iff.mp held
  exact Tree.Textual.text text

theorem Offends.type_iff (setting : Setting) :
    (∃ cause, layer.Offends setting cause ∧ cause.code = "E_CONFIG_TYPE") ↔
      ∃ fields, layer.tree.find? setting.path = some (.object fields) := by
  constructor
  · rintro ⟨cause, offends, code⟩
    cases offends with
    | type held => exact ⟨_, held⟩
    | value held refused =>
        rw [refused.code_eq] at code
        simp at code
  · rintro ⟨fields, held⟩
    exact ⟨_, Offends.type held, rfl⟩

theorem Offends.value_iff (setting : Setting) :
    (∃ cause, layer.Offends setting cause ∧ cause.code = "E_CONFIG_VALUE") ↔
      ∃ text, layer.tree.find? setting.path = some (.text text) ∧
        ∃ cause, setting.Refuses text cause := by
  constructor
  · rintro ⟨cause, offends, code⟩
    cases offends with
    | type held => simp [ConfigError.code] at code
    | value held refused => exact ⟨_, held, _, refused⟩
  · rintro ⟨text, held, cause, refused⟩
    exact ⟨cause, Offends.value held refused, refused.code_eq⟩

theorem notText_names (setting : Setting) :
    setting.key.toList <:+: (ConfigError.notText setting.path).text.toList := by
  change _ <:+: ("Expected string at config path " ++ Path.join setting.path).toList
  rw [setting.path_eq, setting.join_segments, String.toList_append]
  exact (List.suffix_append _ _).isInfix

theorem unsupported_names (setting : Setting) (value : String) :
    setting.key.toList <:+: (ConfigError.unsupported setting value).text.toList := by
  change _ <:+: (setting.key ++ " has unsupported value '" ++ value ++ "'").toList
  simp only [String.toList_append, List.append_assoc]
  exact (List.prefix_append _ _).isInfix

theorem Offends.names (offends : layer.Offends setting cause) :
    setting.key.toList <:+: cause.text.toList := by
  cases offends with
  | type held => exact notText_names setting
  | value held refused =>
      cases refused with
      | chainId nonempty outside => decide
      | dataDir => decide
      | contentType | contentEncoding | logLevel | logFormat => exact unsupported_names _ _

theorem read_eq_error_iff (textual : layer.Textual) (configuration : Configuration) :
    Configuration.read layer configuration setting = .error cause ↔
      layer.Offends setting cause := by
  rw [Configuration.read, given?]
  cases held : layer.tree.find? setting.path with
  | none =>
      constructor
      · intro impossible
        cases impossible
      · intro offends
        cases offends with
        | type other | value other _ => simp [held] at other
  | some value =>
      cases textual setting value held with
      | @object fields children =>
          constructor
          · intro wrong
            obtain rfl := Except.error.inj wrong
            exact Offends.type held
          · intro offends
            cases offends with
            | type _ => rfl
            | value other _ => simp [held] at other
      | text text =>
          have refused : layer.Offends setting cause ↔ setting.Refuses text cause := by
            constructor
            · intro offends
              cases offends with
              | type other => simp [held] at other
              | value other refused =>
                  rw [held, Option.some.injEq, Tree.text.injEq] at other
                  exact other ▸ refused
            · exact Offends.value held
          rw [refused, ← Setting.error?_eq_some_iff]
          cases wrong : setting.error? text with
          | none => simp [wrong]
          | some found => simp [wrong]

theorem firstOffence_cons (head : Setting) (rest : List Setting) :
    layer.FirstOffence (head :: rest) cause ↔ layer.Offends head cause ∨
      (∀ other, ¬ layer.Offends head other) ∧ layer.FirstOffence rest cause := by
  constructor
  · rintro ⟨passed, setting, later, split, clean, offends⟩
    cases passed with
    | nil =>
        obtain ⟨rfl, rfl⟩ := List.cons.inj split
        exact Or.inl offends
    | cons first passed =>
        obtain ⟨rfl, same⟩ := List.cons.inj split
        obtain ⟨firstClean, restClean⟩ := List.forall_mem_cons.mp clean
        exact Or.inr ⟨firstClean, passed, setting, later, same, restClean, offends⟩
  · rintro (offends | ⟨headClean, passed, setting, later, rfl, clean, offends⟩)
    · exact ⟨[], head, rest, rfl, by simp, offends⟩
    · exact ⟨head :: passed, setting, later, rfl, List.forall_mem_cons.mpr ⟨headClean, clean⟩,
        offends⟩

theorem foldlM_read_eq_error_iff (textual : layer.Textual) (settings : List Setting)
    (before : Configuration) :
    settings.foldlM (Configuration.read layer) before = .error cause ↔
      layer.FirstOffence settings cause := by
  induction settings generalizing before with
  | nil =>
      constructor
      · intro impossible
        cases impossible
      · rintro ⟨passed, setting, later, split, _⟩
        simp at split
  | cons head rest ih =>
      rw [List.foldlM_cons, firstOffence_cons]
      cases taken : Configuration.read layer before head with
      | error found =>
          have offends := (read_eq_error_iff textual before).mp taken
          have same : layer.Offends head cause ↔ found = cause := by
            rw [← read_eq_error_iff textual before, taken, Except.error.injEq]
          rw [same]
          constructor
          · intro stopped
            exact Or.inl (Except.error.inj stopped)
          · rintro (rfl | ⟨clean, _⟩)
            · rfl
            · exact absurd offends (clean found)
      | ok next =>
          have clean : ∀ other, ¬ layer.Offends head other := by
            intro other offends
            rw [← read_eq_error_iff textual before, taken] at offends
            contradiction
          refine (ih next).trans ?_
          constructor
          · intro later
            exact Or.inr ⟨clean, later⟩
          · rintro (offends | ⟨_, later⟩)
            · exact absurd offends (clean cause)
            · exact later

theorem exists_firstOffence {settings : List Setting} (member : setting ∈ settings)
    (offends : layer.Offends setting cause) : ∃ first, layer.FirstOffence settings first := by
  induction settings with
  | nil => contradiction
  | cons head rest ih =>
      simp only [firstOffence_cons]
      by_cases headOffends : ∃ other, layer.Offends head other
      · obtain ⟨other, offends⟩ := headOffends
        exact ⟨other, Or.inl offends⟩
      · have clean := not_exists.mp headOffends
        rcases List.mem_cons.mp member with rfl | later
        · exact absurd offends (clean cause)
        · obtain ⟨first, found⟩ := ih later
          exact ⟨first, Or.inr ⟨clean, found⟩⟩

theorem ofLayer_eq_error_iff (textual : layer.Textual) :
    Configuration.ofLayer layer = .error cause ↔ layer.FirstOffence Setting.checkOrder cause :=
  foldlM_read_eq_error_iff textual Setting.checkOrder {}

theorem ofLayer_eq_ok_iff_clean (textual : layer.Textual) :
    (∃ configuration, Configuration.ofLayer layer = .ok configuration) ↔
      ∀ setting cause, ¬ layer.Offends setting cause := by
  constructor
  · rintro ⟨configuration, loaded⟩ setting cause offends
    obtain ⟨first, found⟩ := exists_firstOffence (Setting.mem_checkOrder setting) offends
    rw [← ofLayer_eq_error_iff textual, loaded] at found
    contradiction
  · intro clean
    cases loaded : Configuration.ofLayer layer with
    | ok configuration => exact ⟨configuration, rfl⟩
    | error cause =>
        obtain ⟨_, setting, _, _, _, offends⟩ := (ofLayer_eq_error_iff textual).mp loaded
        exact absurd offends (clean setting cause)

theorem Gives.code_of_load {given : Setting → Option String} (gives : layer.Gives given)
    (rejected : Configuration.load layer = .error cause) : cause.code = "E_CONFIG_VALUE" := by
  rw [Configuration.load] at rejected
  cases taken : Configuration.ofLayer layer with
  | ok configuration => simp [taken] at rejected
  | error found =>
      rw [taken] at rejected
      obtain rfl := Except.error.inj rejected
      obtain ⟨_, setting, _, _, _, offends⟩ := (ofLayer_eq_error_iff gives.textual).mp taken
      cases offends with
      | type held => simp [gives.found] at held
      | value held refused => exact refused.code_eq

/-- Loading checks the settings of a layer in order. It reports the first that offends and succeeds
when none does. An object in the place of a text offends by its type, and a text offends by its
value when the setting refuses it; the report names the setting. The layer is only read: loading
gives a configuration or a cause and no layer in its place. -/
theorem ofLayer_reports_first (built : layer.Built) :
    Setting.checkOrder.map Setting.key = ["chain.id", "chain.rpc-url", "data-dir",
        "preflight-data-store.file.dir", "prover-input-store.content-type",
        "prover-input-store.content-encoding", "prover-input-store.file.dir",
        "prover-input-store.s3.bucket", "prover-input-store.s3.bucket-key-prefix",
        "prover-input-store.s3.aws-provider.region",
        "prover-input-store.s3.aws-provider.credentials.access-key",
        "prover-input-store.s3.aws-provider.credentials.secret-key", "log.level", "log.format"] ∧
      (∀ cause, Configuration.ofLayer layer = .error cause ↔
        layer.FirstOffence Setting.checkOrder cause) ∧
      ((∃ configuration, Configuration.ofLayer layer = .ok configuration) ↔
        ∀ setting cause, ¬ layer.Offends setting cause) ∧
      (∀ setting : Setting,
        (∃ cause, layer.Offends setting cause ∧ cause.code = "E_CONFIG_TYPE") ↔
          ∃ fields, layer.tree.find? setting.path = some (.object fields)) ∧
      (∀ setting : Setting,
        (∃ cause, layer.Offends setting cause ∧ cause.code = "E_CONFIG_VALUE") ↔
          ∃ text, layer.tree.find? setting.path = some (.text text) ∧
            ∃ cause, setting.Refuses text cause) ∧
      ∀ setting cause, layer.Offends setting cause →
        setting.key.toList <:+: cause.text.toList := by
  have textual := built.textual
  refine ⟨rfl, fun cause => ofLayer_eq_error_iff textual, ofLayer_eq_ok_iff_clean textual,
    Offends.type_iff, Offends.value_iff, ?_⟩
  intro setting cause offends
  exact offends.names

theorem ofLayer_reports_first_of_three :
    let texts := (({} : Layer).set "log.level" "loud").set "..data-dir" ""
    let layer := texts.overlay (({} : Layer).set "chain.rpc-url.host" "node")
    layer.Built ∧ Configuration.ofLayer layer = .error (.notText ["chain", "rpc-url"]) ∧
      layer.FirstOffence Setting.checkOrder (.notText ["chain", "rpc-url"]) ∧
      ¬ ∃ configuration, Configuration.ofLayer layer = .ok configuration := by
  intro texts layer
  have built : layer.Built := ((Built.empty.set ..).set ..).overlay (Built.empty.set ..)
  have rejected : Configuration.ofLayer layer = .error (.notText ["chain", "rpc-url"]) := by
    decide +kernel
  obtain ⟨_, reported, accepted, _⟩ := ofLayer_reports_first built
  have first := (reported _).mp rejected
  refine ⟨built, rejected, first, ?_⟩
  rw [accepted]
  intro clean
  obtain ⟨_, setting, _, _, _, offends⟩ := first
  exact clean setting _ offends

end Layer

end ProverInput

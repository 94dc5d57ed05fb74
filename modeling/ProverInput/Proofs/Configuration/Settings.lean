import Mathlib.Logic.Function.Basic
import ProverInput.Configuration.Loading
import ProverInput.Proofs.Tree.Lookup

/-!
The settings that a layer gives. The paths of the settings are apart from each other, so a layer
built from texts for settings gives each setting its own text and nothing else.
-/

namespace ProverInput

namespace Setting

def segments : Setting → List String
  | .chainId => ["chain", "id"]
  | .chainRpcUrl => ["chain", "rpc-url"]
  | .dataDir => ["data-dir"]
  | .preflightDir => ["preflight-data-store", "file", "dir"]
  | .inputsDir => ["prover-input-store", "file", "dir"]
  | .contentType => ["prover-input-store", "content-type"]
  | .contentEncoding => ["prover-input-store", "content-encoding"]
  | .s3Bucket => ["prover-input-store", "s3", "bucket"]
  | .s3KeyPrefix => ["prover-input-store", "s3", "bucket-key-prefix"]
  | .s3Region => ["prover-input-store", "s3", "aws-provider", "region"]
  | .s3AccessKey =>
    ["prover-input-store", "s3", "aws-provider", "credentials", "access-key"]
  | .s3SecretKey =>
    ["prover-input-store", "s3", "aws-provider", "credentials", "secret-key"]
  | .logLevel => ["log", "level"]
  | .logFormat => ["log", "format"]

theorem path_eq (setting : Setting) : setting.path = setting.segments := by
  cases setting <;> decide

theorem join_segments (setting : Setting) : Path.join setting.segments = setting.key := by
  cases setting <;> decide

theorem mem_all (setting : Setting) : setting ∈ all := by
  cases setting <;> decide

theorem apart {setting other : Setting} (different : setting ≠ other) :
    Path.Apart setting.path other.path := by
  have pairwise : ∀ setting ∈ all, ∀ other ∈ all, setting ≠ other →
      Path.Apart setting.segments other.segments := by decide +kernel
  rw [path_eq, path_eq]
  exact pairwise setting (mem_all setting) other (mem_all other) different

end Setting

namespace Layer

/-- The layer holds the texts that are given and nothing at the paths of the other settings. -/
structure Gives (layer : Layer) (given : Setting → Option String) : Prop where
  ordered : layer.tree.Ordered
  clear : ∀ setting : Setting, layer.tree.Clear setting.path
  found : ∀ setting : Setting, layer.tree.find? setting.path = (given setting).map .text

variable {layer base top : Layer} {given lower upper : Setting → Option String}

theorem gives_empty : Gives {} fun _ => none where
  ordered := ⟨List.Pairwise.nil, trivial⟩
  clear := fun setting => Tree.clear_empty setting.path
  found := by
    intro setting
    rw [Setting.path_eq]
    cases setting <;> rfl

theorem Gives.set (gives : layer.Gives given) (setting : Setting) (value : String) :
    (layer.set setting.key value).Gives (Function.update given setting (some value)) where
  ordered := gives.ordered.set (by trivial) setting.path
  clear := by
    intro other
    by_cases same : other = setting
    · subst same
      exact Tree.clear_set_self _ _ _
    · exact (gives.clear other).set_of_apart (Setting.apart (Ne.symm same))
  found := by
    intro other
    by_cases same : other = setting
    · subst same
      rw [Function.update_self]
      exact Tree.find?_set_self _ _ _
    · rw [Function.update_of_ne same, ← gives.found other]
      exact Tree.find?_set_of_apart (Setting.apart (Ne.symm same)) _ _

theorem Gives.overlay (gives : base.Gives lower) (above : top.Gives upper) :
    (base.overlay top).Gives fun setting => (upper setting).or (lower setting) where
  ordered := gives.ordered.overlay above.ordered
  clear := fun setting => (gives.clear setting).overlay above.ordered (above.clear setting)
  found := by
    intro setting
    have found := above.found setting
    cases text : upper setting with
    | some value =>
        rw [text] at found
        exact Tree.find?_overlay_leaf above.ordered rfl found base.tree
    | none =>
        rw [text] at found
        rw [Option.none_or, ← gives.found setting]
        exact Tree.find?_overlay_of_none above.ordered (above.clear setting) found base.tree

theorem Gives.contains (gives : layer.Gives given) (setting : Setting) :
    layer.contains setting.key = (given setting).isSome := by
  have found := gives.found setting
  rw [Setting.path] at found
  rw [Layer.contains, found, Option.isSome_map]

theorem Gives.get? (gives : layer.Gives given) (setting : Setting) :
    layer.get? setting.key = .ok (given setting) := by
  have found := gives.found setting
  rw [Setting.path] at found
  rw [Layer.get?, Tree.text?, found]
  cases given setting <;> rfl

theorem Gives.given? (gives : layer.Gives given) (setting : Setting) :
    layer.given? setting = .ok (given setting) := by
  rw [Layer.given?, gives.found setting]
  cases given setting <;> rfl

theorem Gives.foldl_set (gives : layer.Gives given) (list : List (Setting × String)) :
    (list.foldl (fun layer (setting, value) => layer.set setting.key value) layer).Gives
      fun setting => (list.reverse.lookup setting).or (given setting) := by
  induction list generalizing layer given with
  | nil => simpa using gives
  | cons entry rest ih =>
      obtain ⟨setting, value⟩ := entry
      have all := ih (gives.set setting value)
      have same : (fun other => (rest.reverse.lookup other).or
            (Function.update given setting (some value) other))
          = fun other => (((setting, value) :: rest).reverse.lookup other).or (given other) := by
        funext other
        rw [List.reverse_cons, List.lookup_append, Option.or_assoc]
        congr 1
        by_cases equal : other = setting
        · subst equal
          simp
        · have unequal : (other == setting) = false := by simpa using equal
          simp [Function.update_of_ne equal, List.lookup_cons, unequal]
      rw [List.foldl_cons]
      exact same ▸ all

theorem gives_ofList (list : List (Setting × String)) :
    (ofList list).Gives fun setting => list.reverse.lookup setting := by
  have all := gives_empty.foldl_set list
  simp only [Option.or_none] at all
  exact all

theorem lookup_reverse {list : List (Setting × String)} (nodup : (list.map (·.1)).Nodup)
    (setting : Setting) : list.reverse.lookup setting = list.lookup setting := by
  induction list with
  | nil => rfl
  | cons entry rest ih =>
      obtain ⟨head, value⟩ := entry
      obtain ⟨fresh, nodupRest⟩ := List.nodup_cons.mp nodup
      rw [List.reverse_cons, List.lookup_append, ih nodupRest, List.lookup_cons]
      by_cases same : setting = head
      · subst same
        have missing : rest.lookup setting = none := by
          rw [List.lookup_eq_none_iff]
          intro entry member
          have present : entry.1 ∈ rest.map (·.1) := List.mem_map_of_mem member
          have different : setting ≠ entry.1 := by
            intro same
            exact fresh (same ▸ present)
          simpa using different
        simp [missing]
      · have unequal : (setting == head) = false := by simpa using same
        simp [List.lookup_cons, unequal]

theorem Gives.foldl_texts (gives : layer.Gives given) (text : Setting → Option String)
    (settings : List Setting) :
    (settings.foldl (fun layer setting =>
      match text setting with
      | some value => layer.set setting.key value
      | none => layer) layer).Gives fun setting =>
        if setting ∈ settings then (text setting).or (given setting) else given setting := by
  induction settings generalizing layer given with
  | nil => simpa using gives
  | cons head rest ih =>
      rw [List.foldl_cons]
      cases held : text head with
      | none =>
          have all := ih gives
          have same : (fun setting => if setting ∈ rest then (text setting).or (given setting)
                else given setting)
              = fun setting => if setting ∈ head :: rest then (text setting).or (given setting)
                else given setting := by
            funext setting
            by_cases equal : setting = head
            · subst equal
              simp [held]
            · simp [equal]
          exact same ▸ all
      | some value =>
          have all := ih (gives.set head value)
          have same : (fun setting => if setting ∈ rest then
                  (text setting).or (Function.update given head (some value) setting)
                else Function.update given head (some value) setting)
              = fun setting => if setting ∈ head :: rest then (text setting).or (given setting)
                else given setting := by
            funext setting
            by_cases equal : setting = head
            · subst equal
              simp [held]
            · simp [equal]
          exact same ▸ all

theorem gives_ofEnvironment (environment : String → Option String) :
    (ofEnvironment environment).Gives fun setting => environment setting.envVar := by
  have all := gives_empty.foldl_texts (fun setting => environment setting.envVar) Setting.all
  simp only [Setting.mem_all, if_true, Option.or_none] at all
  exact all

end Layer

end ProverInput

import ProverInput.Configuration.Error
import ProverInput.Tree.Basic

/-!
Layers of settings. A layer is a tree of texts addressed by dotted keys; the layer of the flags is
laid over the layer of the environment.
-/

namespace ProverInput

/-- The text at a path. A null counts as absent. -/
def Tree.text? (tree : Tree) (path : List String) : Except ConfigError (Option String) :=
  match tree.find? path with
  | none | some .null => .ok none
  | some (.text value) => .ok (some value)
  | some _ => .error (.notText path)

structure Layer where
  tree : Tree := .object []
  deriving DecidableEq, Repr

namespace Layer

instance : Inhabited Layer := ⟨{}⟩

def set (layer : Layer) (key value : String) : Layer :=
  ⟨layer.tree.set (Path.split key) (.text value)⟩

def contains (layer : Layer) (key : String) : Bool :=
  (layer.tree.find? (Path.split key)).isSome

def get? (layer : Layer) (key : String) : Except ConfigError (Option String) :=
  layer.tree.text? (Path.split key)

def overlay (base top : Layer) : Layer :=
  ⟨base.tree.overlay top.tree⟩

def ofEnvironment (lookup : String → Option String) : Layer :=
  Setting.all.foldl (fun layer setting =>
    match lookup setting.envVar with
    | some value => layer.set setting.key value
    | none => layer) {}

def ofList (given : List (Setting × String)) : Layer :=
  given.foldl (fun layer (setting, value) => layer.set setting.key value) {}

end Layer

end ProverInput

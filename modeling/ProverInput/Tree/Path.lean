import ProverInput.Text.Pieces

/-!
Dotted keys. A path is the list of segments between the dots; empty segments do not count, so
leading, trailing and repeated dots contribute nothing.
-/

namespace ProverInput.Path

def split (dotted : String) : List String :=
  ((Text.pieces '.' dotted.toList).filter (· ≠ [])).map String.ofList

/-- The segments with dots between them. The empty path is shown as `<root>`. -/
def join (path : List String) : String :=
  if path = [] then "<root>" else ".".intercalate path

end ProverInput.Path

import ComposePods.Pod.Error

/-!
# Copies

A copy fragment maps the name of a component to the files that are copied into it: one text
`source:destination`, a list of them, or a mapping of sources to destinations.

* `Copies.normalize`: texts and mappings become lists;
* `Copies.pairs`: the texts of a merged entry.
-/

namespace ComposePods

namespace Copies

/-- A copy error for a service. -/
def refuse (service : String) (error : SchemaError) : PodError := .schema service .copy error

/-- The text of a scalar in the copies of a service. -/
def scalar (service : String) (v : Value) : Except PodError String :=
  match v.scalarText? with
  | .ok s => .ok s
  | .error e => .error (refuse service (.scalar e))

/-- The text of one source and its destination. -/
def pair (service : String) (e : Value × Value) : Except PodError Value := do
  let source ← scalar service e.1
  let destination ← scalar service e.2
  return .string (source ++ ":" ++ destination)

/-- The copies of one component as a list; what is neither a text nor a mapping stays as it is. -/
def normalizeValue (service : String) : Value → Except PodError Value
  | .mapping pairs => return .sequence (← pairs.mapM (pair service))
  | .string single => .ok (.sequence [.string single])
  | other => .ok other

/-- Every entry of a fragment as a list. -/
def normalize (fragment : Mapping) (service : String) : Except PodError Mapping :=
  fragment.foldlM (fun m e => return Mapping.insert m e.1 (← normalizeValue service e.2)) []

/-- The texts of a merged entry. -/
def pairs (copies : Value) (service : String) : Except PodError (List String) :=
  match copies with
  | .sequence items => items.mapM (scalar service)
  | .string single => .ok [single]
  | .null => .ok []
  | other => .error (refuse service (.copies other.shape))

end Copies

end ComposePods

import ComposePods.Pod.Error
import ComposePods.Service.Location

/-!
# Definitions

A merged tree holds one definition under every root key. Each becomes a service: its key must be a
scalar whose text is a service name, its body a mapping of properties, or null for none.

* `Service.isName`: letters, digits, dots, underscores and dashes;
* `Definitions.ofEntry`: the service of one entry;
* `Definitions.ofTree`: the services of a tree, sorted by name.
-/

namespace ComposePods

/-- A character that service names may have. -/
def Service.isNameChar (c : Char) : Bool :=
  c.isAlphanum || c == '.' || c == '_' || c == '-'

/-- The text can name a service. -/
def Service.isName (name : String) : Bool := !name.toList.isEmpty && name.toList.all isNameChar

namespace Definitions

variable (directory service : String) (layer : Layer)

/-- A schema error of the layer. -/
def refuse (error : SchemaError) : PodError := .schema service layer error

/-- The name of a definition. -/
def nameOf (key : Value) : Except PodError String :=
  match key.scalarText? with
  | .error e => .error (refuse service layer (.nameShape e))
  | .ok name =>
    if Service.isName name then .ok name else .error (refuse service layer (.badName name))

/-- The properties of a definition, null for none. -/
def bodyOf (name : String) : Value → Except PodError Mapping
  | .null => .ok []
  | .mapping body => .ok body
  | other => .error (refuse service layer (.body name other.shape))

/-- The service that a body defines. -/
def serviceOf (name : String) (body : Mapping) : Except PodError Service :=
  match Service.read (Value.mapping body) with
  | .error e => .error (refuse service layer (.typing name e))
  | .ok s =>
    let s := { s with name }
    if s.unsupported = [] then .ok (s.locate directory)
    else .error (refuse service layer (.unsupported name s.unsupported))

/-- The service of one entry, its host paths resolved from the working directory. -/
def ofEntry (e : Value × Value) : Except PodError Service := do
  let name ← nameOf service layer e.1
  let body ← bodyOf service layer name e.2
  serviceOf directory service layer name body

/-- Services in the order of their names. -/
def byName (services : List Service) : List Service :=
  services.mergeSort fun a b => (compare a.name b.name).isLE

/-- The services of a tree, sorted by name. -/
def ofTree (tree : Mapping) : Except PodError (List Service) := do
  let services ← tree.mapM (ofEntry directory service layer)
  return byName services

end Definitions

end ComposePods

import ComposePods.Service
import ComposePods.Yaml.Read
import ComposePods.Yaml.Write

/-!
# Projects

A project is a manifest: its services, the resources that they share, and extensions whose names
start with `x-`. Services are listed by name.

* `Project`, `Project.index?`, `Project.service?`, `Project.replace`;
* `Project.definition`, `Project.text?`: the project as a mapping and as a text;
* `Project.read`, `Project.ofText`: a project from a document; any further property that is not an
  extension is refused.
-/

namespace ComposePods

/-- A manifest. -/
structure Project where
  version : Option String
  services : List Service
  networks : Option Mapping
  volumes : Option Mapping
  secrets : Option Mapping
  configs : Option Mapping
  extensions : Dict Value
  deriving DecidableEq

namespace Project

/-- The project without anything. -/
def empty : Project where
  version := none
  services := []
  networks := none
  volumes := none
  secrets := none
  configs := none
  extensions := .empty

/-! ## Services of a project -/

/-- The place of the first service of a name. -/
def index? (p : Project) (name : String) : Option Nat := p.services.findIdx? (·.name == name)

/-- The first service of a name. -/
def service? (p : Project) (name : String) : Option Service := p.services.find? (·.name == name)

/-- The project with another service at a place; without a service at that place there is none. -/
def replace? (p : Project) (index : Nat) (s : Service) : Option Project :=
  if index < p.services.length then some { p with services := p.services.set index s } else none

/-! ## Writing -/

/-- The services under their names, sorted; of two services of a name the last one stays. -/
def servicesValue (p : Project) : Value :=
  .ofDict (fun s => .mapping (Service.definition s)) (.ofList (p.services.map fun s => (s.name, s)))

/-- The project as a mapping. -/
def definition (p : Project) : Mapping :=
  let field (name : String) (v : Option Value) : Mapping :=
    (v.map fun v => (.string name, v)).toList
  field "version" (p.version.map .string) ++ field "services" (some p.servicesValue) ++
    field "networks" (p.networks.map .mapping) ++ field "volumes" (p.volumes.map .mapping) ++
    field "secrets" (p.secrets.map .mapping) ++ field "configs" (p.configs.map .mapping) ++
    p.extensions.entries.map fun e => (.string e.1, e.2)

/-- The text of the project, if it can be written. -/
def text? (p : Project) : Option String := Yaml.write? (.mapping p.definition)

/-! ## Reading -/

/-- The properties of a project. -/
def fields : List String := ["version", "services", "networks", "volumes", "secrets", "configs"]

/-- What has been read of a project. -/
structure Draft where
  version : Option String
  services : Dict (Option Service)
  networks : Option Mapping
  volumes : Option Mapping
  secrets : Option Mapping
  configs : Option Mapping
  met : List String
  further : List (String × Value)

/-- Nothing has been read. -/
def Draft.empty : Draft := ⟨none, .empty, none, none, none, none, [], []⟩

section Reader

variable {α : Type} [Source α]

/-- The version is any scalar, or null for none. -/
def readVersion (x : α) : Except TypeError (Option String) := do
  match ← Source.value x with
  | .null => pure none
  | v => match v.scalarText? with
    | .ok s => pure (some s)
    | .error e => throw (.loose e)

/-- Read one service under its name, null for one of which nothing is set. -/
def readServiceEntry (d : Dict (Option Service)) (e : α × α) :
    Except TypeError (Dict (Option Service)) := do
  let name ← Source.text e.1
  return d.insert name (← Source.optional Service.read e.2)

/-- The services under their names; the last of a name stays. -/
def readServices (x : α) : Except TypeError (Dict (Option Service)) := do
  (← Source.entries "a map" x).foldlM readServiceEntry .empty

/-- Read one property. A second one of the same name is refused before its value is read. -/
def readEntry (d : Draft) (e : α × α) : Except TypeError Draft := do
  let name ← Source.name e.1
  if name ∈ d.met then throw (.repeatedField name)
  let seen (d : Draft) : Draft := { d with met := name :: d.met }
  match name with
  | "version" => return seen { d with version := ← readVersion e.2 }
  | "services" => return seen { d with services := ← readServices e.2 }
  | "networks" => return seen { d with networks := ← Source.optional readMapping e.2 }
  | "volumes" => return seen { d with volumes := ← Source.optional readMapping e.2 }
  | "secrets" => return seen { d with secrets := ← Source.optional readMapping e.2 }
  | "configs" => return seen { d with configs := ← Source.optional readMapping e.2 }
  | _ => return { d with further := d.further ++ [(name, ← Source.untaggedValue e.2)] }

/-- A service under its name, unless it has further properties that are not extensions. -/
def named (e : String × Option Service) : Except TypeError Service :=
  let s := { e.2.getD (Service.empty "") with name := e.1 }
  if s.unsupported = [] then .ok s else .error (.unknownProperties s.name s.unsupported)

/-- Read a project. -/
def read (x : α) : Except TypeError Project := do
  let d ← (← Source.entries "struct ProjectDocument" x).foldlM readEntry .empty
  if d.further.any (!·.2.keysDistinct) then throw .repeatedKey
  let extensions := Dict.ofList d.further
  match extensions.keys.find? (!Service.isExtension ·) with
  | some name => throw (.unknownTopLevel name)
  | none =>
    return {
      version := d.version
      services := ← d.services.entries.mapM named
      networks := d.networks
      volumes := d.volumes
      secrets := d.secrets
      configs := d.configs
      extensions }

end Reader

/-- The project of a text. -/
def ofText (text : String) : Except TypeError Project := (Document.ofText text).read read

end Project

/-- The service of a text. It has no name yet. -/
def Service.ofText (text : String) : Except TypeError Service :=
  (Document.ofText text).read Service.read

end ComposePods

import ComposePods.Pod.Declaration
import ComposePods.Project

/-!
# Sessions

A session is a project together with the templates of its services. Templates are declared under an
extension of the project, service by service, or of the service itself; where both declare the same
layer, the service's own declaration counts. The extension is taken out of the project.

* `Session`, `Session.new`, `Session.withTemplates`;
* `Session.declarations`: the declarations of a project, and the project without them;
* `Session.ofProject`.
-/

namespace ComposePods

/-- A project and the templates of its services. -/
structure Session where
  project : Project
  directory : String
  configurations : Dict Templates
  settings : Settings

namespace Session

/-- A session without templates. -/
def new (project : Project) (directory : String) (settings : Settings) : Session :=
  { project, directory, configurations := .empty, settings }

/-- Set the templates of a service, unless there are none. -/
def withTemplates (s : Session) (service : String) (t : Templates) : Session :=
  if t.isEmpty then s else { s with configurations := s.configurations.insert service t }

/-! ## Declarations -/

/-- The entry of a service in the extension of the project. -/
def readEntry (key : String) (p : Project) (d : Dict Mapping) (e : Value × Value) :
    Except DeclarationError (Dict Mapping) :=
  match e.1 with
  | .string service =>
    if (p.service? service).isSome then
      ((Location.projectEntry key service).mapping e.2).map (d.insert service)
    else .error (.unknownService key service)
  | other => .error (.serviceKey key other.shape)

/-- The declarations in the extension of the project. -/
def ofExtension (key : String) (p : Project) : Except DeclarationError (Dict Mapping) :=
  match p.extensions.get? key with
  | none => .ok .empty
  | some v => do (← (Location.project key).mapping v).foldlM (readEntry key p) .empty

/-- A service's own declaration over the one of the project. -/
def readOwn (key : String) (d : Dict Mapping) (s : Service) :
    Except DeclarationError (Dict Mapping) :=
  match s.extensions.get? key with
  | none => .ok d
  | some v => do
    let own ← (Location.service s.name key).mapping v
    return d.insert s.name (Mapping.overlay ((d.get? s.name).getD []) own)

/-- The declarations of a project, under the names of their services. -/
def declarations (key : String) (p : Project) : Except DeclarationError (Dict Mapping) := do
  p.services.foldlM (readOwn key) (← ofExtension key p)

/-- A service without an extension. -/
def eraseFromService (key : String) (s : Service) : Service :=
  { s with extensions := s.extensions.erase key }

/-- The project without an extension, also of its services. -/
def eraseExtension (key : String) (p : Project) : Project :=
  { p with
    services := p.services.map (eraseFromService key)
    extensions := p.extensions.erase key }

/-- The session of a project: the settings are checked, then the declarations are collected, then
their templates are read. -/
def ofProject (files : Files) (p : Project) (directory : String) (settings : Settings) :
    Except DeclarationError Session :=
  match settings.check with
  | .error e => .error (.settings e)
  | .ok () => do
    let key := settings.extensionKey
    let d ← declarations key p
    d.entries.foldlM
      (fun s e => return s.withTemplates e.1 (← Templates.ofDeclaration files directory e.1 e.2))
      (new (eraseExtension key p) directory settings)

end Session

end ComposePods

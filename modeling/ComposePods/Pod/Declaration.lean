import ComposePods.Pod.Declaration.Error

/-!
# Declarations of templates

A declaration lists the templates of one service, layer by layer, and the arguments that they share.
A template is a path, or a mapping that names a file or holds the body itself, with arguments of its
own.

* `Template.ofFile`: the template of a file;
* `Template.ofEntry`: the template of an entry of a declaration;
* `Templates.ofDeclaration`: all templates of a service.
-/

namespace ComposePods

/-- A mapping; null stands for the empty one. -/
def Location.mapping (l : Location) : Value → Except DeclarationError Mapping
  | .mapping entries => .ok entries
  | .null => .ok []
  | other => .error (.notMapping l other.shape)

namespace Template

/-- The template of a file, which is named as in the declaration and found from the working
directory. -/
def ofFile (files : Files) (directory path : String) : Except DeclarationError Template :=
  let found := Path.join directory path
  if files.has found then
    match files.read found with
    | .ok body => .ok ⟨path, body, []⟩
    | .error e => .error (.unreadableFile found e)
  else .error (.missingFile found)

/-- The template that has the given file or the given body, of which there must be exactly one. -/
def ofBody (files : Files) (directory : String) (site : Site) :
    (file inline : Option Value) → Except DeclarationError Template
  | some (.string path), none => ofFile files directory path
  | none, some (.string body) => .ok ⟨site.name, body, []⟩
  | _, _ => .error (.bodies site)

/-- The template that a mapping describes. -/
def ofMapping (files : Files) (directory : String) (site : Site) (source : Mapping) :
    Except DeclarationError Template := do
  let (args, source) := Mapping.pluck source (.string "args")
  let args ← (Location.templateArgs site).mapping (args.getD .null)
  if Mapping.contains source (.string "http") then throw (.remoteTemplate site)
  let (file, source) := Mapping.pluck source (.string "file")
  let (inline, source) := Mapping.pluck source (.string "inline")
  let template ← ofBody files directory site file inline
  match source with
  | [] => return { template with args }
  | (key, _) :: _ => throw (.unknownProperty site key)

/-- The template of an entry: a path or a mapping. -/
def ofEntry (files : Files) (directory : String) (site : Site) :
    Value → Except DeclarationError Template
  | .string path => ofFile files directory path
  | .mapping source => ofMapping files directory site source
  | other => .error (.notTemplate site other.shape)

end Template

namespace Templates

/-- The entries of a layer: those of a sequence, none of null, or a single one. -/
def entriesOf : Value → List Value
  | .sequence entries => entries
  | .null => []
  | single => [single]

/-- The templates of a layer, the first of which has the given place. -/
def ofEntries (files : Files) (directory service : String) (layer : Layer) :
    (index : Nat) → List Value → Except DeclarationError (List Template)
  | _, [] => .ok []
  | index, v :: vs => do
    let t ← Template.ofEntry files directory ⟨service, layer, index⟩ v
    return t :: (← ofEntries files directory service layer (index + 1) vs)

/-- Add one entry of a declaration. -/
def addEntry (files : Files) (directory service : String) (t : Templates) (e : Value × Value) :
    Except DeclarationError Templates := do
  match e.1 with
  | .string key =>
    if key = "args" then
      return { t with args := ← (Location.sharedArgs service).mapping e.2 }
    else match Layer.ofKey? key with
      | some layer =>
        let templates ← ofEntries files directory service layer 0 (entriesOf e.2)
        return t.setLayer layer (t.layer layer ++ templates)
      | none => throw (.unknownLayer key service)
  | other => throw (.declarationKey service other.shape)

/-- The templates that a declaration lists. -/
def ofDeclaration (files : Files) (directory service : String) (declaration : Mapping) :
    Except DeclarationError Templates :=
  declaration.foldlM (addEntry files directory service) empty

end Templates

end ComposePods

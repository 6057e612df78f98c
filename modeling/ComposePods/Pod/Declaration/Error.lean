import ComposePods.Files
import ComposePods.Pod.Layer
import ComposePods.Settings
import ComposePods.Value.Shown

/-!
# Errors of declarations

Why the templates that a project declares cannot be collected.

* `Site`: the place of a template in a declaration;
* `Location`: the place of a mapping in a declaration;
* `DeclarationError`, `DeclarationError.message`.
-/

namespace ComposePods

/-- The place of a template: the service, the layer and how many templates of the layer come before
it. -/
structure Site where
  service : String
  layer : Layer
  index : Nat
  deriving DecidableEq

namespace Site

/-- The name of a template that is written in the declaration itself. -/
def name (s : Site) : String :=
  s.service ++ "." ++ s.layer.name ++ "[" ++ toString s.index ++ "]"

/-- The template as messages call it. -/
def describe (s : Site) : String :=
  s.layer.name ++ " template #" ++ toString s.index ++ " for service '" ++ s.service ++ "'"

end Site

/-- A place where a mapping is expected. -/
inductive Location where
  /-- The extension of the project. -/
  | project (key : String)
  /-- The entry of a service in the extension of the project. -/
  | projectEntry (key name : String)
  /-- The extension of a service. -/
  | service (name key : String)
  /-- The arguments that the templates of a service share. -/
  | sharedArgs (name : String)
  /-- The arguments of a template. -/
  | templateArgs (site : Site)
  deriving DecidableEq

/-- The wording of the place. -/
def Location.describe : Location → String
  | .project key => key
  | .projectEntry key name => key ++ "." ++ name
  | .service name key => "services." ++ name ++ "." ++ key
  | .sharedArgs name => name ++ ".args"
  | .templateArgs site => site.name ++ ".args"

/-- Why templates cannot be collected. -/
inductive DeclarationError where
  | settings (error : SettingsError)
  | notMapping (location : Location) (found : Shape)
  /-- A key of the project's extension is not the name of a service. -/
  | serviceKey (key : String) (found : Shape)
  | unknownService (key service : String)
  /-- A key of a declaration is not a text. -/
  | declarationKey (service : String) (found : Shape)
  | unknownLayer (name service : String)
  | notTemplate (site : Site) (found : Shape)
  /-- A template is to be fetched from a server. -/
  | remoteTemplate (site : Site)
  /-- A template has no body, or two. -/
  | bodies (site : Site)
  | unknownProperty (site : Site) (key : Value)
  | missingFile (path : String)
  | unreadableFile (path : String) (error : FileError)
  deriving DecidableEq

/-- The wording of the error. -/
def DeclarationError.message : DeclarationError → String
  | .settings error => error.message
  | .notMapping location found =>
    location.describe ++ " must be a mapping, found " ++ found.describe
  | .serviceKey key found => key ++ " keys must be service names, found " ++ found.describe
  | .unknownService key service =>
    key ++ " declares templates for unknown service '" ++ service ++ "'"
  | .declarationKey service found =>
    "invalid template declaration key for service '" ++ service ++ "': " ++ found.describe
  | .unknownLayer name service =>
    "unknown template layer '" ++ name ++ "' for service '" ++ service ++ "'"
  | .notTemplate site found =>
    site.describe ++ " must be a path or a mapping, found " ++ found.describe
  | .remoteTemplate site => site.describe ++ ": http template sources are not supported"
  | .bodies site => site.describe ++ " needs exactly one of 'file' or 'inline'"
  | .unknownProperty site key => site.describe ++ " has unknown property " ++ key.shown
  | .missingFile path => "Template file does not exist: " ++ path
  | .unreadableFile path error => "Failed to read template file " ++ path ++ ": " ++ error.message

end ComposePods

import ComposePods.Markup.Error
import ComposePods.Pod.Declaration.Error
import ComposePods.Typing.Error

/-!
# Errors

Why a project cannot be read or transformed. Causes are data; `PodError.message` words them, and
`PodError.service?` and `PodError.layer?` say where they arose.

* `SchemaError`, `FragmentError`, `PodError`;
* `Failure`: an error, or a run that is given up because a template cannot be shown its arguments or
  breaks down.
-/

namespace ComposePods

/-- Why a rendered definition is not acceptable. -/
inductive SchemaError where
  | rootKey (error : LooseError)
  | nameShape (error : LooseError)
  | badName (name : String)
  | body (name : String) (found : Shape)
  | typing (name : String) (error : TypeError)
  | unsupported (service : String) (names : List String)
  | scalar (error : LooseError)
  | copies (found : Shape)
  deriving DecidableEq

/-- The wording of the error. -/
def SchemaError.message : SchemaError → String
  | .rootKey error => "invalid root key: " ++ error.message
  | .nameShape error => "invalid service name: " ++ error.message
  | .badName s => "invalid service name '" ++ s ++ "'"
  | .body name found => "service '" ++ name ++ "' must be a mapping, found " ++ found.describe
  | .typing name error => "service '" ++ name ++ "': " ++ error.message
  | .unsupported service names => unsupportedProperties service names
  | .scalar error => error.message
  | .copies found =>
    "expected a string, a list or a mapping of copies, found " ++ found.describe

/-- Why a rendered text is not a fragment. -/
inductive FragmentError where
  | notMapping (found : Shape)
  | malformed
  deriving DecidableEq

/-- The wording of the error. -/
def FragmentError.message : FragmentError → String
  | .notMapping found => "expected a mapping, found " ++ found.describe
  | .malformed => "malformed text"

/-- Why a project cannot be read or transformed. -/
inductive PodError where
  | serviceNotFound (service : String)
  | rootKey (service : String) (layer : Layer) (found : Nat)
  | definitionCount (service : String) (layer : Layer) (count : Nat)
  | schema (service : String) (layer : Layer) (error : SchemaError)
  | malformedFragment (service : String) (layer : Layer) (template : String) (error : FragmentError)
  | render (service : String) (layer : Layer) (template : String) (error : Markup.Error)
  | labelCollision (service : String) (key : String)
  | declaration (error : DeclarationError)
  | reading (error : TypeError)
  | unwritable
  deriving DecidableEq

namespace PodError

/-- The wording of the error. -/
def message : PodError → String
  | .serviceNotFound service => "service index not found: " ++ service
  | .rootKey service layer found =>
    layer.name ++ " template for service '" ++ service ++
      "' must define exactly one root key, found " ++ toString found
  | .definitionCount service layer count =>
    layer.name ++ " templates for service '" ++ service ++ "' produced " ++ toString count ++
      " definitions, expected exactly one"
  | .schema service layer error =>
    "invalid " ++ layer.name ++ " definition for service '" ++ service ++ "': " ++ error.message
  | .malformedFragment service layer template error =>
    layer.name ++ " template '" ++ template ++ "' for service '" ++ service ++
      "' did not render a mapping: " ++ error.message
  | .render service layer template error =>
    "failed to render " ++ layer.name ++ " template '" ++ template ++ "' for service '" ++
      service ++ "': " ++ error.message
  | .labelCollision service key =>
    "label '" ++ key ++ "' is already set on the controller of service '" ++ service ++ "'"
  | .declaration error => "Configuration error: " ++ error.message
  | .reading error => error.message
  | .unwritable => "the document cannot be written"

/-- The service for which the error was found. -/
def service? : PodError → Option String
  | .serviceNotFound service | .rootKey service _ _ | .definitionCount service _ _
  | .schema service _ _ | .malformedFragment service _ _ _ | .render service _ _ _
  | .labelCollision service _ => some service
  | .declaration _ | .reading _ | .unwritable => none

/-- The layer in which the error was found. -/
def layer? : PodError → Option Layer
  | .rootKey _ layer _ | .definitionCount _ layer _ | .schema _ layer _
  | .malformedFragment _ layer _ _ | .render _ layer _ _ => some layer
  | .serviceNotFound _ | .labelCollision _ _ | .declaration _ | .reading _ | .unwritable => none

end PodError

/-- How a run ends early. -/
inductive Failure where
  /-- With an error that is reported. -/
  | error (error : PodError)
  /-- Without a report: a template's data has a key that no text stands for, or the engine breaks
  down. -/
  | abandoned
  deriving DecidableEq

end ComposePods

import ComposePods.Mapping

/-!
# Layers and templates

The templates of a service come in four layers, each an ordered list, and share arguments.

* `Layer`, with its name and the key that declares it;
* `Template`, `Templates`, `Templates.layer`.
-/

namespace ComposePods

/-- The four classes of templates. -/
inductive Layer where
  | pod
  | transformer
  | component
  | copy
  deriving DecidableEq

namespace Layer

/-- The layers in the order in which they are rendered. -/
def all : List Layer := [.pod, .transformer, .component, .copy]

/-- The name in messages. -/
def name : Layer → String
  | .pod => "pod"
  | .transformer => "transformer"
  | .component => "component"
  | .copy => "copy"

/-- The key under which templates of the layer are declared. -/
def key : Layer → String
  | .pod => "pod"
  | .transformer => "transformer"
  | .component => "templates"
  | .copy => "copy"

/-- The layer declared under a key. -/
def ofKey? (key : String) : Option Layer := all.find? (·.key == key)

end Layer

/-- A template with its own arguments. -/
structure Template where
  name : String
  body : String
  args : Mapping
  deriving DecidableEq

/-- The templates of one service, layer by layer, and the arguments they share. -/
structure Templates where
  pod : List Template
  transformer : List Template
  component : List Template
  copy : List Template
  args : Mapping
  deriving DecidableEq

namespace Templates

/-- No templates. -/
def empty : Templates := ⟨[], [], [], [], []⟩

/-- The templates of a layer. -/
def layer (t : Templates) : Layer → List Template
  | .pod => t.pod
  | .transformer => t.transformer
  | .component => t.component
  | .copy => t.copy

/-- The same templates with another list in one layer. -/
def setLayer (t : Templates) (l : Layer) (templates : List Template) : Templates :=
  match l with
  | .pod => { t with pod := templates }
  | .transformer => { t with transformer := templates }
  | .component => { t with component := templates }
  | .copy => { t with copy := templates }

/-- No layer has a template. -/
def isEmpty (t : Templates) : Bool := Layer.all.all fun l => (t.layer l).isEmpty

/-- The shared arguments under the template's own ones. -/
def argsOf (t : Templates) (template : Template) : Mapping := Mapping.overlay t.args template.args

end Templates

end ComposePods

import ComposePods.Pod.Controller.Tree
import ComposePods.Pod.Copies
import ComposePods.Pod.Definitions
import ComposePods.Pod.Rendering
import ComposePods.Yaml.Write

/-!
# Controllers

The templates of a service turn it into a controller. The main component, the side components and
the copies become labels of the controller; no label may be set twice.

* `Context.podStage`, `Context.mainStage`, `Context.componentStage`, `Context.copyStage`: what the
  templates of one layer give;
* `Controller.attach`: a label set on a controller that does not have it;
* `Context.controller`: the controller of a service.
-/

namespace ComposePods

namespace Controller

/-- The only one of some definitions. -/
def single (service : String) (layer : Layer) : List Service → Except PodError Service
  | [s] => .ok s
  | ss => .error (.definitionCount service layer ss.length)

/-- The text of a value, if it can be written. -/
def textOf (v : Value) : Except PodError String :=
  match Yaml.write? v with
  | some text => .ok text
  | none => .error .unwritable

/-- The text of a definition. -/
def serviceText (s : Service) : Except PodError String := textOf (.mapping s.definition)

/-- The name and the text of a side component. -/
def componentEntry (s : Service) : Except PodError (String × String) := do
  return (s.name, ← serviceText s)

/-- Set a label that is not set yet. -/
def attach (service : String) (controller : Service) (label : String × String) :
    Except PodError Service :=
  if controller.labels.contains label.1 then .error (.labelCollision service label.1)
  else .ok (controller.set .labels (controller.labels.insert label.1 label.2))

/-- The templates of the main component when none are given: an empty definition under the service's
name. -/
def defaultTransformer : Template :=
  ⟨"default-transformer", "\"\x7b\x7b service.name \x7d\x7d\": \x7b\x7d", []⟩

/-- The templates of the main component. -/
def transformersOf (t : Templates) : List Template :=
  if t.transformer.isEmpty then [defaultTransformer] else t.transformer

end Controller

namespace Context

open Controller

variable [Markup.Machine] (c : Context)

/-- The services that a tree of a layer defines. -/
def definitions (layer : Layer) (tree : Mapping) : Except PodError (List Service) :=
  Definitions.ofTree c.directory c.service.name layer tree

/-- The controller without the labels of its components. -/
def podStage (settings : Settings) : Except Failure Service := do
  let fragments ← c.templates.pod.mapM (c.renderRooted .pod)
  let tree := podTree settings c.service.name c.definition (fragments.map (·.2))
  report do single c.service.name .pod (← c.definitions .pod tree)

/-- The name of the main component, which the first of its templates gives, and its text. -/
def mainStage : Except Failure (String × String) := do
  let fragments ← (transformersOf c.templates).mapM (c.renderRooted .transformer)
  let name := (fragments.head?.map (·.1)).getD ""
  let tree := mainTree name c.definition (fragments.map (·.2))
  report do
    let component ← single c.service.name .transformer (← c.definitions .transformer tree)
    return (component.name, ← serviceText component)

/-- The texts of the side components that some fragments define, under their names. -/
def componentTexts (fragments : List Mapping) : Except PodError (Dict String) := do
  let components ← c.definitions .component (Mapping.mergeAll fragments)
  return .ofList (← components.mapM componentEntry)

/-- The texts of the side components under their names. -/
def componentStage : Except Failure (Dict String) := do
  let fragments ← c.templates.component.mapM (c.render .component)
  report (c.componentTexts fragments)

/-- The fragment of a copy template, with every entry as a list. -/
def renderCopies (t : Template) : Except Failure Mapping := do
  let fragment ← c.render .copy t
  report (Copies.normalize fragment c.service.name)

/-- The component into which an entry copies, and the text of the copies. -/
def copyEntry (e : Value × Value) : Except PodError (String × String) := do
  let target ← Copies.scalar c.service.name e.1
  let pairs ← Copies.pairs e.2 c.service.name
  return (target, ← textOf (Value.strings pairs))

/-- The texts of the copies that some fragments with lists ask for, under the names of their
components. -/
def copyTexts (fragments : List Mapping) : Except PodError (Dict String) := do
  return .ofList (← (Mapping.mergeAll fragments).mapM c.copyEntry)

/-- The texts of the copies under the names of their components. -/
def copyStage : Except Failure (Dict String) := do
  let fragments ← c.templates.copy.mapM c.renderCopies
  report (c.copyTexts fragments)

/-- Set some labels one after the other. -/
def attachAll (controller : Service) (labels : List (String × String)) : Except Failure Service :=
  report (labels.foldlM (attach c.service.name) controller)

/-- The controller of the service: the layers are rendered in turn, and the labels of each are set
before the next one. -/
def controller (settings : Settings) : Except Failure Service := do
  let controller ← c.podStage settings
  let (main, text) ← c.mainStage
  let controller ← c.attachAll controller [(settings.componentLabel main, text)]
  let components ← c.componentStage
  let controller ← c.attachAll controller
    (components.entries.map fun e => (settings.componentLabel e.1, e.2))
  let copies ← c.copyStage
  c.attachAll controller (copies.entries.map fun e => (settings.copyLabel e.1, e.2))

end Context

end ComposePods

import ComposePods.Markup.Render
import ComposePods.Pod.Context
import ComposePods.Pod.Fragment
import ComposePods.Pod.Fragment.Read

/-!
# Rendering templates

A template of a service is rendered with the data of its context, and the text must be a fragment.
When the data have a key that no text stands for, and when the engine breaks down, the run is given
up.

* `Context.data?`: the data that a template sees;
* `Context.render`: the fragment of a template;
* `Context.renderRooted`: a fragment that must have one root key, and that key.
-/

namespace ComposePods

namespace Context

/-- What a template sees of the project. -/
def projectValue (c : Context) : Value :=
  .mapping [(.string "working_dir", .string c.directory),
    (.string "services", .sequence c.projectServices)]

/-- The data that a template sees, if every key in them has a text. -/
def data? (c : Context) (t : Template) : Option (List (String × Datum)) := do
  return [
    ("service", ← Datum.ofValue? (.mapping c.service.namedDefinition)),
    ("project", ← Datum.ofValue? c.projectValue),
    ("args", ← Datum.ofValue? (.mapping (c.argsOf t)))]

/-- A failure that is reported. -/
def report {α : Type} : Except PodError α → Except Failure α := Except.mapError .error

/-- The fragment of a rendered text. -/
def fragmentOf (c : Context) (layer : Layer) (t : Template) (text : String) :
    Except PodError Mapping :=
  (Fragment.ofText text).mapError (.malformedFragment c.service.name layer t.name)

/-- How a template that gives no text ends the run. -/
def failureOf (c : Context) (layer : Layer) (t : Template) : Markup.Fault → Failure
  | .error e => .error (.render c.service.name layer t.name e)
  | .aborted _ => .abandoned

variable [Markup.Machine]

/-- The text of a template. -/
def renderText (c : Context) (layer : Layer) (t : Template) (data : List (String × Datum)) :
    Except Failure String :=
  (Markup.Body.renderText t.body data).mapError (c.failureOf layer t)

/-- The fragment of a template. -/
def render (c : Context) (layer : Layer) (t : Template) : Except Failure Mapping :=
  match c.data? t with
  | none => .error .abandoned
  | some data => do
    let text ← c.renderText layer t data
    report (c.fragmentOf layer t text)

/-- The fragment of a template, which must have one root key, and that key. -/
def renderRooted (c : Context) (layer : Layer) (t : Template) :
    Except Failure (String × Mapping) := do
  let fragment ← c.render layer t
  let key ← report (Fragment.rootKey fragment c.service.name layer)
  return (key, fragment)

end Context

end ComposePods

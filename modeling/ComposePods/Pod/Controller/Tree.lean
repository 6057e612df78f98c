import ComposePods.Pod.Fragment
import ComposePods.Settings

/-!
# Trees of the layers

The fragments of a layer are merged into one tree of definitions, which may be filled up.

* `Controller.podTree`: the controller, from the pod templates, the service as given and the
  settings;
* `Controller.mainTree`: the main component, from the transformer templates and the service as
  given.
-/

namespace ComposePods

namespace Controller

/-- What the settings say about a controller. -/
def standardProperties (settings : Settings) : Mapping :=
  [(.string "image", .string settings.controllerImage),
    (.string "volumes", Value.strings settings.controllerVolumes)]

/-- The definition of the controller under the name of the service: the fragments whatever their
root keys, what they leave unset from the service as given, and what is unset then from the
settings. -/
def podTree (settings : Settings) (service : String) (given : Mapping) (fragments : List Mapping) :
    Mapping :=
  let merged := Mapping.mergeAll (fragments.map (Fragment.renameRoot · service))
  let filled := Fragment.carryOver merged service given .pod
  Mapping.merge filled [(.string service, .mapping (standardProperties settings))]

/-- The definition of the main component under its name: the fragments whatever their root keys, and
what they leave unset from the service as given. -/
def mainTree (component : String) (given : Mapping) (fragments : List Mapping) : Mapping :=
  let merged := Mapping.mergeAll (fragments.map (Fragment.renameRoot · component))
  Fragment.carryOver merged component given .transformer

end Controller

end ComposePods

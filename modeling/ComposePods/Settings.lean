import ComposePods.Text.Blank

/-!
# Settings

The settings fix what the controller is when the templates do not say, how its labels are named, and
under which key templates are declared.

* `Settings`, `Settings.standard`, `Settings.check`;
* `Settings.componentLabel`, `Settings.copyLabel`;
* `Overrides`: settings given as `key=value`; `Overrides.parse`, `Settings.apply`.
-/

namespace ComposePods

/-- The settings of a transformation. -/
structure Settings where
  /-- The image of the controller when the pod templates set none. -/
  controllerImage : String
  /-- The volumes of the controller when the pod templates set none. -/
  controllerVolumes : List String
  componentLabelPrefix : String
  copyLabelPrefix : String
  /-- The extension that declares templates. -/
  extensionKey : String
  deriving DecidableEq

/-- Why settings are not acceptable. -/
inductive SettingsError where
  | noImage
  | noLabelPrefix
  | sameLabelPrefix (labels : String)
  | extensionKey (key : String)
  deriving DecidableEq

/-- The wording of the error. -/
def SettingsError.message : SettingsError → String
  | .noImage => "controller_image must not be empty"
  | .noLabelPrefix => "label prefixes must not be empty"
  | .sameLabelPrefix labels => "component and copy label prefixes must differ: " ++ labels
  | .extensionKey key => "extension_key must start with 'x-': " ++ key

namespace Settings

/-- The settings that hold unless others are given. -/
def standard : Settings where
  controllerImage := "rycus86/podlike"
  controllerVolumes := ["/var/run/docker.sock:/var/run/docker.sock"]
  componentLabelPrefix := "pod.component."
  copyLabelPrefix := "pod.copy."
  extensionKey := "x-podlike"

/-- The first fault of the settings, if there is one. -/
def check (s : Settings) : Except SettingsError Unit :=
  if Text.trim s.controllerImage = "" then .error .noImage
  else if s.componentLabelPrefix = "" ∨ s.copyLabelPrefix = "" then .error .noLabelPrefix
  else if s.componentLabelPrefix = s.copyLabelPrefix then
    .error (.sameLabelPrefix s.componentLabelPrefix)
  else if Text.startsWith "x-" s.extensionKey then .ok ()
  else .error (.extensionKey s.extensionKey)

/-- The label of a component. -/
def componentLabel (s : Settings) (component : String) : String :=
  s.componentLabelPrefix ++ component

/-- The label of the copies into a component. -/
def copyLabel (s : Settings) (component : String) : String := s.copyLabelPrefix ++ component

end Settings

/-! ## Overrides -/

/-- The values of overridden keys, the last override of a key first. -/
abbrev Overrides := List (String × String)

namespace Overrides

/-- A property `key=value`, both without white space around; without `=` it says nothing. -/
def parseOne (property : String) : Option (String × String) :=
  (Text.splitOnce '=' property).map fun (key, value) => (Text.trim key, Text.trim value)

/-- The overrides of some properties. -/
def parse (properties : List String) : Overrides := (properties.filterMap parseOne).reverse

/-- The items of a list separated by commas, without white space around and without empty ones. -/
def listOf (value : String) : List String :=
  ((Text.splitAt (· == ',') value.toList).map fun part => Text.trim (String.ofList part)).filter
    (· ≠ "")

end Overrides

/-- The settings with the overridden ones changed. -/
def Settings.apply (overrides : Overrides) (s : Settings) : Settings where
  controllerImage := (overrides.lookup "podlike.controller.image").getD s.controllerImage
  controllerVolumes :=
    match overrides.lookup "podlike.controller.volumes" with
    | some value => Overrides.listOf value
    | none => s.controllerVolumes
  componentLabelPrefix :=
    (overrides.lookup "podlike.label.component-prefix").getD s.componentLabelPrefix
  copyLabelPrefix := (overrides.lookup "podlike.label.copy-prefix").getD s.copyLabelPrefix
  extensionKey := (overrides.lookup "podlike.extension-key").getD s.extensionKey

end ComposePods

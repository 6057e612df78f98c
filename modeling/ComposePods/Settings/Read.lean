import ComposePods.Settings
import ComposePods.Toml.Read

/-!
# Settings from a text

Settings are written as keys of the outermost table of a configuration. What is not given stays as
in the standard settings, other keys say nothing.

* `Settings.read?`: the settings of a text, not checked;
* `SettingsFault`, `Settings.ofText`: the settings of a text, checked.
-/

namespace ComposePods

namespace Settings

/-- The text of a key, or what it is without one. -/
def textOr (entries : Toml.Entries) (key standard : String) : Option String :=
  match Toml.get? entries key with
  | none => some standard
  | some (.text s) => some s
  | some _ => none

/-- A text as an item of a list. -/
def itemText? : Toml.Item → Option String
  | .text s => some s
  | _ => none

/-- The texts of a key, or what they are without one. -/
def textsOr (entries : Toml.Entries) (key : String) (standard : List String) :
    Option (List String) :=
  match Toml.get? entries key with
  | none => some standard
  | some (.list items) => items.mapM itemText?
  | some _ => none

/-- The settings of a text. -/
def read? (text : String) : Option Settings := do
  let entries ← Toml.ofText text
  return {
    controllerImage := ← textOr entries "controller_image" standard.controllerImage
    controllerVolumes := ← textsOr entries "controller_volumes" standard.controllerVolumes
    componentLabelPrefix := ← textOr entries "component_label_prefix" standard.componentLabelPrefix
    copyLabelPrefix := ← textOr entries "copy_label_prefix" standard.copyLabelPrefix
    extensionKey := ← textOr entries "extension_key" standard.extensionKey }

end Settings

/-- Why a text gives no settings. -/
inductive SettingsFault where
  /-- The text is no configuration, or a setting has the wrong type. -/
  | malformed
  | unacceptable (error : SettingsError)
  deriving DecidableEq

/-- The settings of a text, if they are acceptable. -/
def Settings.ofText (text : String) : Except SettingsFault Settings :=
  match Settings.read? text with
  | none => .error .malformed
  | some s =>
    match s.check with
    | .ok () => .ok s
    | .error e => .error (.unacceptable e)

end ComposePods

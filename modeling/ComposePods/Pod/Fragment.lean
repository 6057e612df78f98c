import ComposePods.Pod.Error
import ComposePods.Pod.KeySet

/-!
# Fragments

A rendered template is a fragment: a mapping whose root keys name definitions. Fragments only ever
extend each other. A key that is set keeps its value, unless both values are mappings, which are
then merged in turn; sequences are taken as a whole.

* `Mapping.merge`, and `Mapping.mergeAll` of a list;
* `Fragment.rootKey`: the only root key;
* `Fragment.renameRoot`: the sole definition under another name;
* `Fragment.carryOver`: gaps of a definition filled from the service as given.
-/

namespace ComposePods

namespace Mapping

mutual

/-- Extend `base` by the entries of a fragment, in order. -/
def merge (base : Mapping) : List (Value × Value) → Mapping
  | [] => base
  | (k, v) :: rest =>
    merge
      (match get? base k with
      | some old => adjust (fun _ => mergeValue (some old) v) base k
      | none => insert base k (mergeValue none v)) rest
termination_by structural es => es

/-- The value of a key that had the value `old`: mappings are merged, else the old value stays. -/
def mergeValue (old : Option Value) : Value → Value
  | .mapping entries =>
    match old with
    | some (.mapping existing) => .mapping (merge existing entries)
    | some other => other
    | none => .mapping (merge [] entries)
  | .null => old.getD .null
  | .bool b => old.getD (.bool b)
  | .number n => old.getD (.number n)
  | .string s => old.getD (.string s)
  | .sequence items => old.getD (.sequence items)
  | .tagged t v => old.getD (.tagged t v)
termination_by structural v => v

end

/-- The fragments merged one after the other. -/
def mergeAll (fragments : List Mapping) : Mapping := fragments.foldl merge []

end Mapping

namespace Fragment

/-- The only root key of a fragment, as a text. -/
def rootKey (fragment : Mapping) (service : String) (layer : Layer) : Except PodError String :=
  match fragment with
  | [(key, _)] =>
    match key.scalarText? with
    | .ok text => .ok text
    | .error e => .error (.schema service layer (.rootKey e))
  | _ => .error (.rootKey service layer fragment.length)

/-- The first definition of a fragment, under another name. -/
def renameRoot (fragment : Mapping) (name : String) : Mapping :=
  match fragment with
  | [] => []
  | (_, body) :: _ => [(.string name, body)]

/-- Set the key to the value in the given definition, if it is not set and has one there. -/
def fillKey (given : Mapping) (target : Mapping) (key : String) : Mapping :=
  if Mapping.contains target (.string key) then target
  else match Mapping.get? given (.string key) with
    | some v => Mapping.insert target (.string key) v
    | none => target

/-- Fill the gaps of the definition under `root` from a given one; null and no definition are empty
ones, and one that is no mapping stays as it is. -/
def carryOver (tree : Mapping) (root : String) (given : Mapping) (keys : KeySet) : Mapping :=
  let fill (target : Mapping) : Value := .mapping (keys.keys.foldl (fillKey given) target)
  match Mapping.get? tree (.string root) with
  | none => Mapping.insert tree (.string root) (fill [])
  | some .null => Mapping.insert tree (.string root) (fill [])
  | some (.mapping target) => Mapping.insert tree (.string root) (fill target)
  | some _ => tree

end Fragment

end ComposePods

import ComposePods.Compose.Loose
import ComposePods.Text.Quoted

/-!
# Values in messages

Some messages show a value in full: every value behind the name of its kind, strings between quotes.
The plain keys of a mapping stand without their kind.

* `Value.shown`.
-/

namespace ComposePods

namespace Value

mutual

/-- The value as messages show it. -/
def shown : Value → String
  | .null => "Null"
  | .bool b => "Bool(" ++ (if b then "true" else "false") ++ ")"
  | .number n => "Number(" ++ n.text ++ ")"
  | .string s => "String(" ++ Text.quote s ++ ")"
  | .sequence items => "Sequence [" ++ String.intercalate ", " (shownItems items) ++ "]"
  | .mapping entries =>
    "Mapping \x7b" ++ String.intercalate ", " (shownEntries entries) ++ "\x7d"
  | .tagged tag v => "TaggedValue \x7b tag: " ++ tag ++ ", value: " ++ shown v ++ " \x7d"
termination_by structural v => v

/-- Items as messages show them. -/
def shownItems : List Value → List String
  | [] => []
  | v :: vs => shown v :: shownItems vs
termination_by structural vs => vs

/-- Entries as messages show them. -/
def shownEntries : List (Value × Value) → List String
  | [] => []
  | (k, v) :: es =>
    let key := match k with
      | .bool b => if b then "true" else "false"
      | .number n => n.text
      | .string s => Text.quote s
      | k => shown k
    (key ++ ": " ++ shown v) :: shownEntries es
termination_by structural es => es

end

end Value

end ComposePods

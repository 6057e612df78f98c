import ComposePods.Compose.Loose
import ComposePods.Text.Quoted

/-!
# Typing errors

Properties have types, and a value that does not have the type of its property is refused with the
first cause found. Causes are data; `TypeError.message` words them.

* `Found`: what stood where something else was expected;
* `TypeError`: why a value does not have a type.
-/

namespace ComposePods

/-- What was found in place of what was expected. -/
inductive Found where
  | bool (b : Bool)
  | integer (i : Int)
  | real (x : Binary64)
  | string (s : String)
  | unit
  | sequence
  | mapping
  | choice
  deriving DecidableEq

/-- The wording of what was found. -/
def Found.describe : Found → String
  | .bool b => "boolean `" ++ (if b then "true" else "false") ++ "`"
  | .integer i => "integer `" ++ toString i ++ "`"
  | .real x => "floating point `" ++ Binary64.pointed.text x ++ "`"
  | .string s => "string " ++ Text.quote s
  | .unit => "unit value"
  | .sequence => "sequence"
  | .mapping => "map"
  | .choice => "enum"

/-- A value as something found. -/
def Value.found : Value → Found
  | .null => .unit
  | .bool b => .bool b
  | .number (.integer i) => .integer i
  | .number (.real x) => .real x
  | .string s => .string s
  | .sequence _ => .sequence
  | .mapping _ => .mapping
  | .tagged _ _ => .choice

/-- Why a value does not have the type of its property. -/
inductive TypeError where
  /-- Something of another shape was found. -/
  | wrongShape (found : Found) (wanted : String)
  /-- The shape is right, the value is not. -/
  | wrongValue (found : Found) (wanted : String)
  | unknownField (name : String) (known : List String)
  | repeatedField (name : String)
  /-- None of the forms that the property may take fits. -/
  | noForm (property : String)
  /-- A tag stands where several forms are possible. -/
  | taggedForm
  | loose (error : LooseError)
  /-- A mapping has two entries of the same key. -/
  | repeatedKey
  /-- The text is not well formed at this place. -/
  | malformed
  /-- A property of the project is unknown. -/
  | unknownTopLevel (name : String)
  /-- Properties of a service are unknown. -/
  | unknownProperties (service : String) (names : List String)
  deriving DecidableEq

/-- Alternatives in backticks: two with `or`, more as a list. -/
def oneOf : List String → String
  | [] => "there are no fields"
  | [a] => "expected `" ++ a ++ "`"
  | [a, b] => "expected `" ++ a ++ "` or `" ++ b ++ "`"
  | names => "expected one of " ++ String.intercalate ", " (names.map fun n => "`" ++ n ++ "`")

/-- The wording of unknown properties of a service. -/
def unsupportedProperties (service : String) (names : List String) : String :=
  "unsupported properties in service '" ++ service ++ "': " ++ String.intercalate ", " names

/-- The wording of the error. -/
def TypeError.message : TypeError → String
  | .wrongShape found wanted => "invalid type: " ++ found.describe ++ ", expected " ++ wanted
  | .wrongValue found wanted => "invalid value: " ++ found.describe ++ ", expected " ++ wanted
  | .unknownField name known => "unknown field `" ++ name ++ "`, " ++ oneOf known
  | .repeatedField name => "duplicate field `" ++ name ++ "`"
  | .noForm property => "data did not match any variant of untagged enum " ++ property
  | .taggedForm => "untagged and internally tagged enums do not support enum input"
  | .loose error => error.message
  | .repeatedKey => "duplicate entry in a mapping"
  | .malformed => "malformed text"
  | .unknownTopLevel name => "unsupported top-level property: " ++ name
  | .unknownProperties service names => unsupportedProperties service names

end ComposePods

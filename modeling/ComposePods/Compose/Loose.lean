import ComposePods.Binary64.Layout
import ComposePods.Dict
import ComposePods.Mapping
import ComposePods.Text.Blank

/-!
# Loosely written properties

Some properties may be written in more than one way: an environment is a mapping `KEY: value` or a
list of `KEY=value`, and any scalar may stand where a text is meant. These are the rules that bring
such a value into one form.

* `Value.scalarText?`: the text of a scalar;
* `Value.pairs?`: the keys and values of an environment, a key without a value having none;
* `Value.labels?`: the same where a missing value is the empty text.
-/

namespace ComposePods

/-- Why a loosely written property cannot be read. -/
inductive LooseError where
  | notScalar (found : Shape)
  | notPairs (found : Shape)
  deriving DecidableEq

/-- The wording of the error. -/
def LooseError.message : LooseError → String
  | .notScalar found => "expected a scalar, found " ++ found.describe
  | .notPairs found => "expected a mapping or a list, found " ++ found.describe

/-- The text of a number, as documents write it. -/
def Number.text : Number → String
  | .integer i => toString i
  | .real x => Binary64.document.text x

namespace Value

/-- The text of a scalar, whatever its tags; collections and null have none. -/
def scalarText? : Value → Except LooseError String
  | .string s => .ok s
  | .number n => .ok n.text
  | .bool b => .ok (if b then "true" else "false")
  | .tagged _ v => v.scalarText?
  | v => .error (.notScalar v.shape)

/-- The key and the value of one entry of a mapping; null stands for a missing value. -/
def pairOfEntry? (e : Value × Value) : Except LooseError (String × Option String) := do
  let key ← e.1.scalarText?
  match e.2 with
  | .null => pure (key, none)
  | v => pure (key, some (← v.scalarText?))

/-- The key and the value of an item `KEY=value`; without `=` the value is missing. -/
def pairOfItem? (item : Value) : Except LooseError (String × Option String) := do
  let text ← item.scalarText?
  match Text.splitOnce '=' text with
  | some (key, value) => pure (key, some value)
  | none => pure (text, none)

/-- The keys and values of a mapping or of a list of `KEY=value`; the last of a repeated key
counts. -/
def pairs? : Value → Except LooseError (Dict (Option String))
  | .null => .ok .empty
  | .mapping entries => return .ofList (← entries.mapM pairOfEntry?)
  | .sequence items => return .ofList (← items.mapM pairOfItem?)
  | v => .error (.notPairs v.shape)

/-- The keys and values of labels, where a missing value is the empty text. -/
def labels? (v : Value) : Except LooseError (Dict String) := return (← v.pairs?).map (·.getD "")

end Value

end ComposePods

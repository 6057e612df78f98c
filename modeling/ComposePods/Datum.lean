import ComposePods.Binary64.Read
import ComposePods.Compose.Loose

/-!
# Data of templates

Templates work on data whose keys are texts: null, truth values, numbers, texts, lists, and objects
with their entries sorted by key.

* `Datum`, `Datum.same`, `Datum.isTruthy`;
* `Datum.ofValue?`: the datum of a document value, if every key in it has a text;
* `Datum.follow?`: the part of a datum that a list of keys and indices leads to.
-/

namespace ComposePods

/-- A datum that templates can see. -/
inductive Datum where
  | null
  | bool (b : Bool)
  | number (n : Number)
  | text (s : String)
  | list (items : List Datum)
  | object (entries : List (String × Datum))
  deriving Inhabited

namespace Datum

/-- An object with the given entries; of two values of a key the last stays. -/
def ofEntries (entries : List (String × Datum)) : Datum :=
  .object (entries.foldl (fun es e => Dict.insertEntry e.1 e.2 es) [])

/-- A list of texts. -/
def ofTexts (ss : List String) : Datum := .list (ss.map .text)

/-- The number of a natural number. -/
def ofNat (n : Nat) : Datum := .number (.integer n)

/-- A number, or null for one that is not finite. -/
def ofReal (x : Binary64) : Datum := if x.isFinite then .number (.real x) else .null

/-! ## Document values -/

/-- The text that stands for a key. -/
def keyText? : Value → Option String
  | .bool b => some (if b then "true" else "false")
  | .number (.integer i) => some (toString i)
  | .number (.real x) => if x.isFinite then some (Binary64.document.text x) else none
  | .string s => some s
  | .null | .sequence _ | .mapping _ | .tagged _ _ => none

mutual

/-- The datum of a document value: a value under a tag becomes an object with the tag as its only
key. -/
def ofValue? : Value → Option Datum
  | .null => some .null
  | .bool b => some (.bool b)
  | .number (.integer i) => some (.number (.integer i))
  | .number (.real x) => some (ofReal x)
  | .string s => some (.text s)
  | .sequence items => (ofItems? items).map .list
  | .mapping entries => (entriesOf? entries).map ofEntries
  | .tagged t v => (ofValue? v).map fun d => .object [(t, d)]
termination_by structural v => v

/-- The data of some values. -/
def ofItems? : List Value → Option (List Datum)
  | [] => some []
  | v :: vs => do return (← ofValue? v) :: (← ofItems? vs)
termination_by structural vs => vs

/-- The data of some entries, under the texts of their keys. -/
def entriesOf? : List (Value × Value) → Option (List (String × Datum))
  | [] => some []
  | (k, v) :: es => do return (← keyText? k, ← ofValue? v) :: (← entriesOf? es)
termination_by structural es => es

end

/-! ## Comparing -/

/-- Numbers are the same when both are integers or both are not, and their values are equal. -/
def sameNumber : Number → Number → Bool
  | .integer i, .integer j => i == j
  | .real x, .real y => x.same y
  | _, _ => false

mutual

/-- Two data are the same. -/
def same : Datum → Datum → Bool
  | .null, .null => true
  | .bool a, .bool b => a == b
  | .number a, .number b => sameNumber a b
  | .text a, .text b => a == b
  | .list a, .list b => sameItems a b
  | .object a, .object b => sameEntries a b
  | _, _ => false
termination_by structural d => d

/-- Two lists are the same, item by item. -/
def sameItems : List Datum → List Datum → Bool
  | [], [] => true
  | a :: as, b :: bs => same a b && sameItems as bs
  | _, _ => false
termination_by structural ds => ds

/-- Two objects are the same, entry by entry. -/
def sameEntries : List (String × Datum) → List (String × Datum) → Bool
  | [], [] => true
  | (k, a) :: as, (l, b) :: bs => k == l && same a b && sameEntries as bs
  | _, _ => false
termination_by structural es => es

end

/-- Zero, null and everything that is empty are not truthy. -/
def isTruthy : Datum → Bool
  | .null => false
  | .bool b => b
  | .number (.integer i) => i != 0
  | .number (.real x) => !x.isZero
  | .text s => s != ""
  | .list items => !items.isEmpty
  | .object entries => !entries.isEmpty

/-! ## Parts -/

/-- The place that a text names in a list: digits without a leading zero. -/
def index? (s : String) : Option Nat :=
  match s.toList with
  | ['0'] => some 0
  | '0' :: _ => none
  | cs => Text.digits? 10 cs

/-- The part of a datum under a key or at an index. -/
def part? (d : Datum) (step : String) : Option Datum :=
  match d with
  | .object entries => entries.lookup step
  | .list items => (index? step).bind (items[·]?)
  | _ => none

/-- The part of a datum that some steps lead to. -/
def follow? (d : Datum) (steps : List String) : Option Datum := steps.foldlM part? d

end Datum

end ComposePods

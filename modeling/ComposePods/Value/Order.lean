import ComposePods.Value

/-!
# When two values are the same key

Keys of a mapping are compared by meaning: the entries of a mapping have no order, the two zeros are
equal, and so are all NaNs. Every value has a canonical form, and two values are the same key
exactly when their canonical forms are equal.

* `Value.compare`: an order of values by kind and then by content;
* `Value.canonical`: entries sorted by key, one zero, one NaN;
* `Value.same`: equality of canonical forms.
-/

namespace ComposePods

/-- Integers come before binary64 numbers. -/
def Number.compare : Number → Number → Ordering
  | .integer i, .integer j => Ord.compare i j
  | .integer _, .real _ => .lt
  | .real _, .integer _ => .gt
  | .real x, .real y => Ord.compare x.bits y.bits

namespace Value

/-- The place of a value's kind in the order of kinds. -/
def rank : Value → Nat
  | .null => 0
  | .bool _ => 1
  | .number _ => 2
  | .string _ => 3
  | .sequence _ => 4
  | .mapping _ => 5
  | .tagged _ _ => 6

mutual

/-- Values ordered by kind and, within a kind, by content. -/
def compare : Value → Value → Ordering
  | .null, b => Ord.compare 0 b.rank
  | .bool x, b => match b with
    | .bool y => Ord.compare x y
    | _ => Ord.compare 1 b.rank
  | .number x, b => match b with
    | .number y => x.compare y
    | _ => Ord.compare 2 b.rank
  | .string x, b => match b with
    | .string y => Ord.compare x y
    | _ => Ord.compare 3 b.rank
  | .sequence x, b => match b with
    | .sequence y => compareItems x y
    | _ => Ord.compare 4 b.rank
  | .mapping x, b => match b with
    | .mapping y => compareEntries x y
    | _ => Ord.compare 5 b.rank
  | .tagged t x, b => match b with
    | .tagged u y => (Ord.compare t u).then (compare x y)
    | _ => Ord.compare 6 b.rank
termination_by structural x => x

/-- Sequences ordered item by item. -/
def compareItems : List Value → List Value → Ordering
  | [], [] => .eq
  | [], _ :: _ => .lt
  | _ :: _, [] => .gt
  | x :: xs, y :: ys => (compare x y).then (compareItems xs ys)
termination_by structural x => x

/-- Entries ordered one by one, by key and then by value. -/
def compareEntries : List (Value × Value) → List (Value × Value) → Ordering
  | [], [] => .eq
  | [], _ :: _ => .lt
  | _ :: _, [] => .gt
  | (k, v) :: xs, (l, w) :: ys =>
    ((compare k l).then (compare v w)).then (compareEntries xs ys)
termination_by structural x => x

end

mutual

/-- The value that stands for all values that are the same key. -/
def canonical : Value → Value
  | .null => .null
  | .bool b => .bool b
  | .number (.integer i) => .number (.integer i)
  | .number (.real x) => .number (.real x.canonical)
  | .string s => .string s
  | .sequence items => .sequence (canonicalItems items)
  | .mapping entries =>
    .mapping ((canonicalEntries entries).mergeSort fun a b => (compare a.1 b.1).isLE)
  | .tagged t v => .tagged t v.canonical
termination_by structural x => x

/-- The canonical forms of some values. -/
def canonicalItems : List Value → List Value
  | [] => []
  | v :: vs => v.canonical :: canonicalItems vs
termination_by structural x => x

/-- The canonical forms of some entries, not sorted yet. -/
def canonicalEntries : List (Value × Value) → List (Value × Value)
  | [] => []
  | (k, v) :: es => (k.canonical, v.canonical) :: canonicalEntries es
termination_by structural x => x

end

/-- Two values are the same key when their canonical forms are equal. -/
def same (a b : Value) : Bool := decide (a.canonical = b.canonical)

@[simp] theorem same_self (a : Value) : same a a = true := by simp [same]

theorem same_comm (a b : Value) : same a b = same b a := by
  simp only [same, eq_comm]

theorem same_trans {a b c : Value} (h : same a b = true) (h' : same b c = true) :
    same a c = true := by
  simp only [same, decide_eq_true_eq] at *
  exact h.trans h'

@[simp] theorem same_string (s t : String) : same (.string s) (.string t) = decide (s = t) := by
  simp [same, canonical]

end Value

end ComposePods

import ComposePods.Markup.Filter
import ComposePods.Markup.Function
import ComposePods.Markup.Node
import ComposePods.Markup.Scope
import ComposePods.Markup.Test

/-!
# Values of expressions

An expression has a value, and where one is asked for, a truth value or a number. These are not
always what the value would suggest: as a condition, a variable that is not defined is false, and
filters count only on variables and joined texts. The engine breaks down on numbers that are not
finite, and where it does not foresee an expression: a snippet in a calculation, and as a condition
a joined text that a filter or a negation has turned into something else.

* `Surroundings`: the variables, and how snippets are expanded;
* `Surroundings.value`, `Surroundings.truth`, `Surroundings.number`.
-/

namespace ComposePods

namespace Markup

/-- What the value of an expression depends on: the variables, and the texts of snippets. -/
structure Surroundings where
  scope : Scope
  /-- The text of a snippet for the arguments that are given. -/
  expand : (space name : String) → List (String × Except Fault Datum) → Except Fault String

/-- Arguments with their values, as far as they have any. -/
abbrev Outcomes := List (String × Except Fault Datum)

namespace Surroundings

variable [Machine] (s : Surroundings)

/-- An error that arises here. -/
def fail {α : Type} (cause : Cause) : Except Fault α := .error (.error (s.scope.error cause))

/-- What is there, or else an unsuitable use. -/
def demand {α : Type} : Option α → Except Fault α
  | some a => .ok a
  | none => s.fail .unsuitable

/-- How a refusal ends the evaluation here. -/
def faultOf : Refusal → Fault
  | .unsuitable => .error (s.scope.error .unsuitable)
  | .aborted a => .aborted a

/-- What an operation gives here. -/
def perform {α : Type} (x : Except Refusal α) : Except Fault α := x.mapError s.faultOf

/-- What is worked out, where errors tell of it. -/
def concerning {α : Type} (concern : Concern) (x : Except Fault α) : Except Fault α :=
  x.mapError (.map (.within concern))

/-- The value of a path. -/
def resolve (path : String) : Except Fault Datum := (s.scope.resolve path).mapError .error

/-- The value of a literal. -/
def constant : Datum → Except Fault Datum
  | .number (.real x) => if x.isFinite then .ok (.number (.real x)) else .error (.aborted .infinite)
  | d => .ok d

/-- All arguments, if all have values. -/
def settled : Outcomes → Except Fault Arguments
  | [] => .ok []
  | (name, r) :: rest => do
    let d ← r
    return (name, d) :: (← settled rest)

/-- The value of a filter. -/
def applyFilter (name : String) (d : Datum) (args : Outcomes) : Except Fault Datum := do
  let f ← s.demand (Filter.named? name)
  concerning (.filter name) do s.perform (f d (← settled args))

/-- The value of a function. -/
def applyFunction (name : String) (args : Outcomes) : Except Fault Datum := do
  let f ← s.demand (Function.named? name)
  concerning (.function name) do s.perform (f (← settled args))

/-- What a test says of a variable. -/
def applyTest (path : String) (negated : Bool) (name : String) (args : List (Except Fault Datum)) :
    Except Fault Bool := do
  let t ← s.demand (Test.named? name)
  let d := (s.scope.resolve path).toOption
  let holds ← concerning (.test name) do s.demand (t d (← args.mapM id))
  return holds != negated

/-- The filter only stands for a value that is missing, or only says that a value is safe. -/
def isSilent (filter : String) : Bool := filter == "safe" || filter == "default"

/-- The value that stands for one that is missing. -/
def standIn (args : Outcomes) : Except Fault Datum :=
  match args.lookup "value" with
  | some r => r
  | none => s.fail .unsuitable

/-- The value of a path, or what stands for it when it is null or not defined. -/
def orStandIn (path : String) (args : Outcomes) : Except Fault Datum :=
  match s.scope.resolve path with
  | .ok d => if d.same .null then s.standIn args else .ok d
  | .error _ => s.standIn args

/-- The item or the text is in the list, the text or the keys of the object. -/
def isIn (item container : Datum) : Except Fault Bool :=
  match container, item with
  | .list items, d => .ok (items.any (·.same d))
  | .text s, .text part => .ok (Text.occurs part.toList s.toList)
  | .object entries, .text key => .ok (entries.lookup key).isSome
  | _, _ => s.fail .unsuitable

/-- Two data are equal: numbers by value, and a number is never compared with anything else. -/
def compareEqual (r : Relation) (a b : Datum) : Bool :=
  match a, b with
  | .number m, .number n => r.holds m n
  | .number _, _ | _, .number _ => false
  | a, b => if r = .equal then a.same b else !a.same b

/-- A number that a calculation can use. -/
def numberOf : Datum → Except Fault (Option Number)
  | .number n => .ok (some n)
  | _ => s.fail .unsuitable

/-- The result of an operation on numbers, if both are numbers. -/
def calculate (op : Operator) : Option Number → Option Number → Except Fault (Option Number)
  | some a, some b => s.perform (op.apply a b)
  | _, _ => .ok none

/-- The comparison of two numbers. -/
def compareNumbers (r : Relation) : Option Number → Option Number → Except Fault Bool
  | some a, some b => .ok (r.holds a b)
  | _, _ => s.fail .unsuitable

/-- A connection, of which the right side counts only if the left one does not decide. -/
def connect (c : Connective) (left : Except Fault Bool) (right : Unit → Except Fault Bool) :
    Except Fault Bool := do
  match c, ← left with
  | .both, true | .either, false => right ()
  | .both, false => return false
  | .either, true => return true

/-- A comparison of two expressions by their values or by their numbers. -/
def relate (r : Relation) (values : Unit → Except Fault (Datum × Datum))
    (numbers : Unit → Except Fault (Option Number × Option Number)) : Except Fault Bool :=
  match r with
  | .equal | .unequal => do
    let (a, b) ← values ()
    return compareEqual r a b
  | r => do
    let (a, b) ← numbers ()
    s.compareNumbers r a b

/-- A filter on what is inside, which may be a path as it stands. -/
def filtered (path? : Option String) (inside : Unit → Except Fault Datum) (filter : String)
    (args : Outcomes) : Except Fault Datum :=
  match path?, filter with
  | some p, "default" => s.orStandIn p args
  | _, filter => do
    let d ← inside ()
    if isSilent filter then return d else s.applyFilter filter d args

/-- A condition on a variable does not fail: it is false when there is an error. -/
def forgiving (d : Except Fault Datum) (f : Datum → Bool) : Except Fault Bool :=
  match d with
  | .ok d => .ok (f d)
  | .error (.error _) => .ok false
  | .error (.aborted a) => .error (.aborted a)

/-- The text of a variable or a call among joined parts, which must be a text or a number. -/
def joinedText : Datum → Except Fault String
  | .text t => .ok t
  | .number n => .ok n.text
  | _ => s.fail .unsuitable

/-- The datum of a calculation, which may be no number. -/
def ofNumber : Option Number → Datum
  | some n => .number n
  | none => .text "NaN"

/-- The number as a truth value; what is no number is false. -/
def isNonzero : Option Number → Bool
  | some n => !n.toReal.isZero
  | none => false

/-- A negated expression is true when its variable is not defined. -/
def negatesUnknown (e : Expression) : Bool :=
  match e.basePath? with
  | some p => !(s.scope.resolve p).toBool && e.firstFilter? != some "default"
  | none => false

mutual

/-- The value of an expression. -/
def value : Expression → Except Fault Datum
  | .literal d => constant d
  | .path p => s.resolve p
  | .call name args => s.applyFunction name (outcomes args)
  | .snippet space name args => return .text (← s.expand space name (outcomes args))
  | .test path negated name args => return .bool (← s.applyTest path negated name (outcomesOf args))
  | .list items => return .list (← values items)
  | .joined parts => return .text (← text parts)
  | .arithmetic op left right =>
    (do return ofNumber (← s.calculate op (← number left) (← number right))).mapError
      (.map .summary)
  | .comparison r left right => return .bool (← s.relate r
      (fun _ => do return (← value left, ← value right))
      (fun _ => do return (← number left, ← number right)))
  | .connection c left right => return .bool (← connect c (truth left) (fun _ => truth right))
  | .membership absent item container => do
    return .bool ((← s.isIn (← value item) (← value container)) != absent)
  | .filtered e f args => s.filtered e.path? (fun _ => value e) f (outcomes args)
  | .negation e =>
    if e.isLogic then value e
    else if s.negatesUnknown e then .ok (.bool true)
    else do return .bool !(← value e).isTruthy
termination_by structural e => e

/-- The expression as a condition. -/
def truth : Expression → Except Fault Bool
  | .literal d => return (← constant d).isTruthy
  | .path p => forgiving (s.resolve p) Datum.isTruthy
  | .call name args => do
    match ← s.applyFunction name (outcomes args) with
    | .bool b => return b
    | _ => s.fail .unsuitable
  | .snippet space name args => return (← s.expand space name (outcomes args)) != ""
  | .test path negated name args => s.applyTest path negated name (outcomesOf args)
  | .list _ => s.fail .unsuitable
  | .joined parts => return (← text parts) != ""
  | .arithmetic op left right => do
    return isNonzero (← s.calculate op (← number left) (← number right))
  | .comparison r left right => s.relate r
      (fun _ => do return (← value left, ← value right))
      (fun _ => do return (← number left, ← number right))
  | .connection c left right => connect c (truth left) (fun _ => truth right)
  | .membership absent item container => do
    return (← s.isIn (← value item) (← value container)) != absent
  | .filtered e f args =>
    match e.base with
    | .path _ => forgiving (s.filtered e.path? (fun _ => value e) f (outcomes args)) Datum.isTruthy
    | .joined _ => do
      match ← s.filtered none (fun _ => value e) f (outcomes args) with
      | .text t => return t != ""
      | _ => .error (.aborted .unforeseen)
    | _ => truth e
  | .negation e =>
    match e.base with
    | .path _ => if s.negatesUnknown e then .ok true else forgiving (value e) fun d => !d.isTruthy
    -- the value is a truth value here, where only a text is foreseen
    | .joined _ => do
      let _ ← value e
      .error (.aborted .unforeseen)
    | _ => do return !(← truth e)
termination_by structural e => e

/-- The expression as a number, which a calculation may fail to give. -/
def number : Expression → Except Fault (Option Number)
  | .literal d => do s.numberOf (← constant d)
  | .path p => do s.numberOf (← s.resolve p)
  | .call name args => do s.numberOf (← s.applyFunction name (outcomes args))
  | .arithmetic op left right => do s.calculate op (← number left) (← number right)
  | .filtered e f args => do
    s.numberOf (← s.filtered e.path? (fun _ => value e) f (outcomes args))
  | .snippet _ _ _ => .error (.aborted .unforeseen)
  | .test _ _ _ _ | .list _ | .joined _ | .comparison _ _ _ | .connection _ _ _ | .membership _ _ _
  | .negation _ => s.fail .unsuitable
termination_by structural e => e

/-- The joined texts of some parts. -/
def text : List Expression → Except Fault String
  | [] => .ok ""
  | e :: es => do
    let t ← match e with
      | .literal d => .ok d.shown
      | e => do s.joinedText (← value e)
    return t ++ (← text es)
termination_by structural es => es

/-- The values of some expressions. -/
def values : List Expression → Except Fault (List Datum)
  | [] => .ok []
  | e :: es => do
    let d ← value e
    return d :: (← values es)
termination_by structural es => es

/-- The values of some expressions, as far as they have any. -/
def outcomesOf : List Expression → List (Except Fault Datum)
  | [] => []
  | e :: es => value e :: outcomesOf es
termination_by structural es => es

/-- The values of named arguments, as far as they have any. -/
def outcomes : List (String × Expression) → Outcomes
  | [] => []
  | (name, e) :: es => (name, value e) :: outcomes es
termination_by structural es => es

end

end Surroundings

end Markup

end ComposePods

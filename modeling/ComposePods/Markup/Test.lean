import ComposePods.Binary64.Exact
import ComposePods.Markup.Filter.Arguments
import ComposePods.Pattern.Read
import ComposePods.Text.Replace

/-!
# Tests

A test tells something of a variable, which may not be defined. All tests but those of being defined
fail on a variable that is not, and on arguments of the wrong kind or number.

* `Test.named?`: the test of a name.
-/

namespace ComposePods

namespace Markup

/-- Tells something of a variable, if it can. -/
abbrev Test := Option Datum → List Datum → Option Bool

namespace Test

/-- A test of a defined variable that takes no arguments. -/
def plain (f : Datum → Option Bool) : Test := fun d args => do
  guard args.isEmpty
  f (← d)

/-- A test of a defined variable against at most one argument. -/
def against (f : Datum → Option Datum → Option Bool) : Test := fun d args => do
  guard (args.length ≤ 1)
  f (← d) args.head?

/-- A test of a text against a text. -/
def onTexts (f : String → String → Option Bool) : Test := against fun d arg => do
  f (← Arguments.asText d) (← Arguments.asText (← arg))

/-- The number is odd: dividing it by two leaves something. -/
def isOdd (d : Datum) : Option Bool := do
  let r ← (← Arguments.asReal d).remainder? (.ofInt 2)
  return !r.isZero

/-- The number is a multiple of another one. -/
def isMultiple (d : Datum) (arg : Option Datum) : Option Bool := do
  let x ← Arguments.asReal d
  let y ← Arguments.asReal (← arg)
  return match x.remainder? y with
    | some r => r.isZero
    | none => false

/-- The text, the list or the object contains a text, an item or a key. -/
def isContaining (d : Datum) (arg : Option Datum) : Option Bool := do
  let arg ← arg
  match d with
  | .text s => return Text.occurs (← Arguments.asText arg).toList s.toList
  | .list items => return items.any (·.same arg)
  | .object entries => return (entries.lookup (← Arguments.asText arg)).isSome
  | .null | .bool _ | .number _ => none

/-- The text has a part that a pattern matches. -/
def isMatching (s pattern : String) : Option Bool := return (← Pattern.ofText? pattern).occursIn s

/-- The test of a name. -/
def named? (name : String) : Option Test :=
  match name with
  | "defined" => some fun d args => if args.isEmpty then some d.isSome else none
  | "undefined" => some fun d args => if args.isEmpty then some d.isNone else none
  | "odd" => some (plain isOdd)
  | "even" => some (plain fun d => return !(← isOdd d))
  | "string" => some (plain fun d => some (Arguments.asText d).isSome)
  | "number" => some (plain fun d => some (Arguments.asReal d).isSome)
  | "iterable" => some (plain fun
    | .list _ | .object _ => some true
    | _ => some false)
  | "object" => some (plain fun
    | .object _ => some true
    | _ => some false)
  | "divisibleby" => some (against isMultiple)
  | "starting_with" => some (onTexts fun s part => some (Text.startsWith part s))
  | "ending_with" => some (onTexts fun s part => some (Text.endsWith part s))
  | "containing" => some (against isContaining)
  | "matching" => some (onTexts isMatching)
  | _ => none

end Test

end Markup

end ComposePods

import ComposePods.Markup.Expression
import ComposePods.Markup.Reader

/-!
# Reading expressions

An expression is read by rules each of which uses those below it; only what stands inside brackets
starts again from the top. `Inner` holds the rules for the inside of brackets, `inside n` those for
at most `n` nested brackets.

* `Reader.operand`: a comparison, a membership, or an expression in brackets, perhaps negated;
* `Reader.logic`: operands joined by `and` and `or`;
* `Reader.expression`: an expression or a list.
-/

namespace ComposePods

namespace Markup

namespace Reader

/-- The rules for the inside of brackets. -/
structure Inner where
  logic : Reader Expression
  operand : Reader Expression
  sum : Reader Expression

/-- Operands joined from left to right, where the operators that bind more tightly come first. -/
def arrange {α β : Type} (tight : β → Bool) (join : β → α → α → α) :
    (pending : Option (α × β)) → (current : α) → List (β × α) → α
  | pending, current, [] =>
    match pending with
    | some (left, op) => join op left current
    | none => current
  | pending, current, (op, right) :: rest =>
    if tight op then arrange tight join pending (join op current right) rest
    else
      let left := match pending with
        | some (left, before) => join before left current
        | none => current
      arrange tight join (some (left, op)) right rest

/-- An operator on numbers. -/
def operator : Reader Operator :=
  (do symbol "+"; return .add) <|> (do symbol "-"; return .subtract) <|>
  (do symbol "*"; return .multiply) <|> (do symbol "/"; return .divide) <|>
  (do symbol "%"; return .remainder)

/-- The operator binds more tightly than a sum. -/
def isTightOperator : Operator → Bool
  | .multiply | .divide | .remainder => true
  | .add | .subtract => false

/-- A comparison. -/
def relation : Reader Relation :=
  (do symbol "=="; return .equal) <|> (do symbol "!="; return .unequal) <|>
  (do symbol ">="; return .atLeast) <|> (do symbol ">"; return .greater) <|>
  (do symbol "<="; return .atMost) <|> (do symbol "<"; return .less)

/-- A connective. -/
def connective : Reader Connective :=
  (do keyword "or"; return .either) <|> (do keyword "and"; return .both)

/-- A truth value. -/
def truth : Reader Bool :=
  (do symbol "true"; return true) <|> (do symbol "false"; return false) <|>
  (do symbol "True"; return true) <|> (do symbol "False"; return false)

/-- An integer or a number with a point. -/
def number : Reader Expression :=
  (return .literal (.number (.real (← real)))) <|>
    (return .literal (.number (.integer (← integer))))

/-- Arguments of which the last of a name stays. -/
def lastOfEach (args : List (String × Expression)) : List (String × Expression) :=
  args.foldl (fun kept e => kept.filter (·.1 != e.1) ++ [e]) []

section Rules

variable (inner : Inner)

/-- Items between square brackets. -/
def items : Reader (List Expression) := do
  symbol "["
  let items ← maybe (listOf inner.operand)
  let _ ← maybe (symbol ",")
  symbol "]"
  return items.getD []

/-- Arguments between round brackets. -/
def arguments (value : Reader Expression) : Reader (List (String × Expression)) := do
  symbol "("
  let args ← maybe (do
    let args ← listOf (do
      let name ← identifier
      symbol "="
      return (name, ← value))
    let _ ← maybe (symbol ",")
    return args)
  symbol ")"
  return lastOfEach (args.getD [])

/-- A filter, which may have arguments. -/
def filter (value : Reader Expression) : Reader (String × List (String × Expression)) := do
  symbol "|"
  (do
    let name ← identifier
    return (name, ← arguments value)) <|> (return (← identifier, []))

/-- What `plain` reads, through the filters that follow it. -/
def withFilters (value plain : Reader Expression) : Reader Expression := do
  let e ← plain
  return (← many (filter value)).foldl (fun e f => .filtered e f.1 f.2) e

/-- A list inside brackets. Its items may be lists only through arguments. -/
def value : Reader Expression :=
  inner.logic <|> withFilters inner.logic (return .list (← items inner))

/-- The call of a function. -/
def call : Reader Expression := do
  let name ← identifier
  return .call name (← arguments (value inner))

/-- The text of a snippet. -/
def snippet : Reader Expression := do
  let space ← identifier
  symbol "::"
  let name ← identifier
  return .snippet space name (← arguments (value inner))

/-- The name and the arguments of a test. -/
def testCall : Reader (String × List Expression) := do
  let name ← identifier
  let args ← maybe (do
    symbol "("
    let args ← listOf (value inner)
    symbol ")"
    return args)
  return (name, args.getD [])

/-- A test of a variable. -/
def test : Reader Expression :=
  (do
    let p ← path
    symbol "is"
    symbol "not"
    let (name, args) ← testCall inner
    return .test p true name args) <|>
  (do
    let p ← path
    symbol "is"
    let (name, args) ← testCall inner
    return .test p false name args)

/-- An expression without operators. -/
def simple : Reader Expression :=
  (return .literal (.bool (← truth))) <|> test inner <|> snippet inner <|> call inner <|>
  (return .path (← path)) <|> number

/-- An operand of a calculation. -/
def term : Reader Expression :=
  (do
    symbol "("
    let e ← inner.sum
    symbol ")"
    return e) <|> simple inner

/-- Operands joined by operators on numbers. -/
def sumOf (operand : Reader Expression) : Reader Expression := do
  let first ← operand
  let rest ← many (do return (← operator, ← operand))
  return arrange isTightOperator .arithmetic none first rest

/-- A calculation. -/
def sum : Reader Expression := sumOf (term inner)

/-- A calculation and its filters. -/
def filteredSum : Reader Expression := withFilters (value inner) (sum inner)

/-- A part of joined texts. -/
def part : Reader Expression :=
  call inner <|> number <|> (return .literal (.text (← quoted))) <|> (return .path (← path))

/-- Texts joined by tildes, or a single one between quotes, and its filters. -/
def filteredText : Reader Expression :=
  withFilters (value inner)
    ((do
      let first ← part inner
      let second ← (do symbol "~"; part inner)
      let rest ← many (do symbol "~"; part inner)
      return .joined (first :: second :: rest)) <|>
    (return .literal (.text (← quoted))))

/-- A list and its filters. -/
def filteredList : Reader Expression := withFilters (value inner) (return .list (← items inner))

/-- Where a membership looks. -/
def container : Reader Expression :=
  filteredText inner <|> filteredList inner <|> (return .path (← path))

/-- A membership. -/
def membership : Reader Expression := do
  let item ← filteredText inner <|> filteredSum inner
  let absent ← present (keyword "not")
  symbol "in"
  return .membership absent item (← container inner)

/-- A side of a comparison. -/
def side : Reader Expression := filteredText inner <|> sumOf (filteredSum inner)

/-- A comparison, or only its left side. -/
def comparison : Reader Expression := do
  let left ← side inner
  let right ← maybe (do return (← relation, ← side inner))
  match right with
  | some (r, right) => return .comparison r left right
  | none => return left

/-- The expression between brackets; a negation that is all of it is dropped. -/
def bracketed : Expression → Expression
  | .negation e => e
  | e => e

/-- A comparison or a membership, perhaps negated, or an expression in brackets. -/
def operand : Reader Expression :=
  (do
    let negated ← present (keyword "not")
    let e ← membership inner <|> comparison inner
    return if negated then .negation e else e) <|>
  (do
    symbol "("
    let e ← inner.logic
    symbol ")"
    return bracketed e)

/-- The connective binds more tightly than the other. -/
def isTightConnective : Connective → Bool
  | .both => true
  | .either => false

/-- Operands joined by connectives. -/
def logic : Reader Expression := do
  let first ← operand inner
  let rest ← many (do return (← connective, ← operand inner))
  return arrange isTightConnective .connection none first rest

end Rules

/-- The rules for at most `depth` nested brackets. -/
def inside : (depth : Nat) → Inner
  | 0 => ⟨failure, failure, failure⟩
  | depth + 1 =>
    let inner := inside depth
    ⟨logic inner, operand inner, sum inner⟩

/-- The rules for what follows: there are no more brackets than characters. -/
def withInner {α : Type} (r : Inner → Reader α) : Reader α := fun cs => r (inside cs.length) cs

/-- An expression or a list. -/
def expression : Reader Expression := withInner fun inner => logic inner <|> filteredList inner

/-- An expression that is no list. -/
def condition : Reader Expression := withInner logic

/-- What a loop runs over. -/
def range : Reader Expression := withInner fun inner => filteredSum inner <|> filteredList inner

/-- A filter. -/
def sectionFilter : Reader (String × List (String × Expression)) := withInner fun inner =>
  (do
    let name ← identifier
    return (name, ← arguments (value inner))) <|> (return (← identifier, []))

end Reader

end Markup

end ComposePods

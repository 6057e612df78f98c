import ComposePods.Datum

/-!
# Expressions

Templates compute with expressions over the data that they see.

* `Operator`, `Relation`, `Connective`;
* `Expression`;
* `Expression.base`: an expression without the filters around it.
-/

namespace ComposePods

namespace Markup

/-- An operator on numbers. -/
inductive Operator where
  | add
  | subtract
  | multiply
  | divide
  | remainder
  deriving DecidableEq

/-- A comparison. -/
inductive Relation where
  | equal
  | unequal
  | less
  | atMost
  | greater
  | atLeast
  deriving DecidableEq

/-- A connective of truth values. -/
inductive Connective where
  | both
  | either
  deriving DecidableEq

/-- An expression. Arguments are given by name, except those of tests. -/
inductive Expression where
  | literal (d : Datum)
  /-- A variable, or a part of one. -/
  | path (p : String)
  | call (name : String) (args : List (String × Expression))
  /-- The text of a snippet. -/
  | snippet (space name : String) (args : List (String × Expression))
  | test (path : String) (negated : Bool) (name : String) (args : List Expression)
  | list (items : List Expression)
  /-- The texts of some parts, one after the other. -/
  | joined (parts : List Expression)
  | arithmetic (op : Operator) (left right : Expression)
  | comparison (r : Relation) (left right : Expression)
  | connection (c : Connective) (left right : Expression)
  | membership (absent : Bool) (item container : Expression)
  | filtered (e : Expression) (filter : String) (args : List (String × Expression))
  | negation (e : Expression)
  deriving Inhabited

namespace Expression

/-- The expression without filters. -/
def base : Expression → Expression
  | .filtered e _ _ => e.base
  | e => e

/-- The path that the expression is, if it is one. -/
def path? : Expression → Option String
  | .path p => some p
  | _ => none

/-- The path to which the filters of an expression apply, if it is one. -/
def basePath? (e : Expression) : Option String := e.base.path?

/-- The expression compares or connects, so that its value is a truth value. -/
def isLogic : Expression → Bool
  | .comparison _ _ _ | .connection _ _ _ => true
  | _ => false

/-- The name of the first filter. -/
def firstFilter? : Expression → Option String
  | .filtered (.filtered e f args) _ _ => firstFilter? (.filtered e f args)
  | .filtered _ f _ => some f
  | _ => none

end Expression

end Markup

end ComposePods

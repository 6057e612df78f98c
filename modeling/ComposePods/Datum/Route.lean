import ComposePods.Datum

/-!
# Routes

A route leads from a datum to one of its parts. It is a text of steps with points between them. A
step between quotes may hold points, `~1` stands for a slash and `~0` for a tilde.

* `Route.steps`: the steps of a route;
* `Datum.at?`: the part of a datum that a route leads to.
-/

namespace ComposePods

namespace Route

/-- Which quotes are open, and whether the character before was a backslash. -/
structure Quotes where
  double : Bool
  single : Bool
  escaped : Bool

/-- Outside of quotes. -/
def Quotes.none : Quotes := ⟨false, false, false⟩

/-- The steps of what is left of a route, where `step` is the step begun, reversed. A point, or a
quote on either side, ends a step that is not empty. -/
def stepsFrom (q : Quotes) (step : List Char) : List Char → List (List Char)
  | [] => if step.isEmpty then [] else [step.reverse]
  | c :: cs =>
    let plain : Quotes := { q with escaped := false }
    let close (q : Quotes) :=
      if step.isEmpty then stepsFrom q [] cs else step.reverse :: stepsFrom q [] cs
    if c = '\\' then stepsFrom { q with escaped := true } (c :: step) cs
    else if c = '"' && !q.escaped then close { plain with double := !q.double }
    else if c = '\'' && !q.escaped then close { plain with single := !q.single }
    else if c = '.' && !q.escaped && !q.double && !q.single then close plain
    else stepsFrom plain (c :: step) cs

/-- A step with its slashes and tildes. -/
def unescape : List Char → List Char
  | '~' :: '1' :: cs => '/' :: unescape cs
  | c :: cs => c :: unescape cs
  | [] => []

/-- The tildes of a step. -/
def unescapeTilde : List Char → List Char
  | '~' :: '0' :: cs => '~' :: unescapeTilde cs
  | c :: cs => c :: unescapeTilde cs
  | [] => []

/-- The steps of a route. -/
def steps (route : String) : List String :=
  (stepsFrom .none [] route.toList).map fun step => String.ofList (unescapeTilde (unescape step))

end Route

/-- The part of a datum that a route leads to. -/
def Datum.at? (d : Datum) (route : String) : Option Datum := d.follow? (Route.steps route)

end ComposePods

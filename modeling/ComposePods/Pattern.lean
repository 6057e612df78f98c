import ComposePods.Text.Blank
import ComposePods.Text.Word

/-!
# Patterns

A pattern describes texts: sequences, alternatives and repetitions of characters out of given
classes, and places such as the start of a line. Whether a pattern occurs in a text is decided by
following all ways to match at once.

* `CharClass`, `Anchor`, `Pattern`;
* `Pattern.ends`: where a match that starts at a position can end;
* `Pattern.occursIn`: the pattern matches some part of a text.
-/

namespace ComposePods

/-- Characters that a pattern may name. -/
inductive CharClass where
  | range (low high : Char)
  | digit (negated : Bool)
  | word (negated : Bool)
  | blank (negated : Bool)
  deriving DecidableEq

/-- A place in a text. -/
inductive Anchor where
  | textStart
  | textEnd
  | lineStart
  | lineEnd
  | wordEdge
  | noWordEdge
  deriving DecidableEq

/-- A description of texts. -/
inductive Pattern where
  | nothing
  /-- A character of some classes, or of none of them, in any case if wanted. -/
  | one (classes : List CharClass) (negated anyCase : Bool)
  | sequence (first second : Pattern)
  | either (first second : Pattern)
  | repeated (p : Pattern) (least : Nat) (most : Option Nat)
  | place (a : Anchor)

namespace CharClass

/-- The character is in the class. -/
def has (c : Char) : CharClass → Bool
  | .range low high => low ≤ c && c ≤ high
  | .digit negated => Text.isDigit c != negated
  | .word negated => Text.isWordChar c != negated
  | .blank negated => Text.isBlank c != negated

/-- The character and its counterparts in other cases. -/
def variants (c : Char) : List Char :=
  let others :=
    (Text.shifted? Text.upperShifts c).toList ++ (Text.shifted? Text.lowerShifts c).toList
  c :: others ++ others.flatMap fun d =>
    (Text.shifted? Text.upperShifts d).toList ++ (Text.shifted? Text.lowerShifts d).toList

/-- The character is in one of some classes. -/
def anyHas (classes : List CharClass) (anyCase : Bool) (c : Char) : Bool :=
  (if anyCase then variants c else [c]).any fun d => classes.any (has d)

end CharClass

namespace Pattern

/-- A position in a text: the character before it and the characters after it. -/
structure Position where
  before : Option Char
  rest : List Char

/-- One of each of some positions in the same text. -/
def distinct (ps : List Position) : List Position :=
  ps.foldl
    (fun kept p => if kept.any (·.rest.length == p.rest.length) then kept else kept ++ [p]) []

/-- The position is at a place. -/
def Position.isAt (p : Position) : Anchor → Bool
  | .textStart => p.before.isNone
  | .textEnd => p.rest.isEmpty
  | .lineStart => p.before.isNone || p.before == some '\n'
  | .lineEnd => p.rest.isEmpty || p.rest.head? == some '\n'
  | .wordEdge => p.before.any Text.isWordChar != p.rest.head?.any Text.isWordChar
  | .noWordEdge => p.before.any Text.isWordChar == p.rest.head?.any Text.isWordChar

/-- Apply a step some times. -/
def steps (step : List Position → List Position) : Nat → List Position → List Position
  | 0, ps => ps
  | n + 1, ps => steps step n (step ps)

/-- Apply a step up to some times and keep all positions that are met. -/
def reached (step : List Position → List Position) : Nat → List Position → List Position
  | 0, ps => ps
  | n + 1, ps => distinct (ps ++ reached step n (step ps))

/-- Where a match that starts at a position can end. -/
def ends : Pattern → Position → List Position
  | .nothing, p => [p]
  | .one classes negated anyCase, p =>
    match p.rest with
    | c :: cs => if CharClass.anyHas classes anyCase c != negated then [⟨some c, cs⟩] else []
    | [] => []
  | .sequence a b, p => distinct ((ends a p).flatMap (ends b))
  | .either a b, p => distinct (ends a p ++ ends b p)
  | .repeated a least most, p =>
    let step (ps : List Position) := distinct (ps.flatMap (ends a))
    let further := match most with
      | some most => most - least
      | none => p.rest.length + 1
    reached step further (steps step least [p])
  | .place a, p => if p.isAt a then [p] else []

/-- The pattern matches from some position on. -/
def matchesFrom (p : Pattern) (before : Option Char) : List Char → Bool
  | [] => !(p.ends ⟨before, []⟩).isEmpty
  | c :: cs => !(p.ends ⟨before, c :: cs⟩).isEmpty || matchesFrom p (some c) cs

/-- The pattern matches some part of a text. -/
def occursIn (p : Pattern) (s : String) : Bool := p.matchesFrom none s.toList

end Pattern

end ComposePods

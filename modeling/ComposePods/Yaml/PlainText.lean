import ComposePods.Yaml.Position

/-!
# Plain scalars in a text

A scalar without quotes ends before a colon that is followed by a gap, before a comment, before a
line that is not indented enough, and inside brackets also before their marks.

* `Yaml.PlainText`, `Yaml.readPlain`.
-/

namespace ComposePods

namespace Yaml

/-- A plain scalar and what follows it. -/
structure PlainText where
  text : List Char
  rest : List Char
  position : Position
  /-- A line has ended behind the scalar. -/
  broken : Bool

/-- The scalar has ended at a gap before the characters. -/
def endsAfterGap (flow : Bool) (least : Nat) (p : Position) : List Char → Bool
  | [] => true
  | c :: cs =>
    (!flow && p.column < least) || c == '#' || (p.column == 0 && markerAhead (c :: cs))

/-- The scalar ends before the characters. -/
def endsPlain (flow : Bool) (c : Char) (cs : List Char) : Bool :=
  (c == ':' && gapAhead cs) || (flow && isFlowMark c)

/-- A colon before a mark of brackets. -/
def isMisplacedColon (flow : Bool) (c : Char) (cs : List Char) : Bool :=
  flow && c == ':' && match cs with
    | d :: _ => isFlowMark d || d == '?'
    | [] => false

/-- The scalar at the start of a text; its further lines start at column `least` or behind it. -/
def readPlain (flow : Bool) (least : Nat) : List Char → Position → Fold → (read : List Char) →
    Option PlainText
  | [], p, g, read => some ⟨read.reverse, [], p, g.broken⟩
  | c :: cs, p, g, read =>
    let done : PlainText := ⟨read.reverse, c :: cs, p, g.broken⟩
    if isBreak c then readPlain flow least cs p.nextLine (g.add c) read
    else if isBlank c then
      if g.broken && p.column < least && c == '\t' then none
      else readPlain flow least cs (p.right 1) (g.add c) read
    else if !g.isNone && endsAfterGap flow least p (c :: cs) then some done
    else if isMisplacedColon flow c cs then none
    else if endsPlain flow c cs then some done
    else readPlain flow least cs (p.right 1) .none (c :: (g.text.reverse ++ read))

end Yaml

end ComposePods

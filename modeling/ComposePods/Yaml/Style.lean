import ComposePods.Yaml.Character
import ComposePods.Yaml.Scalar

/-!
# How a string is written

A string is written plainly if that reads back as itself. Otherwise it is put in single quotes, or
in double quotes with escapes, and a string of several lines becomes a block.

* `Style`: the four ways to write a string;
* `Style.Traits`: what stands in a string, as far as it matters for its style;
* `Style.wanted`, `Style.choose`: the style that suits a string, and the one that its traits allow.
-/

namespace ComposePods

/-- The ways to write a string. -/
inductive Style where
  | plain
  | singleQuoted
  | doubleQuoted
  | block
  deriving DecidableEq

namespace Style

open Yaml (isBreak isGap gapAhead isPrintable)

/-- What stands in a string. -/
structure Traits where
  /-- Something that means more than itself outside of quotes. -/
  indicators : Bool
  breaks : Bool
  /-- Characters that must be escaped. -/
  special : Bool
  leadingSpace : Bool
  leadingBreak : Bool
  trailingSpace : Bool
  trailingBreak : Bool
  /-- A space right after a line break. -/
  breakSpace : Bool
  /-- A line break right after a space. -/
  spaceBreak : Bool

/-- A first character that has a meaning of its own. -/
def startsMarked : List Char → Bool
  | [] => false
  | c :: rest =>
    "#,[]\x7b\x7d&*!|>'\"%@\x60".toList.contains c ||
      ((c == '?' || c == ':' || c == '-') && gapAhead rest)

/-- A colon before a gap or a `#` after one. -/
def hasMark (previous : Char) : List Char → Bool
  | [] => false
  | c :: rest =>
    (c == ':' && gapAhead rest) || (c == '#' && isGap previous) || hasMark c rest

/-- The text starts like a document marker. -/
def startsDocument (cs : List Char) : Bool :=
  "---".toList.isPrefixOf cs || "...".toList.isPrefixOf cs

/-- Some character satisfies `p` right before one that satisfies `q`. -/
def adjacent (p q : Char → Bool) : List Char → Bool
  | a :: b :: rest => (p a && q b) || adjacent p q (b :: rest)
  | _ => false

/-- What stands in a string. -/
def traits (cs : List Char) : Traits where
  indicators := startsDocument cs || startsMarked cs ||
    match cs with
    | [] => false
    | c :: rest => hasMark c rest
  breaks := cs.any isBreak
  special := cs.any (!isPrintable ·)
  leadingSpace := cs.head? == some ' '
  leadingBreak := cs.head?.any isBreak
  trailingSpace := cs.getLast? == some ' '
  trailingBreak := cs.getLast?.any isBreak
  breakSpace := adjacent isBreak (· == ' ') cs
  spaceBreak := adjacent (· == ' ') isBreak cs

namespace Traits

/-- The string may stand without quotes. -/
def plainAllowed (t : Traits) : Bool :=
  !(t.indicators || t.breaks || t.special || t.leadingSpace || t.leadingBreak || t.trailingSpace ||
    t.trailingBreak)

/-- The string may stand in single quotes. -/
def singleAllowed (t : Traits) : Bool := !(t.breakSpace || t.spaceBreak || t.special)

/-- The string may stand as a block. -/
def blockAllowed (t : Traits) : Bool := !(t.trailingSpace || t.spaceBreak || t.special)

end Traits

/-- The style that suits a string: a block for several lines, quotes for what would read as
something else. -/
def wanted (s : String) : Style :=
  if s.toList.contains '\n' then .block
  else match Scalar.resolve s with
    | .text => if Scalar.hasLeadingZero s.toList then .singleQuoted else .plain
    | _ => .singleQuoted

/-- Single quotes, if they are allowed. -/
def quoted (t : Traits) : Style := if t.singleAllowed then .singleQuoted else .doubleQuoted

/-- The wanted style, or the nearest one that the traits allow. No line may end in a key of one
line. -/
def choose (style : Style) (t : Traits) (shortKey : Bool) : Style :=
  if shortKey && t.breaks then .doubleQuoted
  else match style with
    | .plain => if t.plainAllowed then .plain else quoted t
    | .singleQuoted => quoted t
    | .doubleQuoted => .doubleQuoted
    | .block => if t.blockAllowed && !shortKey then .block else .doubleQuoted

end Style

end ComposePods

import ComposePods.Yaml.Character

/-!
# Positions and gaps

Reading goes from left to right and from top to bottom. Between the words of a document there may be
blanks, comments and line ends; inside a scalar that spans lines, they are folded.

* `Position`: line and column;
* `Yaml.skipGap`: what follows the blanks, comments and line ends between two words;
* `Fold`, `Fold.add`, `Fold.text`: a gap inside a scalar, and the text that it stands for.
-/

namespace ComposePods

/-- A place in a text. -/
structure Position where
  line : Nat
  column : Nat
  deriving DecidableEq

namespace Position

/-- The start of a text. -/
def start : Position := ⟨0, 0⟩

/-- The place some characters further on the line. -/
def right (p : Position) (n : Nat) : Position := { p with column := p.column + n }

/-- The start of the next line. -/
def nextLine (p : Position) : Position := ⟨p.line + 1, 0⟩

end Position

namespace Yaml

/-- Skip blanks, comments and line ends. Tabs count as blanks inside brackets and where no key may
start. Outside of brackets a key may start on every new line. The result tells whether one may
start. -/
def skipGap (flow : Bool) : (comment keyAllowed : Bool) → List Char → Position →
    List Char × Position × Bool
  | _, keyAllowed, [], p => ([], p, keyAllowed)
  | comment, keyAllowed, c :: cs, p =>
    if isBreak c then skipGap flow false (keyAllowed || !flow) cs p.nextLine
    else if comment || c == ' ' || (c == '\t' && (flow || !keyAllowed)) ||
        (c == byteOrderMark && p.column == 0) then
      skipGap flow comment keyAllowed cs (p.right 1)
    else if c == '#' then skipGap flow true keyAllowed cs (p.right 1)
    else (c :: cs, p, keyAllowed)

end Yaml

/-! ## Folding -/

/-- A gap inside a scalar, as far as it has been read. -/
structure Fold where
  /-- The line has ended in the gap. -/
  broken : Bool
  /-- The blanks on the first line, last one first. -/
  blanks : List Char
  /-- The first line end. -/
  first : List Char
  /-- The other line ends, last one first. -/
  more : List Char

namespace Fold

/-- No gap. -/
def none : Fold := ⟨false, [], [], []⟩

/-- A gap that starts with a line end that counts for nothing. -/
def escapedBreak : Fold := ⟨true, [], [], []⟩

/-- Nothing has been read of the gap. -/
def isNone (g : Fold) : Bool := !g.broken && g.blanks.isEmpty

/-- The gap with one more blank or line end. Blanks before and after line ends do not count. -/
def add (g : Fold) (c : Char) : Fold :=
  if Yaml.isBreak c then
    if g.broken then { g with more := c :: g.more } else ⟨true, [], [c], []⟩
  else if g.broken then g
  else { g with blanks := c :: g.blanks }

/-- What the gap stands for: the blanks on the line; a space for one line end, the others for
several. -/
def text (g : Fold) : List Char :=
  if !g.broken then g.blanks.reverse
  else if g.first = ['\n'] then if g.more.isEmpty then [' '] else g.more.reverse
  else g.first ++ g.more.reverse

end Fold

end ComposePods

import ComposePods.Binary64.Read
import ComposePods.Yaml.Position

/-!
# Quoted scalars

Between single quotes a quote is written twice; between double quotes there are escapes. Both may
span lines, which are folded, and neither may hold the marker of a document at the start of a line.

* `Yaml.readSingleQuoted`, `Yaml.readDoubleQuoted`: the text, what follows it, and where that is.
-/

namespace ComposePods

namespace Yaml

/-- What has been read, last character first, with a gap before what comes next. -/
def unfold (g : Fold) (read : List Char) : List Char := g.text.reverse ++ read

/-- The text up to the closing quote. -/
def readSingleQuoted : List Char → Position → Fold → (read : List Char) →
    Option (List Char × List Char × Position)
  | [], _, _, _ => none
  | c :: cs, p, g, read =>
    if isBreak c then readSingleQuoted cs p.nextLine (g.add c) read
    else if isBlank c then readSingleQuoted cs (p.right 1) (g.add c) read
    else if p.column == 0 && markerAhead (c :: cs) then none
    else if c = '\'' then
      match cs with
      | '\'' :: rest => readSingleQuoted rest (p.right 2) .none ('\'' :: unfold g read)
      | _ => some ((unfold g read).reverse, cs, p.right 1)
    else readSingleQuoted cs (p.right 1) .none (c :: unfold g read)

/-- Where reading stands with respect to an escape. -/
inductive Escape where
  | outside
  /-- The backslash has been read. -/
  | marked
  /-- So many digits of a code point are missing. -/
  | digits (missing value : Nat)

/-- The character of an escape of one letter. -/
def escapedChar? (c : Char) : Option Char :=
  match c with
  | '0' => some '\x00'
  | 'a' => some '\x07'
  | 'b' => some '\x08'
  | 't' | '\t' => some '\t'
  | 'n' => some '\n'
  | 'v' => some '\x0B'
  | 'f' => some '\x0C'
  | 'r' => some '\r'
  | 'e' => some '\x1B'
  | ' ' | '"' | '/' | '\\' => some c
  | 'N' => some '\u0085'
  | '_' => some '\u00A0'
  | 'L' => some '\u2028'
  | 'P' => some '\u2029'
  | _ => none

/-- How many digits follow the letter of an escape. -/
def escapeWidth? (c : Char) : Option Nat :=
  match c with
  | 'x' => some 2
  | 'u' => some 4
  | 'U' => some 8
  | _ => none

/-- The character of a code point. -/
def charOf? (n : Nat) : Option Char := if n.isValidChar then some (Char.ofNat n) else none

/-- The text up to the closing quote. -/
def readDoubleQuoted : Escape → List Char → Position → Fold → (read : List Char) →
    Option (List Char × List Char × Position)
  | _, [], _, _, _ => none
  | .outside, c :: cs, p, g, read =>
    if isBreak c then readDoubleQuoted .outside cs p.nextLine (g.add c) read
    else if isBlank c then readDoubleQuoted .outside cs (p.right 1) (g.add c) read
    else if p.column == 0 && markerAhead (c :: cs) then none
    else if c = '"' then some ((unfold g read).reverse, cs, p.right 1)
    else if c = '\\' then readDoubleQuoted .marked cs (p.right 1) .none (unfold g read)
    else readDoubleQuoted .outside cs (p.right 1) .none (c :: unfold g read)
  | .marked, c :: cs, p, _, read =>
    if isBreak c then readDoubleQuoted .outside cs p.nextLine .escapedBreak read
    else match escapedChar? c, escapeWidth? c with
      | some d, _ => readDoubleQuoted .outside cs (p.right 1) .none (d :: read)
      | none, some width => readDoubleQuoted (.digits width 0) cs (p.right 1) .none read
      | none, none => none
  | .digits missing value, c :: cs, p, _, read =>
    match Text.digit? 16 c with
    | none => none
    | some d =>
      let value := value * 16 + d
      if missing = 1 then
        match charOf? value with
        | some e => readDoubleQuoted .outside cs (p.right 1) .none (e :: read)
        | none => none
      else readDoubleQuoted (.digits (missing - 1) value) cs (p.right 1) .none read

end Yaml

end ComposePods

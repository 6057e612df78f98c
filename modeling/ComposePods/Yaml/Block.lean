import ComposePods.Yaml.Position

/-!
# Block scalars

The lines of a block follow its header. They are indented by as much as the header says, or else as
the first line that is not blank. In a folded block single line ends between lines that start with a
word become spaces; the header also says what becomes of the line ends behind the last line.

* `Yaml.Chomping`, `Yaml.Header`, `Yaml.readHeader`;
* `Yaml.readBlock`: the text, what follows it, and where that is.
-/

namespace ComposePods

namespace Yaml

/-- What becomes of the line ends at the end of a block. -/
inductive Chomping where
  | strip
  | clip
  | keep

/-- What the first line of a block says. -/
structure Header where
  chomping : Chomping
  /-- The indentation behind that of the surrounding collection; zero if it is not given. -/
  indentation : Nat

/-- The chomping that a character asks for. -/
def chompingOf? (c : Char) : Option Chomping :=
  if c = '+' then some .keep else if c = '-' then some .strip else none

/-- The indentation that a character asks for, and whether it is a digit other than zero. -/
def indentationOf? (c : Char) : Option Nat := if c.isDigit then some (c.toNat - 48) else none

/-- An optional chomping at the start of some characters. -/
def readChomping : List Char → Option Chomping × List Char
  | [] => (none, [])
  | c :: cs => match chompingOf? c with
    | some k => (some k, cs)
    | none => (none, c :: cs)

/-- An optional indentation at the start of some characters; zero is refused. -/
def readIndentation : List Char → Option (Nat × List Char)
  | [] => some (0, [])
  | c :: cs => match indentationOf? c with
    | some 0 => none
    | some n => some (n, cs)
    | none => some (0, c :: cs)

/-- The header of a block: chomping and indentation in either order. -/
def readHeader (cs : List Char) : Option (Header × List Char) :=
  match readChomping cs with
  | (some k, rest) => (readIndentation rest).map fun (n, rest) => (⟨k, n⟩, rest)
  | (none, rest) => (readIndentation rest).map fun (n, rest) =>
    if n = 0 then (⟨.clip, 0⟩, rest)
    else match readChomping rest with
      | (some k, rest) => (⟨k, n⟩, rest)
      | (none, rest) => (⟨.clip, n⟩, rest)

/-- Only blanks and a comment come before the end of the line: what follows that end. -/
def restOfLine (comment : Bool) : List Char → Option (List Char)
  | [] => some []
  | c :: cs =>
    if isBreak c then some cs
    else if comment || isBlank c then restOfLine comment cs
    else if c = '#' then restOfLine true cs
    else none

/-- A block as far as it has been read. -/
structure BlockText where
  /-- What has been read, last character first. -/
  read : List Char
  /-- The indentation of the lines, zero as long as it is not known. -/
  indent : Nat
  /-- The deepest indentation met. -/
  deepest : Nat
  /-- The end of the last line that is not empty. -/
  lineEnd : List Char
  /-- The ends of the empty lines behind it, last one first. -/
  emptyEnds : List Char
  /-- The last line that is not empty starts with a blank. -/
  blankStart : Bool
  /-- Reading is inside a line. -/
  inLine : Bool

namespace BlockText

/-- What stands between the last line and the next one. -/
def join (literal : Bool) (b : BlockText) (blank : Bool) : List Char :=
  if !literal && b.lineEnd == ['\n'] && !b.blankStart && !blank then
    if b.emptyEnds.isEmpty then [' '] else b.emptyEnds
  else b.emptyEnds ++ b.lineEnd

/-- The first character of a line. -/
def startLine (literal : Bool) (b : BlockText) (c : Char) : BlockText :=
  { b with
    read := c :: (b.join literal (isBlank c) ++ b.read)
    lineEnd := [], emptyEnds := [], blankStart := isBlank c, inLine := true }

/-- The text of a block that has ended. -/
def text (b : BlockText) : Chomping → List Char
  | .strip => b.read.reverse
  | .clip => (b.lineEnd ++ b.read).reverse
  | .keep => (b.emptyEnds ++ (b.lineEnd ++ b.read)).reverse

end BlockText

/-- Read the lines of a block, indented by at least `least` if the indentation is not known yet. -/
def readLines (literal : Bool) (least : Nat) : List Char → Position → BlockText →
    Option (BlockText × List Char × Position)
  | [], p, b => some (b, [], p)
  | c :: cs, p, b =>
    if b.inLine then
      if isBreak c then
        readLines literal least cs p.nextLine { b with lineEnd := [c], inLine := false }
      else readLines literal least cs (p.right 1) { b with read := c :: b.read }
    else
      let shallow := b.indent == 0 || p.column < b.indent
      if shallow && c == ' ' then readLines literal least cs (p.right 1) b
      else if shallow && c == '\t' then none
      else
        let deepest := max b.deepest p.column
        if isBreak c then
          readLines literal least cs p.nextLine { b with deepest, emptyEnds := c :: b.emptyEnds }
        else
          let indent := if b.indent = 0 then max deepest least else b.indent
          let b := { b with deepest, indent }
          if p.column = indent then readLines literal least cs (p.right 1) (b.startLine literal c)
          else some (b, c :: cs, p)

/-- The text of a block behind its indicator, in a collection of the given indentation. -/
def readBlock (literal : Bool) (parent : Int) (cs : List Char) (p : Position) :
    Option (List Char × List Char × Position) := do
  let (header, rest) ← readHeader cs
  let rest ← restOfLine false rest
  let indent := if header.indentation = 0 then 0 else (max parent 0).toNat + header.indentation
  let start : BlockText := ⟨[], indent, 0, [], [], false, false⟩
  let (b, rest, p) ← readLines literal (max (parent + 1) 1).toNat rest p.nextLine start
  return (b.text header.chomping, rest, p)

end Yaml

end ComposePods

import ComposePods.Yaml.Style

/-!
# A page that is written on

Writing goes from left to right and from top to bottom. The page knows how far the current line has
come, whether a space is needed before the next word, and whether the line holds nothing but
indentation and marks yet, so that a nested collection may start on it.

* `Page`, `Page.put`, `Page.newLine`, `Page.indentTo`, `Page.mark`;
* `Page.tag`: the tag of the value that follows;
* `Page.scalar`: a string in one of the styles.
-/

namespace ComposePods

/-- The text written so far, last character first, and the state of its last line. -/
structure Page where
  reversed : List Char
  column : Nat
  /-- No space is needed before the next word. -/
  spaced : Bool
  /-- The line holds indentation and marks only. -/
  fresh : Bool

namespace Page

/-- The empty page. -/
def blank : Page := ⟨[], 0, true, true⟩

/-- The text of the page. -/
def text (p : Page) : String := String.ofList p.reversed.reverse

/-- Write a character on the line. -/
def put (p : Page) (c : Char) : Page :=
  { p with reversed := c :: p.reversed, column := p.column + 1 }

/-- Write characters on the line. -/
def puts (p : Page) (cs : List Char) : Page := cs.foldl put p

/-- End the line with the given character. -/
def endLine (p : Page) (c : Char) : Page := { p with reversed := c :: p.reversed, column := 0 }

/-- End the line. -/
def newLine (p : Page) : Page := p.endLine '\n'

/-- Go to a column: on this line, if it is fresh and has not come further, else on the next. -/
def indentTo (p : Page) (indent : Nat) : Page :=
  let stay := p.fresh && (p.column < indent || (p.column == indent && p.spaced))
  let p := if stay then p else p.newLine
  { p.puts (List.replicate (indent - p.column) ' ') with spaced := true, fresh := true }

/-- Write a mark. Before it there is a space, if `apart` and one is needed; `opens` keeps the line
fresh. -/
def mark (p : Page) (cs : List Char) (apart spaced opens : Bool) : Page :=
  let p := if apart && !p.spaced then p.put ' ' else p
  { p.puts cs with spaced, fresh := p.fresh && opens }

/-! ## Tags -/

/-- A byte as two hexadecimal digits, capital ones. -/
def hexByte (n : Nat) : List Char :=
  ((Nat.toDigits 16 (n / 16)) ++ (Nat.toDigits 16 (n % 16))).map Char.toUpper

/-- A character that is written in a tag as it is. -/
def isPlainTagChar (c : Char) : Bool :=
  Yaml.isWordChar c || ";/?:@&=+$,.~*'()[]".toList.contains c

/-- A character of a tag, its bytes as escapes if need be. -/
def tagChar (c : Char) : List Char :=
  if isPlainTagChar c then [c]
  else (String.singleton c).toUTF8.toList.flatMap fun b => '%' :: hexByte b.toNat

/-- The tag behind its first exclamation mark, as written in front of a value. -/
def tagName (tag : String) : List Char :=
  match tag.toList with
  | '!' :: '!' :: rest => rest
  | '!' :: rest => rest
  | cs => cs

/-- Write the tag of the value that follows. -/
def tag (p : Page) : Option String → Page
  | none => p
  | some t =>
    match tagName t with
    | [] => ((p.mark ['!', '<'] true false false).puts (tagChar '!')).mark ['>'] false false false
    | name => p.mark ('!' :: name.flatMap tagChar) true false false

/-! ## Scalars -/

/-- A character inside double quotes. -/
def escaped (c : Char) : List Char :=
  let n := c.toNat
  let hex (width : Nat) : List Char :=
    let digits := (Nat.toDigits 16 n).map Char.toUpper
    List.replicate (width - digits.length) '0' ++ digits
  if Yaml.isPrintable c && !Yaml.isBreak c && c != '"' && c != '\\' then [c]
  else '\\' ::
    (if n = 0 then ['0'] else if n = 7 then ['a'] else if n = 8 then ['b'] else if n = 9 then ['t']
    else if n = 10 then ['n'] else if n = 11 then ['v'] else if n = 12 then ['f']
    else if n = 13 then ['r'] else if n = 0x1B then ['e'] else if n = 0x22 then ['"']
    else if n = 0x5C then ['\\'] else if n = 0x85 then ['N'] else if n = 0xA0 then ['_']
    else if n = 0x2028 then ['L'] else if n = 0x2029 then ['P']
    else if n ≤ 0xFF then 'x' :: hex 2
    else if n ≤ 0xFFFF then 'u' :: hex 4
    else 'U' :: hex 8)

/-- The characters between single quotes; `broken` says that a line has just ended. -/
def singleQuotedBody (indent : Nat) : (broken : Bool) → List Char → Page → Page
  | broken, [], p => if broken then p.indentTo indent else p
  | broken, c :: cs, p =>
    if c = ' ' then singleQuotedBody indent broken cs (p.put ' ')
    else if Yaml.isBreak c then
      let p := if !broken && c == '\n' then p.newLine else p
      singleQuotedBody indent true cs { p.endLine c with fresh := true }
    else
      let p := if broken then p.indentTo indent else p
      let p := if c = '\'' then p.put '\'' else p
      singleQuotedBody indent false cs { p.put c with fresh := false }

/-- The lines of a block; `broken` says that a line has just ended. -/
def blockBody (indent : Nat) : (broken : Bool) → List Char → Page → Page
  | _, [], p => p
  | broken, c :: cs, p =>
    if Yaml.isBreak c then blockBody indent true cs { p.endLine c with fresh := true }
    else
      let p := if broken then p.indentTo indent else p
      blockBody indent false cs { p.put c with fresh := false }

/-- The marks behind that of a block: its indentation, if the first line does not show it, and what
becomes of the line breaks at its end. -/
def blockHints (cs : List Char) : List Char :=
  let indentation := match cs with
    | c :: _ => if c = ' ' || Yaml.isBreak c then ['2'] else []
    | [] => []
  let ending := match cs.reverse with
    | [] => ['-']
    | c :: rest =>
      if !Yaml.isBreak c then ['-']
      else match rest with
        | [] => ['+']
        | d :: _ => if Yaml.isBreak d then ['+'] else []
  indentation ++ ending

/-- Write a string in a style; further lines start at `indent`. -/
def scalar (p : Page) (style : Style) (indent : Nat) (cs : List Char) : Page :=
  match style with
  | .plain => p.mark cs (!cs.isEmpty) false false
  | .singleQuoted =>
    let p := singleQuotedBody indent false cs (p.mark ['\''] true false false)
    { p.mark ['\''] false false false with fresh := false }
  | .doubleQuoted =>
    ((p.mark ['"'] true false false).puts (cs.flatMap escaped)).mark ['"'] false false false
  | .block =>
    let p := (p.mark ('|' :: blockHints cs) true false false).newLine
    blockBody indent true cs { p with spaced := true, fresh := true }

end Page

end ComposePods

import ComposePods.Datum

/-!
# Writing data

Data are written into rendered text, where an object has no content to show, and as JSON.

* `Datum.shown`: the text of a datum in rendered text;
* `Datum.json`, `Datum.prettyJson`: the datum as JSON, on one line or on several.
-/

namespace ComposePods

namespace Datum

/-- The text of a number in rendered text. -/
def numberText : Number → String
  | .integer i => toString i
  | .real x => Binary64.plain.text x

/-- The text of a truth value. -/
def boolText (b : Bool) : String := if b then "true" else "false"

mutual

/-- The text of a datum in rendered text. -/
def shown : Datum → String
  | .null => ""
  | .bool b => boolText b
  | .number n => numberText n
  | .text s => s
  | .list items => "[" ++ String.intercalate ", " (shownItems items) ++ "]"
  | .object _ => "[object]"
termination_by structural d => d

/-- The texts of some data. -/
def shownItems : List Datum → List String
  | [] => []
  | d :: ds => shown d :: shownItems ds
termination_by structural ds => ds

end

/-! ## JSON -/

/-- A character inside JSON quotes. -/
def jsonChar (c : Char) : List Char :=
  if c = '"' then ['\\', '"']
  else if c = '\\' then ['\\', '\\']
  else if c = '\x08' then ['\\', 'b']
  else if c = '\x0c' then ['\\', 'f']
  else if c = '\n' then ['\\', 'n']
  else if c = '\r' then ['\\', 'r']
  else if c = '\t' then ['\\', 't']
  else if c.toNat < 32 then
    ['\\', 'u', '0', '0', Nat.digitChar (c.toNat / 16), Nat.digitChar (c.toNat % 16)]
  else [c]

/-- A text between JSON quotes. -/
def jsonText (s : String) : String := String.ofList ('"' :: s.toList.flatMap jsonChar ++ ['"'])

/-- A scalar as JSON; collections have their own rules. -/
def jsonScalar : Datum → String
  | .bool b => boolText b
  | .number n => n.text
  | .text s => jsonText s
  | .null | .list _ | .object _ => "null"

mutual

/-- The datum as JSON on one line, without blanks. -/
def json : Datum → String
  | .list items => "[" ++ String.intercalate "," (jsonItems items) ++ "]"
  | .object entries => "\x7b" ++ String.intercalate "," (jsonEntries entries) ++ "\x7d"
  | .null => jsonScalar .null
  | .bool b => jsonScalar (.bool b)
  | .number n => jsonScalar (.number n)
  | .text s => jsonScalar (.text s)
termination_by structural d => d

/-- The items of a list as JSON. -/
def jsonItems : List Datum → List String
  | [] => []
  | d :: ds => json d :: jsonItems ds
termination_by structural ds => ds

/-- The entries of an object as JSON. -/
def jsonEntries : List (String × Datum) → List String
  | [] => []
  | (k, d) :: es => (jsonText k ++ ":" ++ json d) :: jsonEntries es
termination_by structural es => es

end

/-- A new line indented to a level, two blanks a level. -/
def newLine (level : Nat) : String := String.ofList ('\n' :: List.replicate (2 * level) ' ')

/-- Parts on lines of their own between brackets, or nothing between them. -/
def bracketLines (left right : String) (level : Nat) (parts : List String) : String :=
  if parts.isEmpty then left ++ right
  else left ++ newLine (level + 1) ++ String.intercalate ("," ++ newLine (level + 1)) parts ++
    newLine level ++ right

mutual

/-- The datum as JSON on several lines, from a level on. -/
def prettyFrom (level : Nat) : Datum → String
  | .list items => bracketLines "[" "]" level (prettyItems (level + 1) items)
  | .object entries => bracketLines "\x7b" "\x7d" level (prettyEntries (level + 1) entries)
  | .null => jsonScalar .null
  | .bool b => jsonScalar (.bool b)
  | .number n => jsonScalar (.number n)
  | .text s => jsonScalar (.text s)
termination_by structural d => d

/-- The items of a list as JSON on several lines. -/
def prettyItems (level : Nat) : List Datum → List String
  | [] => []
  | d :: ds => prettyFrom level d :: prettyItems level ds
termination_by structural ds => ds

/-- The entries of an object as JSON on several lines. -/
def prettyEntries (level : Nat) : List (String × Datum) → List String
  | [] => []
  | (k, d) :: es => (jsonText k ++ ": " ++ prettyFrom level d) :: prettyEntries level es
termination_by structural es => es

end

/-- The datum as JSON on several lines. -/
def prettyJson (d : Datum) : String := prettyFrom 0 d

end Datum

end ComposePods

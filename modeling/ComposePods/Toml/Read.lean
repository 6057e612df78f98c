import ComposePods.Toml.Item
import ComposePods.Toml.Number
import ComposePods.Toml.Quoted

/-!
# Reading a configuration

A configuration is a list of lines: keys with their values, and headers that open tables. Arrays may
span lines; tables in braces may not.

* `Toml.readKey`: a key with its dots;
* `Toml.readValue`: a value;
* `Toml.ofText`: the entries of the outermost table.
-/

namespace ComposePods

namespace Toml

/-- How deep values may be nested, and how many parts a key may have; both have to stay below. -/
def deepest : Nat := 80

/-! ## Keys -/

/-- A character of a key without quotes. -/
def isKeyChar (c : Char) : Bool := c.isAlphanum || c == '_' || c == '-'

/-- One part of a key. -/
def readPart (cs : List Char) : Option (String × List Char) :=
  match cs with
  | '"' :: rest => readLine '"' (rest.length + 1) rest []
  | '\'' :: rest => readLine '\'' (rest.length + 1) rest []
  | _ =>
    let word := cs.takeWhile isKeyChar
    if word.isEmpty then none else some (String.ofList word, cs.dropWhile isKeyChar)

/-- A key: its parts with dots between them, blanks around each of them. -/
def readParts : (fuel : Nat) → List Char → Option (List String × List Char)
  | 0, _ => none
  | fuel + 1, cs => do
    let (part, rest) ← readPart (cs.dropWhile isBlank)
    match rest.dropWhile isBlank with
    | '.' :: rest => (readParts fuel rest).map fun (parts, rest) => (part :: parts, rest)
    | rest => return ([part], rest)

/-- A key as the parts before the last one and the last one, and what follows it. -/
def readKey (cs : List Char) : Option (List String × String × List Char) := do
  let (parts, rest) ← readParts (deepest - 1) cs
  return (parts.dropLast, ← parts.getLast?, rest)

/-! ## Values -/

/-- What follows blanks, comments and line ends; inside arrays all of them may stand between
values. -/
def skipGap : (comment : Bool) → List Char → Option (List Char)
  | _, [] => some []
  | _, '\r' :: '\n' :: cs | _, '\n' :: cs => skipGap false cs
  | comment, c :: cs =>
    if comment then if isTextChar c then skipGap true cs else none
    else if isBlank c then skipGap false cs
    else if c = '#' then skipGap true cs
    else some (c :: cs)

mutual

/-- A value inside `depth` others. -/
def readValue (fuel depth : Nat) (cs : List Char) : Option (Item × List Char) :=
  match fuel with
  | 0 => none
  | fuel + 1 =>
    match cs with
    | '"' :: rest => (readText '"' rest).map fun (s, rest) => (.text s, rest)
    | '\'' :: rest => (readText '\'' rest).map fun (s, rest) => (.text s, rest)
    | '[' :: rest =>
      if depth + 1 < deepest then
        ((skipGap false rest).bind (readItems fuel (depth + 1))).map fun (items, rest) =>
          (.list items, rest)
      else none
    | '\x7b' :: rest =>
      if depth + 1 < deepest then
        match rest.dropWhile isBlank with
        | '\x7d' :: rest => some (.other, rest)
        | rest => (readPairs fuel (depth + 1) [] rest).map fun rest => (.other, rest)
      else none
    | _ =>
      (skipWord "true".toList cs <|> skipWord "false".toList cs <|> skipNumber cs).map
        fun rest => (.other, rest)
termination_by structural fuel

/-- The items of an array up to its end; the last one may have a comma behind it. -/
def readItems (fuel depth : Nat) (cs : List Char) : Option (List Item × List Char) :=
  match fuel with
  | 0 => none
  | fuel + 1 =>
    match cs with
    | ']' :: rest => some ([], rest)
    | _ => do
      let (item, rest) ← readValue fuel depth cs
      match ← skipGap false rest with
      | ',' :: rest =>
        (readItems fuel depth (← skipGap false rest)).map fun (items, rest) => (item :: items, rest)
      | ']' :: rest => return ([item], rest)
      | _ => none
termination_by structural fuel

/-- The entries of a table in braces up to its end. -/
def readPairs (fuel depth : Nat) (entries : Entries) (cs : List Char) : Option (List Char) :=
  match fuel with
  | 0 => none
  | fuel + 1 => do
    let (path, key, rest) ← readKey cs
    match rest with
    | '=' :: rest =>
      let (item, rest) ← readValue fuel depth (rest.dropWhile isBlank)
      let entries ← put path key item entries
      match rest.dropWhile isBlank with
      | ',' :: rest => readPairs fuel depth entries rest
      | '\x7d' :: rest => return rest
      | _ => none
    | _ => none
termination_by structural fuel

end

/-! ## Lines -/

/-- What follows the end of a line, before which there may be blanks and a comment. -/
def endLine (cs : List Char) : Option (List Char) :=
  let cs := cs.dropWhile isBlank
  let cs := match cs with
    | '#' :: rest => rest.dropWhile isTextChar
    | cs => cs
  if cs.isEmpty then some [] else afterLineEnd? cs

/-- The key and value of a line. -/
def readSetting (cs : List Char) : Option (List String × String × Item × List Char) := do
  let (path, key, rest) ← readKey cs
  match rest with
  | '=' :: rest =>
    let (item, rest) ← readValue (rest.length + 1) 0 (rest.dropWhile isBlank)
    return (path, key, item, ← endLine rest)
  | _ => none

/-- The header of a table: its path, whether it opens an element of an array, and what follows the
line. -/
def readHeader (cs : List Char) : Option (List String × String × Bool × List Char) :=
  match cs with
  | '[' :: cs => do
    let (path, key, rest) ← readKey cs
    match rest with
    | ']' :: ']' :: rest => return (path, key, true, ← endLine rest)
    | _ => none
  | _ => do
    let (path, key, rest) ← readKey cs
    match rest with
    | ']' :: rest => return (path, key, false, ← endLine rest)
    | _ => none

/-- Read the lines, the first of which belongs to the table of the path `current`. -/
def readAll : (fuel : Nat) → (current : List String) → Entries → List Char → Option Entries
  | 0, _, _, _ => none
  | fuel + 1, current, entries, cs =>
    match cs.dropWhile isBlank with
    | [] => some entries
    | '#' :: rest => (endLine ('#' :: rest)).bind (readAll fuel current entries)
    | '\n' :: rest | '\r' :: '\n' :: rest => readAll fuel current entries rest
    | '[' :: rest => do
      let (path, key, isElement, rest) ← readHeader rest
      let entries ← within (if isElement then openElement key else openTable key) path entries
      readAll fuel (path ++ [key]) entries rest
    | rest => do
      let (path, key, item, rest) ← readSetting rest
      let entries ← within (put path key item) current entries
      readAll fuel current entries rest

/-- The entries of the outermost table of a text; a byte order mark may stand in front of them. -/
def ofText (text : String) : Option Entries :=
  let cs := match text.toList with
    | '\uFEFF' :: cs => cs
    | cs => cs
  readAll (cs.length + 1) [] [] cs

end Toml

end ComposePods

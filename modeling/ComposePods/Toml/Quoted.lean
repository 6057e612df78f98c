import ComposePods.Yaml.Quoted

/-!
# Texts of a configuration

A text stands between double quotes, where there are escapes, or between single quotes, where there
are none. Three quotes open a text of several lines, which may end in one or two quotes of its own.

* `Toml.isTextChar`: a character that may stand in a text or a comment;
* `Toml.readLine`: a text of one line; `Toml.readLines`: one of several; `Toml.readText`: either.
-/

namespace ComposePods

namespace Toml

/-- A character that may stand in a text or a comment: control characters other than the tab may
not. -/
def isTextChar (c : Char) : Bool := c == '\t' || (c.toNat ≥ 0x20 && c.toNat != 0x7F)

/-- A space or a tab. -/
def isBlank (c : Char) : Bool := c == ' ' || c == '\t'

/-- The character of an escape of one letter. -/
def escapedChar? (c : Char) : Option Char :=
  match c with
  | 'b' => some '\x08'
  | 't' => some '\t'
  | 'n' => some '\n'
  | 'f' => some '\x0C'
  | 'r' => some '\r'
  | '"' | '\\' => some c
  | _ => none

/-- How many digits follow the letter of an escape. -/
def escapeWidth? (c : Char) : Option Nat :=
  match c with
  | 'u' => some 4
  | 'U' => some 8
  | _ => none

/-- The character of an escape behind its backslash. -/
def readEscape : List Char → Option (Char × List Char)
  | [] => none
  | c :: cs =>
    match escapedChar? c, escapeWidth? c with
    | some d, _ => some (d, cs)
    | none, some width =>
      let digits := cs.take width
      if digits.length < width then none
      else ((Text.digits? 16 digits).bind Yaml.charOf?).map fun d => (d, cs.drop width)
    | none, none => none

/-- The text of one line up to the closing quote. -/
def readLine (quote : Char) :
    (fuel : Nat) → List Char → (read : List Char) → Option (String × List Char)
  | 0, _, _ | _, [], _ => none
  | fuel + 1, c :: cs, read =>
    if c = quote then some (String.ofList read.reverse, cs)
    else if c = '\\' && quote == '"' then
      (readEscape cs).bind fun (d, rest) => readLine quote fuel rest (d :: read)
    else if isTextChar c then readLine quote fuel cs (c :: read)
    else none

/-- What follows a line end, if there is one. -/
def afterLineEnd? : List Char → Option (List Char)
  | '\n' :: cs | '\r' :: '\n' :: cs => some cs
  | _ => none

/-- What follows blanks and line ends. -/
def skipBlankLines : List Char → List Char
  | '\r' :: '\n' :: cs => skipBlankLines cs
  | c :: cs => if c = '\n' || isBlank c then skipBlankLines cs else c :: cs
  | [] => []

/-- The text of several lines up to three closing quotes. A backslash at the end of a line takes
away the line end and all blanks behind it. -/
def readLines (quote : Char) :
    (fuel : Nat) → List Char → (read : List Char) → Option (String × List Char)
  | 0, _, _ | _, [], _ => none
  | fuel + 1, c :: cs, read =>
    if c = quote then
      let quotes := c :: cs.takeWhile (· == quote)
      let rest := cs.dropWhile (· == quote)
      if quotes.length < 3 then readLines quote fuel rest (quotes ++ read)
      else if quotes.length ≤ 5 then some (String.ofList (quotes.drop 3 ++ read).reverse, rest)
      else none
    else if c = '\\' && quote == '"' then
      match afterLineEnd? (cs.dropWhile isBlank) with
      | some rest => readLines quote fuel (skipBlankLines rest) read
      | none => (readEscape cs).bind fun (d, rest) => readLines quote fuel rest (d :: read)
    else match afterLineEnd? (c :: cs) with
      | some rest => readLines quote fuel rest ('\n' :: read)
      | none => if isTextChar c then readLines quote fuel cs (c :: read) else none

/-- The text behind its first quote. -/
def readText (quote : Char) (cs : List Char) : Option (String × List Char) :=
  match cs with
  | a :: b :: rest =>
    if a = quote && b = quote then
      let rest := (afterLineEnd? rest).getD rest
      readLines quote (rest.length + 1) rest []
    else readLine quote (cs.length + 1) cs []
  | _ => readLine quote (cs.length + 1) cs []

end Toml

end ComposePods

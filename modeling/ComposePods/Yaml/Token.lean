import ComposePods.Yaml.PlainText
import ComposePods.Yaml.Quoted
import ComposePods.Yaml.Tag

/-!
# Tokens

A text is read as a list of tokens. Indentation becomes tokens that open and close blocks. Where a
key may start, its place is kept in mind: when a colon follows, a token for the key is put in front
of it afterwards. A token is delivered as soon as nothing can be put in front of it any more, so the
tokens before an error are all those that were certain by then.

* `Token`, `ScalarForm`;
* `KeyMark`: a place where a key may have started;
* `Scanner`, `Scanner.fetch`, `Scanner.settle`;
* `Token.ofText`: the tokens of a text; the last one is `Token.streamEnd` unless there is an error.
-/

namespace ComposePods

/-- How a scalar is written, as far as it matters for what it stands for. -/
inductive ScalarForm where
  | plain
  | literal
  /-- Between quotes, or as a folded block. -/
  | quoted
  deriving DecidableEq

/-- The words of a text. -/
inductive Token where
  | streamEnd
  | directive (directive : Yaml.Directive)
  | documentStart
  | documentEnd
  | blockSequence
  | blockMapping
  | blockEnd
  | openBracket
  | closeBracket
  | openBrace
  | closeBrace
  | dash
  | comma
  | key
  | value
  | alias (name : String)
  | anchor (name : String)
  | tag (tag : Yaml.WrittenTag)
  | scalar (form : ScalarForm) (text : String)
  deriving DecidableEq

/-- A place where a key may have started. -/
structure KeyMark where
  /-- The number of the token at that place. -/
  token : Nat
  position : Position
  /-- The place is where the block's next key has to start. -/
  required : Bool

/-- How many characters a key before a colon may have at most. -/
def KeyMark.reach : Nat := 1024

/-- A key that starts there cannot go on up to the position: it has one line and not too many
characters. -/
def KeyMark.isStale (k : KeyMark) (p : Position) : Bool :=
  k.position.line < p.line || k.position.column + KeyMark.reach < p.column

/-- A text while it is read. -/
structure Scanner where
  rest : List Char
  position : Position
  /-- The column of the innermost block, or `-1`. -/
  indent : Int
  /-- The columns of the blocks around it, innermost first. -/
  indents : List Int
  /-- A key may start here. -/
  keyAllowed : Bool
  /-- The place where a key may have started inside the innermost brackets. -/
  key : Option KeyMark
  /-- The same for the brackets around them; empty outside of brackets. -/
  outerKeys : List (Option KeyMark)
  /-- How many tokens have been delivered. -/
  delivered : Nat
  /-- The tokens that have been read and not been delivered. -/
  queue : List Token

namespace Scanner

/-- The start of a text. -/
def start (cs : List Char) : Scanner where
  rest := cs
  position := .start
  indent := -1
  indents := []
  keyAllowed := true
  key := none
  outerKeys := []
  delivered := 0
  queue := []

/-- Reading is inside brackets. -/
def inFlow (s : Scanner) : Bool := !s.outerKeys.isEmpty

/-- Add a token at the end. -/
def emit (s : Scanner) (t : Token) : Scanner := { s with queue := s.queue ++ [t] }

/-- Put a token in front of the token of the given number. -/
def insert (s : Scanner) (number : Nat) (t : Token) : Scanner :=
  let place := number - s.delivered
  { s with queue := s.queue.take place ++ t :: s.queue.drop place }

/-- Go on behind some characters of the line. -/
def advance (s : Scanner) (count : Nat) (rest : List Char) : Scanner :=
  { s with rest, position := s.position.right count }

/-! ## Keys -/

/-- A place that has not become stale; a stale place where a key has to start is an error. -/
def freshen? (p : Position) : Option KeyMark → Option (Option KeyMark)
  | none => some none
  | some k => if !k.isStale p then some (some k) else if k.required then none else some none

/-- Forget the places that have become stale. -/
def dropStale (s : Scanner) : Option Scanner := do
  let outerKeys ← s.outerKeys.reverse.mapM (freshen? s.position)
  let key ← freshen? s.position s.key
  return { s with key, outerKeys := outerKeys.reverse }

/-- Forget the place inside the innermost brackets; no key can start there any more. -/
def dropKey (s : Scanner) : Option Scanner :=
  if s.key.any (·.required) then none else some { s with key := none }

/-- Keep the position in mind if a key may start at it. -/
def markKey (s : Scanner) : Option Scanner :=
  if s.keyAllowed then
    s.dropKey.map fun s =>
      { s with key := some {
          token := s.delivered + s.queue.length
          position := s.position
          required := !s.inFlow && s.indent == s.position.column } }
  else some s

/-- A key may have started at the first token that has not been delivered. -/
def isHeadOpen (s : Scanner) : Bool :=
  (s.key :: s.outerKeys).any fun k => k.any (·.token == s.delivered)

/-! ## Blocks -/

/-- Open a block at a column, unless a block that is indented as much is open already. -/
def openBlock (s : Scanner) (column : Nat) (number : Option Nat) (t : Token) : Scanner :=
  if s.inFlow || s.indent ≥ column then s
  else
    let s := { s with indents := s.indent :: s.indents, indent := column }
    match number with
    | some n => s.insert n t
    | none => s.emit t

/-- The number of blocks to be closed, and the columns of the others. -/
def blocksBehind (column : Int) : Int → List Int → Nat × Int × List Int
  | indent, [] => (0, indent, [])
  | indent, outer :: rest =>
    if indent > column then
      let (n, indent, indents) := blocksBehind column outer rest
      (n + 1, indent, indents)
    else (0, indent, outer :: rest)

/-- Close the blocks that are indented by more than a column. -/
def closeBlocks (s : Scanner) (column : Int) : Scanner :=
  if s.inFlow then s
  else
    let (n, indent, indents) := blocksBehind column s.indent s.indents
    { s with indent, indents, queue := s.queue ++ List.replicate n .blockEnd }

/-! ## Single tokens -/

/-- The end of the text. -/
def fetchEnd (s : Scanner) : Option Scanner := do
  let position := if s.position.column = 0 then s.position else s.position.nextLine
  let s ← ({ s with position }.closeBlocks (-1)).dropKey
  return { s with keyAllowed := false }.emit .streamEnd

/-- A directive. -/
def fetchDirective (s : Scanner) (cs : List Char) : Option Scanner := do
  let s ← (s.closeBlocks (-1)).dropKey
  let (directive, rest) ← Yaml.readDirective cs
  return { s with
    keyAllowed := false, rest, position := s.position.nextLine }.emit (.directive directive)

/-- The marker of the start or the end of a document. -/
def fetchMarker (s : Scanner) (t : Token) (cs : List Char) : Option Scanner := do
  let s ← (s.closeBlocks (-1)).dropKey
  return ({ s with keyAllowed := false }.advance 3 (cs.drop 2)).emit t

/-- An opening bracket or brace. -/
def fetchOpening (s : Scanner) (t : Token) (cs : List Char) : Option Scanner := do
  let s ← s.markKey
  return ({ s with
    key := none, outerKeys := s.key :: s.outerKeys, keyAllowed := true }.advance 1 cs).emit t

/-- A closing bracket or brace. -/
def fetchClosing (s : Scanner) (t : Token) (cs : List Char) : Option Scanner := do
  let s ← s.dropKey
  let s := match s.outerKeys with
    | [] => s
    | key :: outerKeys => { s with key, outerKeys }
  return ({ s with keyAllowed := false }.advance 1 cs).emit t

/-- A comma inside brackets. -/
def fetchComma (s : Scanner) (cs : List Char) : Option Scanner := do
  let s ← s.dropKey
  return ({ s with keyAllowed := true }.advance 1 cs).emit .comma

/-- The mark of an item. -/
def fetchDash (s : Scanner) (cs : List Char) : Option Scanner := do
  let s ←
    if s.inFlow then some s
    else if s.keyAllowed then some (s.openBlock s.position.column none .blockSequence)
    else none
  let s ← s.dropKey
  return ({ s with keyAllowed := true }.advance 1 cs).emit .dash

/-- The mark of a key. -/
def fetchKey (s : Scanner) (cs : List Char) : Option Scanner := do
  let s ←
    if s.inFlow then some s
    else if s.keyAllowed then some (s.openBlock s.position.column none .blockMapping)
    else none
  let s ← s.dropKey
  return ({ s with keyAllowed := !s.inFlow }.advance 1 cs).emit .key

/-- The mark of a value. What may have been a key is one. -/
def fetchValue (s : Scanner) (cs : List Char) : Option Scanner := do
  let s ← match s.key with
    | some k =>
      let s := (s.insert k.token .key).openBlock k.position.column (some k.token) .blockMapping
      some { s with key := none, keyAllowed := false }
    | none =>
      if s.inFlow then some { s with keyAllowed := false }
      else if s.keyAllowed then some (s.openBlock s.position.column none .blockMapping)
      else none
  return (s.advance 1 cs).emit .value

/-- An anchor or an alias: a word behind its mark. -/
def fetchName (s : Scanner) (token : String → Token) (cs : List Char) : Option Scanner := do
  let s ← s.markKey
  let word := cs.takeWhile Yaml.isWordChar
  let rest := cs.dropWhile Yaml.isWordChar
  let ends := Yaml.gapAhead rest || rest.head?.any fun c => "?:,]\x7d%@\x60".toList.contains c
  if word.isEmpty || !ends then none
  else
    return ({ s with keyAllowed := false }.advance (word.length + 1) rest).emit
      (token (String.ofList word))

/-- A tag. -/
def fetchTag (s : Scanner) (cs : List Char) : Option Scanner := do
  let s ← s.markKey
  let (tag, count, rest) ← Yaml.readTag s.inFlow cs
  return ({ s with keyAllowed := false }.advance (count + 1) rest).emit (.tag tag)

/-- A block of lines. -/
def fetchBlock (s : Scanner) (literal : Bool) (cs : List Char) : Option Scanner := do
  let s ← s.dropKey
  let (text, rest, position) ← Yaml.readBlock literal s.indent cs (s.position.right 1)
  return { s with keyAllowed := true, rest, position }.emit
    (.scalar (if literal then .literal else .quoted) (String.ofList text))

/-- A quoted scalar. -/
def fetchQuoted (s : Scanner) (quote : Char) (cs : List Char) : Option Scanner := do
  let s ← s.markKey
  let p := s.position.right 1
  let (text, rest, position) ←
    if quote = '\'' then Yaml.readSingleQuoted cs p .none []
    else Yaml.readDoubleQuoted .outside cs p .none []
  return { s with keyAllowed := false, rest, position }.emit (.scalar .quoted (String.ofList text))

/-- A plain scalar. -/
def fetchPlain (s : Scanner) (cs : List Char) : Option Scanner := do
  let s ← s.markKey
  let t ← Yaml.readPlain s.inFlow (s.indent + 1).toNat cs s.position .none []
  return { s with keyAllowed := t.broken, rest := t.rest, position := t.position }.emit
    (.scalar .plain (String.ofList t.text))

/-- A character with which no plain scalar starts. -/
def isIndicator (c : Char) : Bool := "-?:,[]\x7b\x7d#&*!|>'\"%@\x60".toList.contains c

/-! ## All tokens -/

/-- Read one more token, with those that indentation asks for. -/
def fetch (s : Scanner) : Option Scanner := do
  let (rest, position, keyAllowed) := Yaml.skipGap s.inFlow false s.keyAllowed s.rest s.position
  let s ← { s with rest, position, keyAllowed }.dropStale
  let s := s.closeBlocks s.position.column
  match s.rest with
  | [] => s.fetchEnd
  | c :: cs =>
    let spaced := Yaml.gapAhead cs
    let first := s.position.column == 0
    if first && c == '%' then s.fetchDirective cs
    else if first && Yaml.markerAhead (c :: cs) then
      s.fetchMarker (if c = '-' then .documentStart else .documentEnd) cs
    else if c = '[' then s.fetchOpening .openBracket cs
    else if c = '\x7b' then s.fetchOpening .openBrace cs
    else if c = ']' then s.fetchClosing .closeBracket cs
    else if c = '\x7d' then s.fetchClosing .closeBrace cs
    else if c = ',' then s.fetchComma cs
    else if c = '-' && spaced then s.fetchDash cs
    else if c = '?' && (s.inFlow || spaced) then s.fetchKey cs
    else if c = ':' && (s.inFlow || spaced) then s.fetchValue cs
    else if c = '*' then s.fetchName .alias cs
    else if c = '&' then s.fetchName .anchor cs
    else if c = '!' then s.fetchTag cs
    else if (c = '|' || c = '>') && !s.inFlow then s.fetchBlock (c = '|') cs
    else if c = '\'' || c = '"' then s.fetchQuoted c cs
    else if (!Yaml.isBlank c && !isIndicator c) || c = '-' ||
        (!s.inFlow && (c = '?' || c = ':')) then
      s.fetchPlain (c :: cs)
    else none

/-- Read tokens until the first one is certain. -/
def settle : (fuel : Nat) → Scanner → Option Scanner
  | 0, _ => none
  | fuel + 1, s =>
    if s.queue.isEmpty then s.fetch.bind (settle fuel)
    else do
      let s ← s.dropStale
      if s.isHeadOpen then s.fetch.bind (settle fuel) else return s

/-- The tokens that can be delivered, up to the end of the text or an error. -/
def tokens (size : Nat) : (fuel : Nat) → Scanner → List Token
  | 0, _ => []
  | fuel + 1, s =>
    match s.settle (size + 3) with
    | none => []
    | some s =>
      match s.queue with
      | [] => []
      | .streamEnd :: _ => [.streamEnd]
      | t :: queue => t :: tokens size fuel { s with queue, delivered := s.delivered + 1 }

end Scanner

/-- The tokens of a text. A text with a character that is not allowed has none. -/
def Token.ofText (text : String) : List Token :=
  let cs := text.toList
  if cs.all Yaml.isAllowed then
    let cs := Yaml.unifyBreaks cs
    let size := cs.length
    Scanner.tokens size (4 * size + 8) (.start cs)
  else []

end ComposePods

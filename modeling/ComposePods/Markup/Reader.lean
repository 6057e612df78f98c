import ComposePods.Binary64.Read

/-!
# Reading templates

A reader takes something from the front of a text, or fails and takes nothing. Of two alternatives
the first that does not fail counts.

* `Reader`, `Reader.many`, `Reader.listOf`;
* `Reader.identifier`, `Reader.quoted`, `Reader.integer`, `Reader.real`, `Reader.path`.
-/

namespace ComposePods

namespace Markup

/-- Takes something from the front of a text. -/
abbrev Reader := StateT (List Char) Option

namespace Reader

/-- A character that separates words. -/
def isSpace (c : Char) : Bool := c == ' ' || c == '\t' || c == '\r' || c == '\n'

/-- Take the next character if it satisfies `p`. -/
def one (p : Char → Bool) : Reader Char
  | c :: cs => if p c then some (c, cs) else none
  | [] => none

/-- Take all next characters that satisfy `p`. -/
def run (p : Char → Bool) : Reader (List Char) := fun cs => some (cs.takeWhile p, cs.dropWhile p)

/-- Take all next characters that satisfy `p`, of which there must be one. -/
def run1 (p : Char → Bool) : Reader (List Char) := fun cs =>
  match cs.takeWhile p with
  | [] => none
  | taken => some (taken, cs.dropWhile p)

/-- Take a given text. -/
def exactly (s : String) : Reader Unit := fun cs =>
  let cs' := s.toList
  if cs'.isPrefixOf cs then some ((), cs.drop cs'.length) else none

/-- Take blanks, if there are any. -/
def blanks : Reader Unit := fun cs => some ((), cs.dropWhile isSpace)

/-- Take blanks, of which there must be one. -/
def blanks1 : Reader Unit := do
  let _ ← run1 isSpace

/-- Take a given text after blanks. -/
def symbol (s : String) : Reader Unit := do
  blanks
  exactly s

/-- Take a word and the blank after it. -/
def keyword (s : String) : Reader Unit := do
  symbol s
  let _ ← one isSpace

/-- Take something if it is there. -/
def maybe {α : Type} (r : Reader α) : Reader (Option α) := (some <$> r) <|> pure none

/-- Take something and tell whether it was there. -/
def present {α : Type} (r : Reader α) : Reader Bool := return (← maybe r).isSome

/-- Take as many as there are, at most `fuel`. -/
def upTo {α : Type} (r : Reader α) : (fuel : Nat) → Reader (List α)
  | 0 => pure []
  | fuel + 1 => (do return (← r) :: (← upTo r fuel)) <|> pure []

/-- Take as many as there are. -/
def many {α : Type} (r : Reader α) : Reader (List α) := fun cs => upTo r cs.length cs

/-- Take some with commas between them, at least one. -/
def listOf {α : Type} (r : Reader α) : Reader (List α) := do
  let first ← r
  return first :: (← many (do symbol ","; r))

/-! ## Names and literals -/

/-- A letter without marks, or an underscore. -/
def isNameStart (c : Char) : Bool := c.isAlpha || c == '_'

/-- A letter without marks, a digit or an underscore. -/
def isNameChar (c : Char) : Bool := c.isAlphanum || c == '_'

/-- The characters of a name. -/
def name : Reader (List Char) := do
  let c ← one isNameStart
  return c :: (← run isNameChar)

/-- A name after blanks. -/
def identifier : Reader String := do
  blanks
  return String.ofList (← name)

/-- A text between two quotes of a kind. -/
def between (quote : Char) : Reader (List Char) := do
  let _ ← one (· == quote)
  let inside ← run (· != quote)
  let _ ← one (· == quote)
  return inside

/-- A text between quotes of any kind, with its quotes. -/
def quotedText : Reader (Char × List Char) :=
  (return ('"', ← between '"')) <|> (return ('\'', ← between '\'')) <|>
    (return ('\x60', ← between '\x60'))

/-- A text between quotes, after blanks. There are no escapes. -/
def quoted : Reader String := do
  blanks
  return String.ofList (← quotedText).2

/-- Digits without a leading zero. -/
def digits : Reader (List Char) :=
  (return [← one (· == '0')]) <|> run1 Char.isDigit

/-- A sign, if there is one. -/
def sign : Reader (List Char) := (return [← one (· == '-')]) <|> pure []

/-- The characters of an integer. -/
def integerText : Reader (List Char) := do
  let s ← sign
  return s ++ (← digits)

/-- The integer that a sign and digits denote. -/
def integerOf : List Char → Option Int
  | '-' :: cs => (Text.digits? 10 cs).map fun n => -(n : Int)
  | cs => (Text.digits? 10 cs).map Int.ofNat

/-- An integer of 64 bits, after blanks. -/
def integer : Reader Int := do
  blanks
  match integerOf (← integerText) with
  | some i => if -(Nat.pow 2 63 : Int) ≤ i ∧ i < (Nat.pow 2 63 : Int) then return i else failure
  | none => failure

/-- A number with a point between digits, after blanks. -/
def real : Reader Binary64 := do
  blanks
  let whole ← integerText
  exactly "."
  let fraction ← run1 Char.isDigit
  match Binary64.read? (whole ++ '.' :: fraction) with
  | some x => return x
  | none => failure

/-! ## Paths -/

/-- One step of a path after its first name: a name or digits after a point, or an index in
brackets. -/
def pathStep (index : Reader (List Char)) : Reader (List Char) :=
  (do
    exactly "."
    return '.' :: (← run1 isNameChar)) <|>
  (do
    exactly "["
    let inside ← integerText <|> (do let (q, cs) ← quotedText; return q :: cs ++ [q]) <|> index
    exactly "]"
    return '[' :: inside ++ [']'])

/-- The characters of a path whose indices are nested at most `depth` deep. -/
def pathText : (depth : Nat) → Reader (List Char)
  | 0 => failure
  | depth + 1 => do
    let first ← name
    return first ++ (← many (pathStep (pathText depth))).flatten

/-- A path as it is written, after blanks. -/
def path : Reader String := do
  blanks
  return String.ofList (← fun cs => pathText cs.length cs)

end Reader

end Markup

end ComposePods

import ComposePods.Markup.Expression.Read

/-!
# Pieces of a template

A template is text in which tags stand. A tag may have a dash on either side, which cuts the white
space off the text there.

* `Tag`, `Piece`;
* `Piece.ofText?`: the pieces of a template.
-/

namespace ComposePods

namespace Markup

/-- What a tag says. -/
inductive Tag where
  | output (e : Expression)
  | comment
  | assign (shared : Bool) (name : String) (e : Expression)
  | choice (test : Expression)
  | otherChoice (test : Expression)
  | otherwise
  | endChoice
  | loop (key? : Option String) (value : String) (range : Expression)
  | endLoop
  | leave
  | next
  | filter (name : String) (args : List (String × Expression))
  | endFilter
  | block (name : String)
  | endBlock
  /-- A snippet with its parameters, which may have values of their own. -/
  | define (name : String) (parameters : List (String × Option Datum))
  | endDefine
  /-- A text that holds no tags, with its own dashes. -/
  | raw (dashBefore : Bool) (text : List Char) (dashAfter : Bool)
  /-- Another template, of which there is none. -/
  | inclusion (optional : Bool)
  /-- What a block holds in the template that this one extends, which does not exist. -/
  | extended

/-- A text, or a tag with the dashes on its sides. -/
inductive Piece where
  | text (cs : List Char)
  | tag (dashBefore : Bool) (t : Tag) (dashAfter : Bool)

namespace Reader

/-- The start of a tag, and whether it has a dash. -/
def opening (s : String) : Reader Bool := do
  exactly s
  present (exactly "-")

/-- The end of a tag after blanks, and whether it has a dash. -/
def closing (s : String) : Reader Bool := do
  blanks
  (do exactly "-"; exactly s; return true) <|> (do exactly s; return false)

/-- The word of a tag, which a blank must follow. -/
def command (s : String) : Reader Unit := do
  symbol s
  blanks1

/-- The variable of an assignment and its value. -/
def assignment : Reader (String × Expression) := do
  let name ← identifier
  symbol "="
  return (name, ← expression)

/-- The variables of a loop and what it runs over. -/
def loopHead : Reader Tag := do
  let first ← identifier
  let second ← maybe (do exactly ","; identifier)
  blanks1
  exactly "in"
  blanks1
  let range ← range
  match second with
  | some value => return .loop (some first) value range
  | none => return .loop none first range

/-- A value that a parameter may have. -/
def literal : Reader Datum :=
  (return .bool (← truth)) <|> (return .text (← quoted)) <|>
  (return .number (.real (← real))) <|> (return .number (.integer (← integer)))

/-- The parameters of a snippet, of which the last of a name stays. -/
def parameters : Reader (List (String × Option Datum)) := do
  symbol "("
  let ps ← maybe (listOf (do
    let name ← identifier
    return (name, ← maybe (do symbol "="; literal))))
  symbol ")"
  return (ps.getD []).foldl (fun kept p => kept.filter (·.1 != p.1) ++ [p]) []

/-- The names of other templates. -/
def inclusions : Reader Unit :=
  (do let _ ← quoted) <|> (do
    symbol "["
    let _ ← maybe (listOf quoted)
    let _ ← maybe (symbol ",")
    symbol "]")

/-- What stands inside a tag. -/
def tagBody : Reader Tag :=
  (do command "if"; return .choice (← condition)) <|>
  (do command "elif"; return .otherChoice (← condition)) <|>
  (do symbol "else"; return .otherwise) <|>
  (do symbol "endif"; return .endChoice) <|>
  (do command "for"; loopHead) <|>
  (do symbol "endfor"; return .endLoop) <|>
  (do symbol "break"; return .leave) <|>
  (do symbol "continue"; return .next) <|>
  (do
    command "set"
    let (name, e) ← assignment
    return .assign false name e) <|>
  (do
    command "set_global"
    let (name, e) ← assignment
    return .assign true name e) <|>
  (do
    command "filter"
    let (name, args) ← sectionFilter
    return .filter name args) <|>
  (do symbol "endfilter"; return .endFilter) <|>
  (do command "block"; return .block (← identifier)) <|>
  (do symbol "endblock"; let _ ← maybe identifier; return .endBlock) <|>
  (do command "macro"; let name ← identifier; return .define name (← parameters)) <|>
  (do symbol "endmacro"; let _ ← maybe identifier; return .endDefine) <|>
  (do
    command "include"
    inclusions
    return .inclusion (← present (do symbol "ignore"; symbol "missing")))

/-- A tag between percent signs. -/
def statement : Reader Piece := do
  let before ← opening "\x7b%"
  let t ← tagBody
  return .tag before t (← closing "%\x7d")

/-- A tag that holds one word. -/
def word (s : String) : Reader (Bool × Bool) := do
  let before ← opening "\x7b%"
  symbol s
  return (before, ← closing "%\x7d")

/-- The text before the tag that ends a raw text, and the dashes of that tag. -/
def rawText : (fuel : Nat) → Reader (List Char × Bool × Bool)
  | 0 => failure
  | fuel + 1 =>
    (return ([], ← word "endraw")) <|> (do
      let c ← one fun _ => true
      let (cs, dashes) ← rawText fuel
      return (c :: cs, dashes))

/-- A text that holds no tags. -/
def raw : Reader Piece := do
  let (before, inside) ← word "raw"
  let (cs, left, right) ← fun cs => rawText (cs.length + 1) cs
  return .tag before (.raw inside cs left) right

/-- The end of a comment after any text, and whether it has a dash. -/
def commentEnd : (fuel : Nat) → Reader Bool
  | 0 => failure
  | fuel + 1 =>
    (do exactly "-#\x7d"; return true) <|> (do exactly "#\x7d"; return false) <|> (do
      let _ ← one fun _ => true
      commentEnd fuel)

/-- A comment. -/
def comment : Reader Piece := do
  let before ← opening "\x7b#"
  return .tag before .comment (← fun cs => commentEnd (cs.length + 1) cs)

/-- A tag between two braces on either side. -/
def output : Reader Piece := do
  let before ← opening "\x7b\x7b"
  let e ← expression
  return .tag before (.output e) (← closing "\x7d\x7d")

/-- The call that stands for what the extended template holds. -/
def extended : Reader Piece := do
  let before ← opening "\x7b\x7b"
  symbol "super()"
  return .tag before .extended (← closing "\x7d\x7d")

/-- A tag may start here. -/
def startsTag : List Char → Bool
  | '\x7b' :: c :: _ => c == '\x7b' || c == '%' || c == '#'
  | _ => false

/-- The text up to the next tag. -/
def untilTag : List Char → List Char × List Char
  | [] => ([], [])
  | c :: cs =>
    if startsTag (c :: cs) then ([], c :: cs)
    else
      let (taken, rest) := untilTag cs
      (c :: taken, rest)

/-- A text that is not empty. -/
def text : Reader Piece := fun cs =>
  match untilTag cs with
  | ([], _) => none
  | (taken, rest) => some (.text taken, rest)

/-- The next piece. -/
def piece : Reader Piece := text <|> extended <|> output <|> comment <|> raw <|> statement

end Reader

/-- The pieces of a template, if it is made of pieces only. -/
def Piece.ofText? (s : String) : Option (List Piece) :=
  match Reader.many Reader.piece s.toList with
  | some (pieces, []) => some pieces
  | _ => none

end Markup

end ComposePods

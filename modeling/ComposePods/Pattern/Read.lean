import ComposePods.Binary64.Read
import ComposePods.Pattern

/-!
# Reading patterns

A pattern is written as a text in which most characters stand for themselves. Brackets group, a bar
separates alternatives, a character after a backslash has a special meaning or loses it.

* `Pattern.ofText?`.
-/

namespace ComposePods

namespace Pattern

/-- How characters and places are to be understood. -/
structure Mode where
  anyCase : Bool
  /-- Lines have a start and an end of their own. -/
  lines : Bool
  /-- The point stands for ends of lines, too. -/
  pointForAll : Bool

/-- The pattern of a single character. -/
def char (m : Mode) (c : Char) : Pattern := .one [.range c c] false m.anyCase

/-- The character of a code point in hexadecimal. -/
def codePoint? (digits : List Char) : Option Char := do
  let n ← Text.digits? 16 digits
  if n < 0xD800 ∨ (0xDFFF < n ∧ n < 0x110000) then some (Char.ofNat n) else none

/-- A code point of a given number of digits, or of any number between braces. -/
def takeCode (width : Nat) : List Char → Option (Char × List Char)
  | '\x7b' :: cs => do
    let digits := cs.takeWhile (· != '\x7d')
    match cs.drop digits.length with
    | _ :: rest => return (← codePoint? digits, rest)
    | [] => none
  | cs => do
    guard (width ≤ cs.length)
    return (← codePoint? (cs.take width), cs.drop width)

/-- A character may stand behind a backslash to stand for itself. -/
def isEscapable (c : Char) : Bool := c.toNat < 128 && !c.isAlphanum && c != '<' && c != '>'

/-- The class that a letter behind a backslash names. -/
def classOf? : Char → Option CharClass
  | 'd' => some (.digit false)
  | 'D' => some (.digit true)
  | 'w' => some (.word false)
  | 'W' => some (.word true)
  | 's' => some (.blank false)
  | 'S' => some (.blank true)
  | _ => none

/-- A class or a character after a backslash. -/
def takeEscape : List Char → Option (CharClass × List Char)
  | [] => none
  | c :: cs =>
    let single (r : Option (Char × List Char)) : Option (CharClass × List Char) :=
      r.map fun (c, rest) => (.range c c, rest)
    match classOf? c with
    | some k => some (k, cs)
    | none =>
      match c with
      | 't' => single (some ('\t', cs))
      | 'n' => single (some ('\n', cs))
      | 'r' => single (some ('\r', cs))
      | 'f' => single (some ('\x0c', cs))
      | 'v' => single (some ('\x0b', cs))
      | 'a' => single (some ('\x07', cs))
      | 'x' => single (takeCode 2 cs)
      | 'u' => single (takeCode 4 cs)
      | 'U' => single (takeCode 8 cs)
      | c => if isEscapable c then single (some (c, cs)) else none

/-! ## Classes between brackets -/

/-- The classes of a name between colons. -/
def namedClass? (name : String) : Option (List CharClass) :=
  match name with
  | "alpha" => some [.range 'a' 'z', .range 'A' 'Z']
  | "alnum" => some [.range 'a' 'z', .range 'A' 'Z', .range '0' '9']
  | "digit" => some [.range '0' '9']
  | "lower" => some [.range 'a' 'z']
  | "upper" => some [.range 'A' 'Z']
  | "word" => some [.range 'a' 'z', .range 'A' 'Z', .range '0' '9', .range '_' '_']
  | "xdigit" => some [.range '0' '9', .range 'a' 'f', .range 'A' 'F']
  | "space" => some [.range '\t' '\r', .range ' ' ' ']
  | "blank" => some [.range ' ' ' ', .range '\t' '\t']
  | "punct" => some [.range '!' '/', .range ':' '@', .range '[' '\x60', .range '\x7b' '~']
  | "graph" => some [.range '!' '~']
  | "print" => some [.range ' ' '~']
  | "cntrl" => some [.range '\x00' '\x1f', .range '\x7f' '\x7f']
  | "ascii" => some [.range '\x00' '\x7f']
  | _ => none

/-- A class between colons, of which the opening bracket and colon have been taken. -/
def takeNamed (cs : List Char) : Option (List CharClass × List Char) := do
  let name := cs.takeWhile Char.isAlpha
  match cs.drop name.length with
  | ':' :: ']' :: rest => return (← namedClass? (String.ofList name), rest)
  | _ => none

/-- One character or class inside brackets. -/
def takeItem : List Char → Option (CharClass × List Char)
  | '\\' :: cs => takeEscape cs
  | '[' :: _ => none
  | '&' :: '&' :: _ | '~' :: '~' :: _ | '-' :: '-' :: _ => none
  | c :: cs => some (.range c c, cs)
  | [] => none

/-- The classes up to the closing bracket. -/
def takeClasses : (fuel : Nat) → List Char → Option (List CharClass × List Char)
  | 0, _ => none
  | _, [] => none
  | _, ']' :: cs => some ([], cs)
  | fuel + 1, '[' :: ':' :: cs => do
    let (named, rest) ← takeNamed cs
    let (more, rest) ← takeClasses fuel rest
    return (named ++ more, rest)
  | fuel + 1, cs => do
    let (item, rest) ← takeItem cs
    match item, rest with
    | .range low low', '-' :: c :: after =>
      if c = ']' then
        return ([.range low low', .range '-' '-'], after)
      else
        let (high, rest) ← takeItem (c :: after)
        match high with
        | .range high _ =>
          guard (low ≤ high)
          let (more, rest) ← takeClasses fuel rest
          return (.range low high :: more, rest)
        | _ => none
    | item, rest =>
      let (more, rest) ← takeClasses fuel rest
      return (item :: more, rest)

/-- The classes after an opening bracket. A closing bracket or dashes at the start stand for
themselves. -/
def takeBracket (m : Mode) (cs : List Char) : Option (Pattern × List Char) := do
  let (negated, cs) := match cs with
    | '^' :: cs => (true, cs)
    | cs => (false, cs)
  let dashes := cs.takeWhile (· == '-')
  let start := dashes.map fun c => CharClass.range c c
  let (start, cs) := match cs.drop dashes.length with
    | ']' :: rest =>
      if dashes.isEmpty then ([CharClass.range ']' ']'], rest) else (start, ']' :: rest)
    | rest => (start, rest)
  let (classes, rest) ← takeClasses (cs.length + 1) cs
  return (.one (start ++ classes) negated m.anyCase, rest)

/-! ## Repetitions -/

/-- A number in decimal. -/
def takeNumber (cs : List Char) : Option (Nat × List Char) := do
  let digits := cs.takeWhile Char.isDigit
  return (← Text.digits? 10 digits, cs.drop digits.length)

/-- How often the part before is repeated, if that is said here. -/
def takeCount : List Char → Option (Option (Nat × Option Nat) × List Char)
  | '*' :: cs => some (some (0, none), cs)
  | '+' :: cs => some (some (1, none), cs)
  | '?' :: cs => some (some (0, some 1), cs)
  | '\x7b' :: cs => do
    let (least, rest) ← takeNumber cs
    match rest with
    | '\x7d' :: rest => return (some (least, some least), rest)
    | ',' :: '\x7d' :: rest => return (some (least, none), rest)
    | ',' :: rest =>
      let (most, rest) ← takeNumber rest
      match rest with
      | '\x7d' :: rest =>
        guard (least ≤ most)
        return (some (least, some most), rest)
      | _ => none
    | _ => none
  | cs => some (none, cs)

/-- The part with the repetitions that follow it. Whether they take much or little does not
matter. -/
def takeCounts : (fuel : Nat) → Pattern → List Char → Option (Pattern × List Char)
  | 0, _, _ => none
  | fuel + 1, p, cs => do
    match ← takeCount cs with
    | (none, rest) => return (p, rest)
    | (some (least, most), rest) =>
      let rest := match rest with
        | '?' :: rest => rest
        | rest => rest
      takeCounts fuel (.repeated p least most) rest

/-! ## Groups -/

/-- The mode after some letters, and what ends them. -/
def takeMode (on : Bool) (m : Mode) : List Char → Option (Mode × List Char)
  | 'i' :: cs => takeMode on { m with anyCase := on } cs
  | 'm' :: cs => takeMode on { m with lines := on } cs
  | 's' :: cs => takeMode on { m with pointForAll := on } cs
  | 'U' :: cs => takeMode on m cs
  | '-' :: cs => if on then takeMode false m cs else none
  | cs => some (m, cs)

/-- A group may have a name. -/
def takeName (cs : List Char) : Option (List Char) :=
  let name := cs.takeWhile fun c => c.isAlphanum || c == '_'
  match name, cs.drop name.length with
  | _ :: _, '>' :: rest => some rest
  | _, _ => none

/-- What an opening bracket starts: a group in some mode, or a mode for what follows. -/
inductive Start where
  | group (m : Mode) (rest : List Char)
  | mode (m : Mode) (rest : List Char)

/-- What an opening bracket starts. -/
def startOf (m : Mode) : List Char → Option Start
  | '?' :: 'P' :: '<' :: cs | '?' :: '<' :: cs => (takeName cs).map (.group m)
  | '?' :: cs => do
    match ← takeMode true m cs with
    | (m, ':' :: rest) => return .group m rest
    | (m', ')' :: rest) => if rest.length + 1 < cs.length then return .mode m' rest else none
    | _ => none
  | cs => some (.group m cs)

/-- The place that a letter behind a backslash names. -/
def anchorOf? : Char → Option Anchor
  | 'A' => some .textStart
  | 'z' => some .textEnd
  | 'b' => some .wordEdge
  | 'B' => some .noWordEdge
  | _ => none

/-- The characters that the point stands for. -/
def point (m : Mode) : Pattern :=
  if m.pointForAll then .one [] true false else .one [.range '\n' '\n'] true false

mutual

/-- Alternatives up to a closing bracket or the end. -/
def takeEither (m : Mode) : (fuel : Nat) → List Char → Option (Pattern × List Char)
  | 0, _ => none
  | fuel + 1, cs => do
    let (first, m, rest) ← takeSequence m fuel cs
    match rest with
    | '|' :: rest =>
      let (second, rest) ← takeEither m fuel rest
      return (.either first second, rest)
    | rest => return (first, rest)

/-- A sequence of parts, and the mode at its end. -/
def takeSequence (m : Mode) : (fuel : Nat) → List Char → Option (Pattern × Mode × List Char)
  | 0, _ => none
  | _, [] => some (.nothing, m, [])
  | fuel + 1, c :: cs =>
    let part (p : Pattern) (rest : List Char) : Option (Pattern × Mode × List Char) := do
      let (p, rest) ← takeCounts (rest.length + 1) p rest
      let (more, m, rest) ← takeSequence m fuel rest
      return (.sequence p more, m, rest)
    if c = '|' || c = ')' then some (.nothing, m, c :: cs)
    else if c = '*' || c = '+' || c = '?' || c = '\x7b' then none
    else if c = '.' then part (point m) cs
    else if c = '^' then part (.place (if m.lines then .lineStart else .textStart)) cs
    else if c = '$' then part (.place (if m.lines then .lineEnd else .textEnd)) cs
    else if c = '[' then do
      let (p, rest) ← takeBracket m cs
      part p rest
    else if c = '(' then do
      match ← startOf m cs with
      | .mode m rest => takeSequence m fuel rest
      | .group inside rest =>
        let (p, rest) ← takeEither inside fuel rest
        match rest with
        | ')' :: rest => part p rest
        | _ => none
    else if c = '\\' then do
      match (cs.head?.bind anchorOf?) with
      | some a => part (.place a) (cs.drop 1)
      | none =>
        let (k, rest) ← takeEscape cs
        part (.one [k] false m.anyCase) rest
    else part (char m c) cs

end

/-- The pattern of a text, if it is well-formed. -/
def ofText? (s : String) : Option Pattern :=
  let cs := s.toList
  match takeEither ⟨false, false, false⟩ (2 * cs.length + 2) cs with
  | some (p, []) => some p
  | _ => none

end Pattern

end ComposePods

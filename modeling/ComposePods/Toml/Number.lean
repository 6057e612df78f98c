import ComposePods.Binary64.Read

/-!
# Numbers, dates and times of a configuration

No setting is a number or a date, so only what follows one is told.

* `Toml.skipInteger`, `Toml.skipReal`, `Toml.skipDate`, `Toml.skipTime`;
* `Toml.skipNumber`: any of them.
-/

namespace ComposePods

namespace Toml

/-- The digits at the start of a text, with single underscores between them, and what follows
them. -/
def readDigits (isDigit : Char → Bool) : List Char → Option (List Char × List Char)
  | [] => none
  | c :: cs =>
    if isDigit c then
      let more := match cs with
        | '_' :: cs => readDigits isDigit cs
        | cs => some ((readDigits isDigit cs).getD ([], cs))
      more.map fun (ds, rest) => (c :: ds, rest)
    else none

/-- The text behind an optional sign, and whether the sign is a minus. -/
def readSign : List Char → Bool × List Char
  | '-' :: cs => (true, cs)
  | '+' :: cs => (false, cs)
  | cs => (false, cs)

/-- Decimal digits that do not start with a zero, or a zero. -/
def readDecimal : List Char → Option (List Char × List Char)
  | '0' :: cs => some (['0'], cs)
  | cs => readDigits Char.isDigit cs

/-- An integer of 64 bits: decimal with a sign, or of another base without one. -/
def skipInteger (cs : List Char) : Option (List Char) :=
  let based (base : Nat) (cs : List Char) : Option (List Char) := do
    let (digits, rest) ← readDigits (fun c => (Text.digit? base c).isSome) cs
    if (← Text.digits? base digits) < Nat.pow 2 63 then some rest else none
  match cs with
  | '0' :: 'x' :: rest => based 16 rest
  | '0' :: 'o' :: rest => based 8 rest
  | '0' :: 'b' :: rest => based 2 rest
  | _ => do
    let (negative, cs) := readSign cs
    let (digits, rest) ← readDecimal cs
    let n ← Text.digits? 10 digits
    if n < Nat.pow 2 63 + (if negative then 1 else 0) then some rest else none

/-- The exponent at the start of a text: its characters, and what follows it. -/
def readExponent : List Char → Option (List Char × List Char)
  | c :: cs =>
    if c = 'e' || c = 'E' then
      let (negative, cs) := readSign cs
      (readDigits Char.isDigit cs).map fun (digits, rest) =>
        ((if negative then ['e', '-'] else ['e']) ++ digits, rest)
    else none
  | [] => none

/-- The digits behind a point, and what follows them. -/
def readFraction : List Char → Option (List Char × List Char)
  | '.' :: cs => (readDigits Char.isDigit cs).map fun (digits, rest) => ('.' :: digits, rest)
  | _ => none

/-- A word at the start of a text. -/
def skipWord (word : List Char) (cs : List Char) : Option (List Char) :=
  if word.isPrefixOf cs then some (cs.drop word.length) else none

/-- A number with a fraction, an exponent or both, that is not too large, or a word for one that is
no such number. -/
def skipReal (cs : List Char) : Option (List Char) :=
  let (negative, cs) := readSign cs
  let decimal : Option (List Char) := do
    let (whole, rest) ← readDecimal cs
    let (text, rest) ←
      match readExponent rest, readFraction rest with
      | some (e, rest), _ => some (whole ++ e, rest)
      | none, some (f, rest) =>
        match readExponent rest with
        | some (e, rest) => some (whole ++ f ++ e, rest)
        | none => some (whole ++ f, rest)
      | none, none => none
    let x ← Binary64.read? text
    if x.isFinite || negative then some rest else none
  decimal <|> skipWord "inf".toList cs <|> skipWord "nan".toList cs

/-- The number of exactly so many digits, within bounds. -/
def readFixed (width low high : Nat) (cs : List Char) : Option (Nat × List Char) :=
  let digits := cs.take width
  if digits.length = width && digits.all Char.isDigit then
    ((Text.digits? 10 digits).filter fun n => low ≤ n ∧ n ≤ high).map fun n => (n, cs.drop width)
  else none

/-- A character at the start of a text. -/
def skipChar (expected : Char → Bool) : List Char → Option (List Char)
  | [] => none
  | c :: cs => if expected c then some cs else none

/-- The number of days of a month. -/
def daysOf (year month : Nat) : Nat :=
  if month = 2 then
    if year % 4 = 0 ∧ (year % 100 ≠ 0 ∨ year % 400 = 0) then 29 else 28
  else if month = 4 ∨ month = 6 ∨ month = 9 ∨ month = 11 then 30
  else 31

/-- Hours, minutes and seconds, with an optional fraction. -/
def skipTime (cs : List Char) : Option (List Char) := do
  let (_, cs) ← readFixed 2 0 23 cs
  let cs ← skipChar (· == ':') cs
  let (_, cs) ← readFixed 2 0 59 cs
  let cs ← skipChar (· == ':') cs
  let (_, cs) ← readFixed 2 0 60 cs
  match cs with
  | '.' :: d :: rest => if d.isDigit then return rest.dropWhile Char.isDigit else return cs
  | _ => return cs

/-- How far the time is ahead of or behind the universal one. -/
def skipOffset (cs : List Char) : Option (List Char) :=
  skipChar (fun c => c == 'Z' || c == 'z') cs <|> do
    let cs ← skipChar (fun c => c == '+' || c == '-') cs
    let (_, cs) ← readFixed 2 0 23 cs
    let cs ← skipChar (· == ':') cs
    let (_, cs) ← readFixed 2 0 59 cs
    return cs

/-- A date that exists, with an optional time behind it. -/
def skipDate (cs : List Char) : Option (List Char) := do
  let (year, cs) ← readFixed 4 0 9999 cs
  let cs ← skipChar (· == '-') cs
  let (month, cs) ← readFixed 2 1 12 cs
  let cs ← skipChar (· == '-') cs
  let (_, cs) ← readFixed 2 1 (daysOf year month) cs
  match (skipChar (fun c => c == 'T' || c == 't' || c == ' ') cs).bind skipTime with
  | none => return cs
  | some cs => return (skipOffset cs).getD cs

/-- What follows a number, a date or a time. -/
def skipNumber (cs : List Char) : Option (List Char) :=
  skipDate cs <|> skipTime cs <|> skipReal cs <|> skipInteger cs

end Toml

end ComposePods

import ComposePods.Markup.Filter.Arguments
import ComposePods.Text.Cluster
import ComposePods.Text.Replace
import ComposePods.Text.Tagged

/-!
# Filters on texts

* `Filter.onText`: the filters that turn a text into another text;
* `Filter.split?`, `Filter.wordCount?`, `Filter.toInteger`, `Filter.toReal?`: those with another
  result.
-/

namespace ComposePods

namespace Markup

namespace Filter

/-- Shorten a text to a number of characters as readers see them, and tell so at its end. -/
def truncate? (s : String) (args : Arguments) : Option String := do
  let length ← args.natural? "length" (some 255)
  let mark ← args.text? "end" (some "…")
  let clusters := Text.clusters s
  return if clusters.length ≤ length then s
    else String.ofList (clusters.take length).flatten ++ mark

/-- A text that an argument gives, in which backslashes stand for ends of lines and tabs. -/
def pattern? (args : Arguments) : Option String := (args.text? "pat" none).map Text.unescape

/-- Replace every occurrence of a text. -/
def replace? (s : String) (args : Arguments) : Option String := do
  return Text.replace (← args.text? "from" none) (← args.text? "to" none) s

/-- A line behind its indentation, unless it is blank and blank lines are left alone. -/
def indentLine (indentation : String) (blank : Bool) (line : String) : String :=
  if blank || Text.trimStart line ≠ "" then indentation ++ line else line

/-- Indent the lines of a text, the first one only if asked to. -/
def indent? (s : String) (args : Arguments) : Option String := do
  let indentation ← args.text? "prefix" (some "    ")
  let first ← args.bool? "first" (some false)
  let blank ← args.bool? "blank" (some false)
  return match Text.lines s with
    | [] => ""
    | line :: lines =>
      String.intercalate "\n" ((if first then indentation ++ line else line) ::
        lines.map (indentLine indentation blank))

/-- The text with a backslash before backslashes and quotes. -/
def addSlashes (s : String) : String :=
  String.ofList (s.toList.flatMap fun c =>
    if c = '\\' || c = '"' || c = '\'' then ['\\', c] else [c])

/-- Write ends of lines as web pages do. -/
def breakLines (s : String) : String := Text.replace "\n" "<br>" (Text.replace "\r\n" "<br>" s)

/-- The filters that turn a text into a text. -/
def onText (name : String) : Option (String → Arguments → Option String) :=
  let plain (f : String → String) : Option (String → Arguments → Option String) :=
    some fun s _ => some (f s)
  match name with
  | "upper" => plain Text.upper
  | "lower" => plain Text.lower
  | "trim" => plain Text.trim
  | "trim_start" => plain Text.trimStart
  | "trim_end" => plain Text.trimEnd
  | "trim_start_matches" => some fun s args => return Text.dropStart (← pattern? args) s
  | "trim_end_matches" => some fun s args => return Text.dropFinish (← pattern? args) s
  | "truncate" => some truncate?
  | "replace" => some replace?
  | "capitalize" => plain Text.capitalize
  | "title" => plain Text.title
  | "linebreaksbr" => plain breakLines
  | "indent" => some indent?
  | "striptags" => plain Text.stripTags
  | "spaceless" => plain Text.closeTags
  | "escape" => plain Text.escapeHtml
  | "escape_xml" => plain Text.escapeXml
  | "addslashes" => plain addSlashes
  | _ => none

/-- The number of words of a text. -/
def wordCount? (d : Datum) (_ : Arguments) : Option Datum := do
  return .ofNat (Text.words (← Arguments.asText d)).length

/-- The parts of a text between the occurrences of another one. -/
def split? (d : Datum) (args : Arguments) : Option Datum := do
  return .ofTexts (Text.parts (← pattern? args) (← Arguments.asText d))

/-! ## Numbers in texts -/

/-- The value of digits in a base up to 36. -/
def digitsIn? (base : Nat) : List Char → Option Nat
  | [] => none
  | cs => cs.foldlM (fun n c => do
      let digit := if c.isDigit then c.toNat - 48 else if c.isLower then c.toNat - 87
        else if c.isUpper then c.toNat - 55 else base
      if digit < base then some (n * base + digit) else none) 0

/-- The integer of 64 bits that a text is in a base. -/
def integerIn? (base : Nat) (cs : List Char) : Option Int := do
  let i ← match cs with
    | '-' :: digits => (digitsIn? base digits).map fun n => -(n : Int)
    | '+' :: digits => (digitsIn? base digits).map Int.ofNat
    | digits => (digitsIn? base digits).map Int.ofNat
  if isSigned i then some i else none

/-- The number that a text is; words name those that are not finite. -/
def realIn? (s : String) : Option Binary64 :=
  let (negative, cs) := match s.toList with
    | '-' :: cs => (true, cs)
    | '+' :: cs => (false, cs)
    | cs => (false, cs)
  let word := (String.ofList cs).toLower
  if word = "inf" || word = "infinity" then some (.infinity negative)
  else if word = "nan" then some .nan
  else Binary64.readMagnitude? negative cs

/-- The signed word that a number is cut off to. -/
def cutOff (x : Binary64) : Int :=
  if x.isNaN then 0
  else if x.isInfinite then
    clamp (if x.negative then -(Nat.pow 2 63 : Int) else (Nat.pow 2 63 : Int))
  else clamp x.truncate

/-- The mark before the digits of a base. -/
def baseMark (base : Nat) : String :=
  if base = 2 then "0b" else if base = 8 then "0o" else if base = 16 then "0x" else ""

/-- The integer that a text is in a base, or the value given for those that are none. -/
def integerOr (standard : Int) (base : Nat) (s : String) : Int :=
  let s := Text.dropStart (baseMark base) (Text.trim s)
  match integerIn? base s.toList with
  | some i => i
  | none => if s.toList.contains '.' then ((realIn? s).map cutOff).getD standard else standard

/-- The integer that a text or a number is, or the value given for those that are none. There are
digits for a text in the bases from 2 to 36 only. -/
def toInteger (d : Datum) (args : Arguments) : Except Refusal Datum := do
  let standard ← Refusal.demand (args.integer? "default" (some 0))
  let base ← Refusal.demand (args.shortNatural? "base" (some 10))
  match d with
  | .text s =>
    if base < 2 ∨ 36 < base then throw (.aborted .base)
    return .number (.integer (integerOr standard base s))
  | .number n => return .number (.integer (cutOff n.toReal))
  | _ => throw .unsuitable

/-- The number that a text or a number is, or the value given for texts that are none. -/
def toReal? (d : Datum) (args : Arguments) : Option Datum := do
  let standard ← args.real? "default" (some (.zero false))
  match d with
  | .text s => return .ofReal ((realIn? (Text.trim s)).getD standard)
  | .number n => return .ofReal n.toReal
  | _ => none

end Filter

end Markup

end ComposePods

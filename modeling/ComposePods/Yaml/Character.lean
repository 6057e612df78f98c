/-!
# Characters of documents

Which characters a document may hold, which of them end a line, and which may stand in names.

* `Yaml.isBreak`, `Yaml.isBlank`, `Yaml.isGap`, `Yaml.gapAhead`;
* `Yaml.isAllowed`: a character that a text may hold, `Yaml.isPrintable`: one that is written as it
  is;
* `Yaml.isWordChar`, `Yaml.isTagChar`, `Yaml.isFlowMark`;
* `Yaml.unifyBreaks`: a text in which most line ends are the same.
-/

namespace ComposePods

namespace Yaml

/-- A character that ends a line. -/
def isBreak (c : Char) : Bool :=
  c == '\n' || c == '\r' || c.toNat == 0x85 || c.toNat == 0x2028 || c.toNat == 0x2029

/-- A space or a tab. -/
def isBlank (c : Char) : Bool := c == ' ' || c == '\t'

/-- A character after which a word has ended: white space or the end of a line. -/
def isGap (c : Char) : Bool := isBlank c || c == '\x00' || isBreak c

/-- The text has ended or goes on with a gap. -/
def gapAhead : List Char → Bool
  | [] => true
  | c :: _ => isGap c

/-- A character that a text may hold. -/
def isAllowed (c : Char) : Bool :=
  let n := c.toNat
  n == 0x09 || n == 0x0A || n == 0x0D || (0x20 ≤ n && n ≤ 0x7E) || n == 0x85 ||
    (0xA0 ≤ n && n != 0xFFFE && n != 0xFFFF)

/-- A character that may be written as it is. -/
def isPrintable (c : Char) : Bool :=
  let n := c.toNat
  n == 0x0A || (0x20 ≤ n && n ≤ 0x7E) ||
    (0xA0 ≤ n && n != 0xFEFF && n != 0xFFFE && n != 0xFFFF)

/-- The mark that may stand in front of a text. -/
def byteOrderMark : Char := '\uFEFF'

/-- A character of anchors, handles and directives. -/
def isWordChar (c : Char) : Bool := c.isAlphanum || c == '_' || c == '-'

/-- A character of a tag; `verbatim` says that the tag stands between angle brackets. -/
def isTagChar (verbatim : Bool) (c : Char) : Bool :=
  isWordChar c || ";/?:@&=+$.%!~*'()".toList.contains c || (verbatim && ",[]".toList.contains c)

/-- A character that has a meaning of its own inside brackets and braces. -/
def isFlowMark (c : Char) : Bool := ",[]\x7b\x7d".toList.contains c

/-- The text goes on with the marker of the start or the end of a document. -/
def markerAhead : List Char → Bool
  | a :: b :: c :: rest => a == b && b == c && (a == '-' || a == '.') && gapAhead rest
  | _ => false

/-- The text with one character for every line end; only the separators of lines and paragraphs stay
apart. -/
def unifyBreaks : List Char → List Char
  | [] => []
  | '\r' :: '\n' :: cs => '\n' :: unifyBreaks cs
  | c :: cs => (if c = '\r' ∨ c.toNat = 0x85 then '\n' else c) :: unifyBreaks cs

end Yaml

end ComposePods

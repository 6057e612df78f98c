import ComposePods.Text.Blank

/-!
# Parts of texts

* `Text.parts`: the parts of a text between the occurrences of another one;
* `Text.replace`: every occurrence of a text replaced;
* `Text.dropStart`, `Text.dropFinish`: occurrences cut off the ends;
* `Text.lines`.
-/

namespace ComposePods

namespace Text

/-- The parts of a text between the occurrences of `sep`. The empty text occurs around every
character. -/
def parts (sep s : String) : List String :=
  if sep = "" then "" :: s.toList.map (fun c => String.ofList [c]) ++ [""]
  else (splitOn sep.toList s.toList).map String.ofList

/-- Every occurrence of `old` replaced by `new`. -/
def replace (old new s : String) : String :=
  if old = "" then new ++ String.join (s.toList.map fun c => String.ofList [c] ++ new)
  else String.intercalate new (parts old s)

/-- The characters without the occurrences of `part` at their start; `fuel` bounds the number of
these. -/
def dropStartFrom (part : List Char) : (fuel : Nat) → List Char → List Char
  | 0, cs => cs
  | fuel + 1, cs =>
    if !part.isEmpty && part.isPrefixOf cs then
      dropStartFrom part fuel (cs.drop part.length)
    else cs

/-- The text without the occurrences of `part` at its start. -/
def dropStart (part s : String) : String :=
  String.ofList (dropStartFrom part.toList s.toList.length s.toList)

/-- The text without the occurrences of `part` at its end. -/
def dropFinish (part s : String) : String :=
  String.ofList (dropStartFrom part.toList.reverse s.toList.length s.toList.reverse).reverse

/-- The text ends with `part`. -/
def endsWith (part s : String) : Bool := part.toList.isSuffixOf s.toList

/-- A line without the return at its end. -/
def dropReturn (line : List Char) : List Char :=
  if line.getLast? = some '\r' then line.dropLast else line

/-- The lines of a text, without what ends them; nothing follows the end of the last line. -/
def lines (s : String) : List String :=
  let all := splitAt (· == '\n') s.toList
  let ended := all.dropLast.map dropReturn
  ((match all.getLast? with
    | some [] | none => ended
    | some last => ended ++ [last])).map String.ofList

/-- A text in which a backslash and a letter stand for the end of a line or a tab. -/
def unescape (s : String) : String := replace "\\t" "\t" (replace "\\n" "\n" s)

end Text

end ComposePods

import ComposePods.Text.Blank

/-!
# Text with markup of web pages

Texts may hold the tags of web pages. They can be taken out, brought closer together, or shown.

* `Text.stripTags`: the text without tags and comments;
* `Text.closeTags`: the text without white space between two tags;
* `Text.escapeHtml`, `Text.escapeXml`: the text in which no character starts a tag.
-/

namespace ComposePods

namespace Text

/-- The characters after the first occurrence of `part`, if it is on the same line. -/
def afterOnLine? (part : List Char) : List Char → Option (List Char)
  | [] => none
  | c :: cs =>
    if part.isPrefixOf (c :: cs) then some ((c :: cs).drop part.length)
    else if c = '\n' then none
    else afterOnLine? part cs

/-- The characters after the first closing bracket. -/
def afterBracket? : List Char → Option (List Char)
  | [] => none
  | c :: cs => if c = '>' then some cs else afterBracket? cs

/-- The characters after a comment or a tag, of which the opening bracket has been taken. -/
def afterTag? (cs : List Char) : Option (List Char) :=
  match cs with
  | '!' :: '-' :: '-' :: inside => afterOnLine? ['-', '-', '>'] inside <|> afterBracket? cs
  | _ => afterBracket? cs

/-- The characters without tags; `fuel` bounds their number. -/
def stripTagsFrom : (fuel : Nat) → List Char → List Char
  | 0, cs => cs
  | _, [] => []
  | fuel + 1, c :: cs =>
    if c = '<' then
      match afterTag? cs with
      | some rest => stripTagsFrom fuel rest
      | none => c :: stripTagsFrom fuel cs
    else c :: stripTagsFrom fuel cs

/-- The text without tags and comments. -/
def stripTags (s : String) : String := String.ofList (stripTagsFrom s.toList.length s.toList)

/-- The characters without white space between two brackets that face each other. -/
def closeTagsFrom : (fuel : Nat) → List Char → List Char
  | 0, cs => cs
  | _, [] => []
  | fuel + 1, c :: cs =>
    let rest := cs.dropWhile isBlank
    if c = '>' && rest.length < cs.length && rest.head? == some '<' then
      '>' :: '<' :: closeTagsFrom fuel (rest.drop 1)
    else c :: closeTagsFrom fuel cs

/-- The text without white space between two tags. -/
def closeTags (s : String) : String := String.ofList (closeTagsFrom s.toList.length s.toList)

/-- A character that stands for itself in a web page. -/
def htmlChar (c : Char) : List Char :=
  if c = '&' then "&amp;".toList
  else if c = '<' then "&lt;".toList
  else if c = '>' then "&gt;".toList
  else if c = '"' then "&quot;".toList
  else if c = '\'' then "&#x27;".toList
  else if c = '/' then "&#x2F;".toList
  else [c]

/-- The text that stands for itself in a web page. -/
def escapeHtml (s : String) : String := String.ofList (s.toList.flatMap htmlChar)

/-- A character that stands for itself in a document of elements. -/
def xmlChar (c : Char) : List Char :=
  if c = '&' then "&amp;".toList
  else if c = '<' then "&lt;".toList
  else if c = '>' then "&gt;".toList
  else if c = '"' then "&quot;".toList
  else if c = '\'' then "&apos;".toList
  else [c]

/-- The text that stands for itself in a document of elements. -/
def escapeXml (s : String) : String := String.ofList (s.toList.flatMap xmlChar)

end Text

end ComposePods

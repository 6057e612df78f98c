import ComposePods.Text.Unprintable

/-!
# Quoted text

Messages show a text between double quotes. Inside, a quote and a backslash follow a backslash, the
usual control characters have their one-letter escapes, and every other character that has no shape
of its own is shown by its code point.

* `Text.quote`.
-/

namespace ComposePods

namespace Text

/-- A code point in braces, in hexadecimal. -/
def codePoint (c : Char) : List Char :=
  '\\' :: 'u' :: '{' :: Nat.toDigits 16 c.toNat ++ ['}']

/-- A character inside quotes. -/
def escape (c : Char) : List Char :=
  if c = '"' then ['\\', '"']
  else if c = '\\' then ['\\', '\\']
  else if c = '\n' then ['\\', 'n']
  else if c = '\r' then ['\\', 'r']
  else if c = '\t' then ['\\', 't']
  else if c = '\x00' then ['\\', '0']
  else if isUnprintable c then codePoint c
  else [c]

/-- The text between double quotes. -/
def quote (s : String) : String :=
  String.ofList ('"' :: s.toList.flatMap escape ++ ['"'])

end Text

end ComposePods

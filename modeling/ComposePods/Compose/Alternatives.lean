import ComposePods.Typing.Form

/-!
# Texts, lists and numbers

The small types of properties that may be written in two ways, and how records and dictionaries are
written as values.

* `TextOrList`: a command or a list of arguments, one name or several;
* `TextOrNumber`: a size or a port;
* `Value.record`, `Value.ofPairs`, `Value.ofLabels`.
-/

namespace ComposePods

/-- The largest number of a property: that of 64 bits. -/
def largestCount : Nat := Nat.pow 2 64 - 1

namespace Value

/-- The value of a number. -/
def ofNat (n : Nat) : Value := .number (.integer n)

/-- A mapping of the fields that are set. -/
def record (fields : List (String × Option Value)) : Value :=
  .mapping (fields.filterMap fun f => f.2.map fun v => (.string f.1, v))

/-- A text, or null where there is none. -/
def ofTextOrNull : Option String → Value
  | none => .null
  | some s => .string s

/-- A mapping from the keys of a dictionary. -/
def ofDict {β : Type} (write : β → Value) (d : Dict β) : Value :=
  .mapping (d.entries.map fun e => (.string e.1, write e.2))

/-- Keys whose values may be missing. -/
def ofPairs : Dict (Option String) → Value := ofDict ofTextOrNull

/-- Keys and texts. -/
def ofLabels : Dict String → Value := ofDict .string

/-- A dictionary that is left out when it is empty. -/
def unlessEmpty {β : Type} (write : Dict β → Value) (d : Dict β) : Option Value :=
  if d.isEmpty then none else some (write d)

/-- A list that is left out when it is empty. -/
def listUnlessEmpty {β : Type} (write : β → Value) (xs : List β) : Option Value :=
  if xs.isEmpty then none else some (.sequence (xs.map write))

/-- Pairs without a repeated key at any depth, read by the rules of loosely written properties. -/
def pairsForm? (v : Value) : Option (Dict (Option String)) :=
  if v.keysDistinct then v.pairs?.toOption else none

end Value

/-- One text or a list of texts. -/
inductive TextOrList where
  | single (text : String)
  | list (texts : List String)
  deriving DecidableEq

namespace TextOrList

/-- All the texts. -/
def toList : TextOrList → List String
  | .single text => [text]
  | .list texts => texts

/-- Apply a function to every text. -/
def map (f : String → String) : TextOrList → TextOrList
  | .single text => .single (f text)
  | .list texts => .list (texts.map f)

def read? (v : Value) : Option TextOrList :=
  (.single <$> Form.text? v) <|> (.list <$> Form.listOf? Form.text? v)

def toValue : TextOrList → Value
  | .single text => .string text
  | .list texts => .strings texts

end TextOrList

/-- A number or a text. -/
inductive TextOrNumber where
  | number (n : Nat)
  | text (text : String)
  deriving DecidableEq

namespace TextOrNumber

def read? (v : Value) : Option TextOrNumber :=
  (.number <$> Form.natural? largestCount v) <|> (.text <$> Form.text? v)

def toValue : TextOrNumber → Value
  | .number n => .ofNat n
  | .text s => .string s

end TextOrNumber

end ComposePods

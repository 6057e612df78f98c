import ComposePods.Markup.Filter.List
import ComposePods.Markup.Filter.Number
import ComposePods.Markup.Filter.Text

/-!
# Filters

A filter turns a datum into another one. It fails on data and arguments of the wrong kind.

* `Filter.named?`: the filter of a name.
-/

namespace ComposePods

namespace Markup

/-- Turns a datum into another one, if it can. -/
abbrev Filter := Datum → Arguments → Except Refusal Datum

namespace Filter

/-- The number of characters, items or entries. -/
def length? (d : Datum) (_ : Arguments) : Option Datum :=
  match d with
  | .text s => some (.ofNat s.length)
  | .list items => some (.ofNat items.length)
  | .object entries => some (.ofNat entries.length)
  | .null | .bool _ | .number _ => none

/-- The characters or items from the last to the first. -/
def reverse? (d : Datum) (_ : Arguments) : Option Datum :=
  match d with
  | .text s => some (.text (String.ofList s.toList.reverse))
  | .list items => some (.list items.reverse)
  | .null | .bool _ | .number _ | .object _ => none

/-- The datum as JSON. -/
def toJson? (d : Datum) (args : Arguments) : Option Datum := do
  return .text (if ← args.bool? "pretty" (some false) then d.prettyJson else d.json)

/-- The filters for more than one kind of data. -/
def onDatum (name : String) : Option (Datum → Arguments → Option Datum) :=
  match name with
  | "wordcount" => some wordCount?
  | "split" => some split?
  | "float" => some toReal?
  | "pluralize" => some pluralize?
  | "round" => some round?
  | "length" => some length?
  | "reverse" => some reverse?
  | "json_encode" => some toJson?
  | "as_str" => some fun d _ => some (.text d.shown)
  | "get" => some entry?
  | _ => none

/-- A filter on texts as one on data. -/
def ofText (f : String → Arguments → Option String) (d : Datum) (args : Arguments) :
    Option Datum := do
  return .text (← f (← Arguments.asText d) args)

/-- A filter on lists as one on data. -/
def ofList (f : List Datum → Arguments → Option Datum) (d : Datum) (args : Arguments) :
    Option Datum := do
  f (← Arguments.asList d) args

/-- The filter of a name, if it is one that never breaks down. -/
def plain? (name : String) : Option (Datum → Arguments → Option Datum) :=
  onDatum name <|> (onText name).map ofText <|> (onList name).map ofList

/-- The filter of a name. -/
def named? [Machine] (name : String) : Option Filter :=
  match name with
  | "int" => some toInteger
  | "abs" => some abs
  | _ => (plain? name).map fun f d args => Refusal.demand (f d args)

end Filter

end Markup

end ComposePods

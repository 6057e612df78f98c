import ComposePods.Mapping
import ComposePods.Typing.Source

/-!
# Properties with several forms

A property that may take one of several forms is first taken as a value, and then each form is tried
in turn; the first that fits is taken. Why a form does not fit is never shown, so these readers give
an `Option`. A form that is a record fits a mapping of its fields, where a number may stand for the
field at that place, and also a sequence of its fields in order.

* `Form.text?`, `Form.natural?`, `Form.flag?`, `Form.listOf?`, `Form.mapping?`, `Form.optional?`;
* `Form.slots?`: the values of a record's fields.
-/

namespace ComposePods

namespace Form

variable {β : Type}

def text? : Value → Option String
  | .string s => some s
  | _ => none

/-- An integer from zero to `most`. -/
def natural? (most : Nat) : Value → Option Nat
  | .number (.integer i) => if 0 ≤ i ∧ i ≤ most then some i.toNat else none
  | _ => none

def flag? : Value → Option Bool
  | .bool b => some b
  | _ => none

/-- A sequence whose items all fit. -/
def listOf? (read : Value → Option β) : Value → Option (List β)
  | .sequence items => items.mapM read
  | _ => none

/-- A mapping of values, without a repeated key at any depth. -/
def mapping? : Value → Option Mapping
  | .mapping entries => if (Value.mapping entries).keysDistinct then some entries else none
  | _ => none

/-- Null for nothing, else what fits. -/
def optional? (read : Value → Option β) : Value → Option (Option β)
  | .null => some none
  | v => some <$> read v

/-- The place of a field among the known ones, given by name or by number. -/
def place? (known : List String) : Value → Option Nat
  | .string s => known.findIdx? (· == s)
  | .number (.integer i) => if 0 ≤ i ∧ i.toNat < known.length then some i.toNat else none
  | _ => none

/-- Put one entry into the slot of its field, unless the field is unknown or has its value. -/
def fill? (known : List String) (slots : List (Option Value)) (e : Value × Value) :
    Option (List (Option Value)) := do
  let i ← place? known e.1
  match slots[i]? with
  | some none => some (slots.set i (some e.2))
  | _ => none

/-- The values of a record's fields, from a mapping or from a sequence of them in order. -/
def slots? (known : List String) : Value → Option (List (Option Value))
  | .mapping entries => entries.foldlM (fill? known) (known.map fun _ => none)
  | .sequence items =>
    if items.length ≤ known.length then
      some (items.map some ++ List.replicate (known.length - items.length) none)
    else none
  | _ => none

/-- A field that may be left out. -/
def fieldOr? (default : β) (read : Value → Option β) : Option Value → Option β
  | none => some default
  | some v => read v

/-- A field that may be left out or null. -/
def field? (read : Value → Option β) : Option Value → Option (Option β) :=
  fieldOr? none (optional? read)

end Form

end ComposePods

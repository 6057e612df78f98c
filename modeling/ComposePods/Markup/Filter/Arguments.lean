import ComposePods.Binary64.Exact
import ComposePods.Markup.Arithmetic

/-!
# Arguments of filters and functions

Arguments are given by name. One that is given must have the right kind; one that is not given has a
standard value or is missing.

* `Arguments.text?`, `Arguments.bool?`, `Arguments.natural?`, `Arguments.integer?`,
  `Arguments.real?`.
-/

namespace ComposePods

namespace Markup

/-- The values of arguments under their names. -/
abbrev Arguments := List (String × Datum)

namespace Arguments

/-- The argument of a name as `kind` reads it, or the standard value. -/
def get? {α : Type} (kind : Datum → Option α) (args : Arguments) (name : String)
    (standard : Option α) : Option α :=
  match args.lookup name with
  | some d => kind d
  | none => standard

/-- A datum as a text. -/
def asText : Datum → Option String
  | .text s => some s
  | _ => none

/-- A datum as a truth value. -/
def asBool : Datum → Option Bool
  | .bool b => some b
  | _ => none

/-- A datum as an integer between two bounds. -/
def asInteger (low high : Int) : Datum → Option Int
  | .number (.integer i) => if low ≤ i ∧ i ≤ high then some i else none
  | _ => none

/-- A datum as a natural number of some bits. -/
def asNatural (bits : Nat) (d : Datum) : Option Nat :=
  (asInteger 0 ((Nat.pow 2 bits : Int) - 1) d).map Int.toNat

/-- A datum as a binary64 number. -/
def asReal : Datum → Option Binary64
  | .number n => some n.toReal
  | _ => none

/-- A datum as a list. -/
def asList : Datum → Option (List Datum)
  | .list items => some items
  | _ => none

def text? : Arguments → String → Option String → Option String := get? asText

def bool? : Arguments → String → Option Bool → Option Bool := get? asBool

/-- A natural number of 64 bits. -/
def natural? : Arguments → String → Option Nat → Option Nat := get? (asNatural 64)

/-- A natural number of 32 bits. -/
def shortNatural? : Arguments → String → Option Nat → Option Nat := get? (asNatural 32)

/-- A signed integer of 64 bits. -/
def integer? : Arguments → String → Option Int → Option Int :=
  get? (asInteger (-(Nat.pow 2 63 : Int)) ((Nat.pow 2 63 : Int) - 1))

/-- A signed integer of 32 bits. -/
def short? : Arguments → String → Option Int → Option Int :=
  get? (asInteger (-(Nat.pow 2 31 : Int)) ((Nat.pow 2 31 : Int) - 1))

def real? : Arguments → String → Option Binary64 → Option Binary64 := get? asReal

end Arguments

end Markup

end ComposePods

import ComposePods.Binary64.Read
import ComposePods.Value

/-!
# Plain scalars

A scalar without quotes stands for null, a boolean, a number or itself. Integers are decimal, or
hexadecimal, octal or binary behind `0x`, `0o` and `0b`, with an optional sign; digits that start
with a zero are text. Integers of more than 64 and at most 128 bits stand for no value at all.

* `Scalar.isNull`, `Scalar.bool?`, `Scalar.integer?`, `Scalar.real?`;
* `Scalar.Plain`, `Scalar.resolve`.
-/

namespace ComposePods

namespace Scalar

/-- The words for null. -/
def isNull (s : String) : Bool := s == "null" || s == "Null" || s == "NULL" || s == "~"

/-- The words for the booleans. -/
def bool? (s : String) : Option Bool :=
  if s = "true" ∨ s = "True" ∨ s = "TRUE" then some true
  else if s = "false" ∨ s = "False" ∨ s = "FALSE" then some false
  else none

/-- The characters without one sign in front. -/
def unsigned : List Char → List Char
  | '-' :: cs | '+' :: cs => cs
  | cs => cs

/-- Two or more digits of which the first is zero, with an optional sign. -/
def hasLeadingZero (cs : List Char) : Bool :=
  match unsigned cs with
  | '0' :: c :: rest => (c :: rest).all Char.isDigit
  | _ => false

/-- A number of one of the three marked bases. -/
def marked? : List Char → Option Nat
  | '0' :: 'x' :: rest => Text.digits? 16 rest
  | '0' :: 'o' :: rest => Text.digits? 8 rest
  | '0' :: 'b' :: rest => Text.digits? 2 rest
  | _ => none

/-- A number without a sign. -/
def magnitude? (cs : List Char) : Option Nat :=
  marked? cs <|> (if hasLeadingZero cs then none else Text.digits? 10 cs)

/-- An integer of any size. -/
def integer? : List Char → Option Int
  | '-' :: cs => (magnitude? cs).map fun (n : Nat) => -(n : Int)
  | '+' :: cs => (magnitude? cs).map Int.ofNat
  | cs => (magnitude? cs).map Int.ofNat

/-- The integers that are values. -/
def isWord (i : Int) : Bool := -(Nat.pow 2 63 : Int) ≤ i && i < (Nat.pow 2 64 : Int)

/-- The integers of at most 128 bits. -/
def isDoubleWord (i : Int) : Bool := -(Nat.pow 2 127 : Int) ≤ i && i < (Nat.pow 2 128 : Int)

/-- A number that need not be an integer: a finite decimal number, an infinity or NaN. -/
def real? (s : String) : Option Binary64 :=
  let positive := match s.toList with
    | '+' :: cs => if unsigned cs = cs then some cs else none
    | cs => some cs
  match positive with
  | none => none
  | some cs =>
    if cs = ".inf".toList ∨ cs = ".Inf".toList ∨ cs = ".INF".toList then some (.infinity false)
    else if s = "-.inf" ∨ s = "-.Inf" ∨ s = "-.INF" then some (.infinity true)
    else if s = ".nan" ∨ s = ".NaN" ∨ s = ".NAN" then some .nan
    else (Binary64.read? cs).filter (·.isFinite)

/-- What a plain scalar stands for. -/
inductive Plain where
  | null
  | bool (b : Bool)
  | integer (i : Int)
  /-- An integer that is no value. -/
  | oversized
  | real (x : Binary64)
  | text

/-- What the integer forms make of a scalar: nothing, if they do not fit or are far too large. -/
def resolveInteger (s : String) : Option Plain :=
  match integer? s.toList with
  | none => none
  | some i =>
    if isWord i then some (.integer i)
    else if isDoubleWord i then some .oversized
    else none

/-- What a plain scalar stands for. -/
def resolve (s : String) : Plain :=
  if s = "" ∨ isNull s then .null
  else match bool? s with
    | some b => .bool b
    | none =>
      match resolveInteger s with
      | some p => p
      | none =>
        if hasLeadingZero s.toList then .text
        else match real? s with
          | some x => .real x
          | none => .text

end Scalar

end ComposePods

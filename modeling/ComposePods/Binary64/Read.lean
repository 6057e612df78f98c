import ComposePods.Binary64

/-!
# Reading decimal numbers

A decimal number is an optional minus sign, digits with an optional point among or around them, and
an optional exponent.

* `Text.digits?`: the value of a run of digits in some base;
* `Binary64.read?`: the nearest binary64 number of a decimal number.
-/

namespace ComposePods

namespace Text

/-- The value of a digit in bases up to sixteen. -/
def digit? (base : Nat) (c : Char) : Option Nat :=
  let n :=
    if '0' ≤ c ∧ c ≤ '9' then some (c.toNat - 48)
    else if 'a' ≤ c ∧ c ≤ 'f' then some (c.toNat - 87)
    else if 'A' ≤ c ∧ c ≤ 'F' then some (c.toNat - 55)
    else none
  n.filter (· < base)

/-- The value of a run of digits that is not empty. -/
def digits? (base : Nat) : List Char → Option Nat
  | [] => none
  | cs => cs.foldlM (fun n c => (digit? base c).map (n * base + ·)) 0

end Text

namespace Binary64

/-- The exponent that follows the digits; no exponent is zero. -/
def readExponent? : List Char → Option Int
  | [] => some 0
  | 'e' :: rest | 'E' :: rest =>
    match rest with
    | '-' :: digits => (Text.digits? 10 digits).map fun n => -(n : Int)
    | '+' :: digits => (Text.digits? 10 digits).map Int.ofNat
    | digits => (Text.digits? 10 digits).map Int.ofNat
  | _ => none

/-- The number nearest to a decimal number without a sign. -/
def readMagnitude? (negative : Bool) (cs : List Char) : Option Binary64 := do
  let whole := cs.takeWhile Char.isDigit
  let rest := cs.dropWhile Char.isDigit
  let (fraction, rest) := match rest with
    | '.' :: more => (more.takeWhile Char.isDigit, more.dropWhile Char.isDigit)
    | _ => ([], rest)
  let digits ← Text.digits? 10 (whole ++ fraction)
  let exponent ← readExponent? rest
  return ofDecimal negative digits (exponent - fraction.length)

/-- The number nearest to a decimal number. -/
def read? : List Char → Option Binary64
  | '-' :: cs => readMagnitude? true cs
  | cs => readMagnitude? false cs

end Binary64

end ComposePods

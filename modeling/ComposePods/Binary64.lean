/-!
# Binary64 numbers

A binary64 number is a word of 64 bits: a sign, an exponent field of eleven bits and a fraction of
52. Words are data here, so numbers can be compared and inspected without any arithmetic unit; the
arithmetic itself is that of the machine's floating point type.

* `Binary64.negative`, `Binary64.isNaN`, `Binary64.isInfinite`, `Binary64.isFinite`,
  `Binary64.isZero`;
* `Binary64.mantissa`, `Binary64.scale`: a finite number is `± mantissa * 2 ^ scale`;
* `Binary64.ofRatio`: the number nearest to a positive fraction, a tie going to the even neighbour;
* `Binary64.same`: numeric equality in which a NaN equals a NaN.
-/

namespace ComposePods

/-- A binary64 number, given by its word. -/
structure Binary64 where
  bits : UInt64
  deriving DecidableEq, Inhabited

namespace Binary64

/-- The word of a sign and the 63 bits below it. -/
def ofParts (negative : Bool) (magnitude : Nat) : Binary64 :=
  ⟨UInt64.ofNat (magnitude + if negative then Nat.pow 2 63 else 0)⟩

/-- The 63 bits below the sign. -/
def magnitude (x : Binary64) : Nat := x.bits.toNat % Nat.pow 2 63

/-- The sign bit is set. -/
def negative (x : Binary64) : Bool := x.bits.toNat ≥ Nat.pow 2 63

/-- The magnitude of an infinity: an exponent field of ones over an empty fraction. -/
def infinityMagnitude : Nat := 2047 * Nat.pow 2 52

/-- Positive or negative infinity. -/
def infinity (negative : Bool) : Binary64 := ofParts negative infinityMagnitude

/-- The quiet NaN without a sign. -/
def nan : Binary64 := ofParts false (infinityMagnitude + Nat.pow 2 51)

/-- Positive or negative zero. -/
def zero (negative : Bool) : Binary64 := ofParts negative 0

def isNaN (x : Binary64) : Bool := x.magnitude > infinityMagnitude

def isInfinite (x : Binary64) : Bool := x.magnitude == infinityMagnitude

def isFinite (x : Binary64) : Bool := x.magnitude < infinityMagnitude

def isZero (x : Binary64) : Bool := x.magnitude == 0

/-- The integral significand of a finite number, with the hidden bit of a normal one. -/
def mantissa (x : Binary64) : Nat :=
  let fraction := x.magnitude % Nat.pow 2 52
  if x.magnitude / Nat.pow 2 52 = 0 then fraction else Nat.pow 2 52 + fraction

/-- The power of two that the significand is multiplied by. -/
def scale (x : Binary64) : Int := (max (x.magnitude / Nat.pow 2 52) 1 : Nat) - 1075

/-- Numeric equality, with the two zeros equal and every NaN equal to every NaN. -/
def same (x y : Binary64) : Bool :=
  x = y || (x.isNaN && y.isNaN) || (x.isZero && y.isZero)

/-- The number that stands for all numbers equal to `x`: one zero and one NaN. -/
def canonical (x : Binary64) : Binary64 :=
  if x.isNaN then nan else if x.isZero then zero false else x

/-- The quotient `n / d` rounded to a natural number, a tie going to the even neighbour. -/
def roundQuotient (n d : Nat) : Nat :=
  let q := n / d
  let r := n % d
  if 2 * r < d then q else if d < 2 * r then q + 1 else q + q % 2

/-- The number nearest to `n / d`, both positive, with the given sign; an overflow is infinite. -/
def ofRatio (negative : Bool) (n d : Nat) : Binary64 :=
  let estimate : Int := (n.log2 : Int) - d.log2 - 52
  let atLeast (e : Int) : Bool := d * Nat.pow 2 (e + 52).toNat ≤ n * Nat.pow 2 (-(e + 52)).toNat
  let e := max (if atLeast estimate then estimate else estimate - 1) (-1074)
  let significand := roundQuotient (n * Nat.pow 2 (-e).toNat) (d * Nat.pow 2 e.toNat)
  let magnitude := (e + 1074).toNat * Nat.pow 2 52 + significand
  if magnitude < infinityMagnitude then ofParts negative magnitude else infinity negative

/-- The number nearest to `digits * 10 ^ exponent`. -/
def ofDecimal (negative : Bool) (digits : Nat) (exponent : Int) : Binary64 :=
  if digits = 0 then zero negative
  else
    -- the power of ten just above the value decides overflow and underflow before any big power
    let top := (Nat.toDigits 10 digits).length + exponent
    if top > 310 then infinity negative
    else if top < -330 then zero negative
    else ofRatio negative (digits * Nat.pow 10 exponent.toNat) (Nat.pow 10 (-exponent).toNat)

/-- The number nearest to an integer. -/
def ofInt (i : Int) : Binary64 := ofDecimal (i < 0) i.natAbs 0

/-- The machine number of the same word. -/
def toFloat (x : Binary64) : Float := Float.ofBits x.bits

/-- The word of a machine number. -/
def ofFloat (x : Float) : Binary64 := ⟨x.toBits⟩

end Binary64

end ComposePods

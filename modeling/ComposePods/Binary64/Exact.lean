import ComposePods.Binary64

/-!
# Exact arithmetic on binary64 numbers

Operations of binary64 numbers whose results are exact, by arithmetic on integers.

* `Binary64.truncate`: the integral part;
* `Binary64.remainder`: the remainder of a division, with the sign of the dividend.
-/

namespace ComposePods

namespace Binary64

/-- The magnitude of a finite number as a multiple of `2 ^ e`, for `e` not above its scale. -/
def multipleOf (x : Binary64) (e : Int) : Nat := x.mantissa * Nat.pow 2 (x.scale - e).toNat

/-- A finite number without its fraction. -/
def truncate (x : Binary64) : Int :=
  let magnitude := x.mantissa * Nat.pow 2 x.scale.toNat / Nat.pow 2 (-x.scale).toNat
  if x.negative then -(magnitude : Int) else magnitude

/-- A finite number that is an integer. -/
def isIntegral (x : Binary64) : Bool :=
  x.mantissa * Nat.pow 2 x.scale.toNat % Nat.pow 2 (-x.scale).toNat == 0

/-- The remainder of finite numbers, with the sign of the first; none of a division by zero. -/
def remainder? (x y : Binary64) : Option Binary64 :=
  if y.isZero then none
  else
    let e := min x.scale y.scale
    let r := x.multipleOf e % y.multipleOf e
    some (if r = 0 then zero x.negative
      else ofRatio x.negative (r * Nat.pow 2 e.toNat) (Nat.pow 2 (-e).toNat))

end Binary64

end ComposePods

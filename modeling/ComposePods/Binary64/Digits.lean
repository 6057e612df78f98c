import ComposePods.Binary64

/-!
# The fewest digits that read back

The shortest decimal form of a finite number has the fewest significant digits that still lie in the
interval of reals rounding to it; among those of that length the nearest to the number is taken, and
a tie goes to the even digit. All of it is exact arithmetic on natural numbers.

* `Binary64.Digits`: digits and a power of ten;
* `Binary64.shortest`: the shortest digits of a finite number that is not zero.
-/

namespace ComposePods

namespace Binary64

/-- The decimal `digits * 10 ^ exponent`. -/
structure Digits where
  digits : Nat
  exponent : Int
  deriving DecidableEq

/-- A positive fraction, compared by cross multiplication. -/
structure Ratio where
  num : Nat
  den : Nat

namespace Ratio

/-- The fraction `n * 2 ^ p * 10 ^ q`. -/
def ofPowers (n : Nat) (p q : Int) : Ratio :=
  ⟨n * Nat.pow 2 p.toNat * Nat.pow 10 q.toNat, Nat.pow 2 (-p).toNat * Nat.pow 10 (-q).toNat⟩

def lt (a b : Ratio) : Bool := a.num * b.den < b.num * a.den

def le (a b : Ratio) : Bool := a.num * b.den ≤ b.num * a.den

/-- The difference of `a` and a smaller or equal `b`. -/
def sub (a b : Ratio) : Ratio := ⟨a.num * b.den - b.num * a.den, a.den * b.den⟩

end Ratio

/-- The interval of reals that round to a finite number: its ends count when the mantissa is
even. -/
def rounds (x : Binary64) (r : Ratio) : Bool :=
  let m := x.mantissa
  -- below a power of two the neighbour is twice as near
  let low := if m = Nat.pow 2 52 ∧ x.scale > -1074 then Ratio.ofPowers (4 * m - 1) (x.scale - 2) 0
    else Ratio.ofPowers (2 * m - 1) (x.scale - 1) 0
  let high := Ratio.ofPowers (2 * m + 1) (x.scale - 1) 0
  if m % 2 = 0 then low.le r && r.le high else low.lt r && r.lt high

/-- The exponent of the leading decimal digit of a positive finite number. -/
def leadingExponent (x : Binary64) : Int :=
  let v := Ratio.ofPowers x.mantissa x.scale 0
  let guess : Int := (x.mantissa.log2 + x.scale) * 30103 / 100000
  if (Ratio.ofPowers 1 0 (guess + 1)).le v then guess + 1
  else if v.lt (Ratio.ofPowers 1 0 guess) then guess - 1
  else guess

/-- The neighbour of `x` on the grid of `10 ^ e` that reads back as `x` and is nearest to it. -/
def onGrid? (x : Binary64) (e : Int) : Option Nat :=
  let v := Ratio.ofPowers x.mantissa x.scale 0
  let scaled := Ratio.ofPowers x.mantissa x.scale (-e)
  let below := scaled.num / scaled.den
  let low := Ratio.ofPowers below 0 e
  let high := Ratio.ofPowers (below + 1) 0 e
  let lowFits := below ≠ 0 ∧ rounds x low
  let highFits := rounds x high
  if lowFits then
    if highFits then
      let fromLow := v.sub low
      let toHigh := high.sub v
      some (if fromLow.lt toHigh then below
        else if toHigh.lt fromLow then below + 1
        else below + below % 2)
    else some below
  else if highFits then some (below + 1)
  else none

/-- The first grid, from coarse to fine, with a neighbour that reads back. -/
def searchGrids (x : Binary64) (leading : Int) : Nat → Digits
  | 0 => ⟨x.mantissa, x.scale⟩
  | n + 1 =>
    let e := leading - (17 - (n + 1))
    match onGrid? x e with
    | some d => ⟨d, e⟩
    | none => searchGrids x leading n

/-- Trailing zeros moved into the exponent; `fuel` bounds their number. -/
def Digits.trim : Nat → Digits → Digits
  | 0, d => d
  | fuel + 1, d =>
    if d.digits ≠ 0 ∧ d.digits % 10 = 0 then Digits.trim fuel ⟨d.digits / 10, d.exponent + 1⟩ else d

/-- The shortest digits of a finite number that is not zero. -/
def shortest (x : Binary64) : Digits := (searchGrids x x.leadingExponent 17).trim 20

end Binary64

end ComposePods

import ComposePods.Binary64.Exact
import ComposePods.Markup.Error
import ComposePods.Markup.Expression

/-!
# Calculations

Integers are signed or unsigned words of 64 bits. Two integers that both fit into one of the two
kinds give an integer of that kind, and it is an error when the result does not fit; all other
numbers are calculated with as binary64 numbers. A quotient is always taken of binary64 numbers, and
is an integer when it is integral. The engine breaks down on sums that are not finite, and on a
remainder whose quotient fits into no word.

* `Number.toReal`;
* `Operator.apply`: the result, which may be no number.
-/

namespace ComposePods

/-- The binary64 number nearest to a number. -/
def Number.toReal : Number → Binary64
  | .integer i => .ofInt i
  | .real x => x

namespace Markup

/-- The integer fits into a signed word. -/
def isSigned (i : Int) : Bool := -(Nat.pow 2 63 : Int) ≤ i && i < (Nat.pow 2 63 : Int)

/-- The integer fits into an unsigned word. -/
def isUnsigned (i : Int) : Bool := 0 ≤ i && i < (Nat.pow 2 64 : Int)

/-- The signed word nearest to an integer. -/
def clamp (i : Int) : Int := max (-(Nat.pow 2 63 : Int)) (min i ((Nat.pow 2 63 : Int) - 1))

/-- A finite binary64 number as a number. -/
def finite? (x : Binary64) : Option Number := if x.isFinite then some (.real x) else none

/-- A binary64 number that must be finite. -/
def finite (x : Binary64) : Except Refusal (Option Number) :=
  if x.isFinite then .ok (some (.real x)) else .error (.aborted .infinite)

/-- The operation of machine numbers. -/
def onReals (f : Float → Float → Float) (a b : Number) : Binary64 :=
  .ofFloat (f a.toReal.toFloat b.toReal.toFloat)

/-- An integer of the kind that `fits`. -/
def whole (fits : Int → Bool) (i : Int) : Except Refusal (Option Number) :=
  if fits i then .ok (some (.integer i)) else .error .unsuitable

/-- An operation on integers of a kind, or on binary64 numbers. -/
def onNumbers (onInts : Int → Int → Int)
    (onOthers : Number → Number → Except Refusal (Option Number)) (a b : Number) :
    Except Refusal (Option Number) :=
  match a, b with
  | .integer i, .integer j =>
    if isSigned i && isSigned j then whole isSigned (onInts i j)
    else if isUnsigned i && isUnsigned j then whole isUnsigned (onInts i j)
    else onOthers a b
  | _, _ => onOthers a b

/-- The quotient of two numbers. -/
def quotientOf (a b : Number) : Option Number :=
  let x := onReals (· / ·) a b
  if x.isFinite && x.isIntegral then some (.integer (clamp x.truncate)) else finite? x

/-- The remainder of two integers of the kind that `fits`, with the sign of the first. -/
def wholeRemainder (fits : Int → Bool) (i j : Int) : Except Refusal (Option Number) :=
  if j = 0 then .error .unsuitable
  else if fits (i.tdiv j) then .ok (some (.integer (i.tmod j)))
  else .error (.aborted .remainder)

/-- The remainder of two numbers, with the sign of the first. -/
def remainderOf (a b : Number) : Except Refusal (Option Number) :=
  let reals := .ok ((a.toReal.remainder? b.toReal).map .real)
  match a, b with
  | .integer i, .integer j =>
    if isSigned i && isSigned j then wholeRemainder isSigned i j
    else if isUnsigned i && isUnsigned j then wholeRemainder isUnsigned i j
    else reals
  | _, _ => reals

/-- The result of an operation, which may be no number. -/
def Operator.apply : Operator → Number → Number → Except Refusal (Option Number)
  | .add => onNumbers (· + ·) fun a b => finite (onReals (· + ·) a b)
  | .subtract => onNumbers (· - ·) fun a b => finite (onReals (· - ·) a b)
  | .multiply => onNumbers (· * ·) fun a b => .ok (finite? (onReals (· * ·) a b))
  | .divide => fun a b => .ok (quotientOf a b)
  | .remainder => remainderOf

/-- Numbers are compared as binary64 numbers. -/
def Relation.holds (r : Relation) (a b : Number) : Bool :=
  let x := a.toReal
  let y := b.toReal
  match r with
  | .equal => x.same y
  | .unequal => !x.same y
  | .less => x.toFloat < y.toFloat
  | .atMost => x.toFloat ≤ y.toFloat
  | .greater => y.toFloat < x.toFloat
  | .atLeast => y.toFloat ≤ x.toFloat

end Markup

end ComposePods

import ComposePods.Markup.Filter.Arguments
import ComposePods.Markup.Machine

/-!
# Filters on numbers

* `Filter.abs`, `Filter.pluralize?`, `Filter.round?`.
-/

namespace ComposePods

namespace Markup

namespace Filter

/-- The magnitude of a number. That of the least signed word is no signed word. -/
def abs [Machine] (d : Datum) (_ : Arguments) : Except Refusal Datum :=
  match d with
  | .number (.integer i) =>
    if i = -(Nat.pow 2 63 : Int) then
      if Machine.checks then .error (.aborted .overflow) else .ok d
    else .ok (.ofNat i.natAbs)
  | .number (.real x) => .ok (.ofReal (.ofParts false x.magnitude))
  | _ => .error .unsuitable

/-- The ending of a word that is counted: one form for one, another for all other numbers. -/
def pluralize? (d : Datum) (args : Arguments) : Option Datum := do
  let x ← Arguments.asReal d
  let plural ← args.text? "plural" (some "s")
  let singular ← args.text? "singular" (some "")
  let distance := (x.toFloat.abs - 1).abs
  let epsilon : Binary64 := .ofRatio false 1 (Nat.pow 2 52)
  return .text (if epsilon.toFloat < distance then plural else singular)

/-- A power of a machine number by repeated squaring; `fuel` bounds the digits of the exponent. -/
def power : (fuel : Nat) → (base result : Float) → (exponent : Nat) → Float
  | 0, _, result, _ => result
  | fuel + 1, base, result, exponent =>
    let result := if exponent % 2 = 1 then result * base else result
    if exponent < 2 then result else power fuel (base * base) result (exponent / 2)

/-- The power of ten by which a number is scaled before it is rounded. -/
def scaleOf (precision : Int) : Float :=
  let p := power 32 10 1 precision.natAbs
  if precision < 0 then 1 / p else p

/-- Round a number to some decimal places: to the nearest, up or down. -/
def round? (d : Datum) (args : Arguments) : Option Datum := do
  let x ← Arguments.asReal d
  let method ← args.text? "method" (some "common")
  let scale := scaleOf (← args.short? "precision" (some 0))
  let round ← match method with
    | "common" => some Float.round
    | "ceil" => some Float.ceil
    | "floor" => some Float.floor
    | _ => none
  return .ofReal (.ofFloat (round (scale * x.toFloat) / scale))

end Filter

end Markup

end ComposePods

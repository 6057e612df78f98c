import ComposePods.Markup.Filter.Arguments
import ComposePods.Markup.Machine

/-!
# Functions

* `Function.range`: the words from one to another;
* `Function.named?`: the function of a name. It fails on arguments of the wrong kind.
-/

namespace ComposePods

namespace Markup

/-- Makes a datum of arguments, if it can. -/
abbrev Function := Arguments → Except Refusal Datum

namespace Function

variable [Machine]

/-- The words from `word` on in steps of `step`, as long as they are less than `finish`, after those
that are `counted` in reverse; `fuel` bounds their number. -/
def countFrom (step finish : Nat) :
    (fuel word : Nat) → (counted : List Datum) → Except Refusal (List Datum)
  | 0, _, _ => .error (.aborted .endless)
  | fuel + 1, word, counted =>
    if finish ≤ word then .ok counted.reverse
    else if step = 0 then .error (.aborted .endless)
    else if Machine.checks && Nat.pow 2 64 ≤ word + step then .error (.aborted .overflow)
    else countFrom step finish fuel ((word + step) % Nat.pow 2 64) (.ofNat word :: counted)

/-- The words from one to another, which is not among them, at equal distances. Words that have all
been passed once come again and again. -/
def range (args : Arguments) : Except Refusal Datum := do
  let start ← Refusal.demand (args.natural? "start" (some 0))
  let step ← Refusal.demand (args.natural? "step_by" (some 1))
  let finish ← Refusal.demand (args.natural? "end" none)
  if finish < start then throw .unsuitable
  return .list (← countFrom step finish (Nat.pow 2 64 + 1) start [])

/-- A variable of the process, or the value given for those that are missing. -/
def setting (args : Arguments) : Except Refusal Datum := do
  let name ← Refusal.demand (args.text? "name" none)
  match Machine.setting? name with
  | some s => return .text s
  | none => Refusal.demand (args.lookup "default")

/-- The function of a name. -/
def named? (name : String) : Option Function :=
  match name with
  | "range" => some range
  | "throw" => some fun _ => .error .unsuitable
  | "get_env" => some setting
  | _ => none

end Function

end Markup

end ComposePods

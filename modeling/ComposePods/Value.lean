import ComposePods.Binary64

/-!
# Document values

A document value is null, a boolean, a number, a string, a sequence, a mapping whose keys are
values, or a value under a tag. Mappings keep the order in which their entries were written.

* `Number`, `Value`, and decidable equality of values;
* `Value.shape` and `Shape.describe`: the name of a value's shape in messages;
* `Value.untagged`: a value without its tags;
* `Mapping`: the entries of a mapping.
-/

namespace ComposePods

/-- A number is an integer or a binary64 number; the two are never equal. -/
inductive Number where
  | integer (i : Int)
  | real (x : Binary64)
  deriving DecidableEq

/-- A document value. -/
inductive Value where
  | null
  | bool (b : Bool)
  | number (n : Number)
  | string (s : String)
  | sequence (items : List Value)
  | mapping (entries : List (Value × Value))
  | tagged (tag : String) (value : Value)
  deriving Inhabited

/-- The shapes that a value can have. -/
inductive Shape where
  | null
  | bool
  | number
  | string
  | sequence
  | mapping
  | tagged
  deriving DecidableEq

/-- The shape, as messages name it. -/
def Shape.describe : Shape → String
  | .null => "null"
  | .bool => "a boolean"
  | .number => "a number"
  | .string => "a string"
  | .sequence => "a sequence"
  | .mapping => "a mapping"
  | .tagged => "a tagged value"

/-- The entries of a mapping, in written order. -/
abbrev Mapping := List (Value × Value)

/-! ## Equality -/

section Equality

mutual

/-- Equality of values is decidable. -/
def Value.decEq : (a b : Value) → Decidable (a = b)
  | .null, b => match b with
    | .null => isTrue rfl
    | .bool _ | .number _ | .string _ | .sequence _ | .mapping _ | .tagged _ _ => isFalse nofun
  | .bool x, b => match b with
    | .bool y => if h : x = y then isTrue (h ▸ rfl) else isFalse fun e => h (Value.bool.inj e)
    | .null | .number _ | .string _ | .sequence _ | .mapping _ | .tagged _ _ => isFalse nofun
  | .number x, b => match b with
    | .number y => if h : x = y then isTrue (h ▸ rfl) else isFalse fun e => h (Value.number.inj e)
    | .null | .bool _ | .string _ | .sequence _ | .mapping _ | .tagged _ _ => isFalse nofun
  | .string x, b => match b with
    | .string y => if h : x = y then isTrue (h ▸ rfl) else isFalse fun e => h (Value.string.inj e)
    | .null | .bool _ | .number _ | .sequence _ | .mapping _ | .tagged _ _ => isFalse nofun
  | .sequence x, b => match b with
    | .sequence y => match Value.decEqItems x y with
      | isTrue h => isTrue (h ▸ rfl)
      | isFalse h => isFalse fun e => h (Value.sequence.inj e)
    | .null | .bool _ | .number _ | .string _ | .mapping _ | .tagged _ _ => isFalse nofun
  | .mapping x, b => match b with
    | .mapping y => match Value.decEqEntries x y with
      | isTrue h => isTrue (h ▸ rfl)
      | isFalse h => isFalse fun e => h (Value.mapping.inj e)
    | .null | .bool _ | .number _ | .string _ | .sequence _ | .tagged _ _ => isFalse nofun
  | .tagged t x, b => match b with
    | .tagged u y =>
      if ht : t = u then match Value.decEq x y with
        | isTrue h => isTrue (ht ▸ h ▸ rfl)
        | isFalse h => isFalse fun e => h (Value.tagged.inj e).2
      else isFalse fun e => ht (Value.tagged.inj e).1
    | .null | .bool _ | .number _ | .string _ | .sequence _ | .mapping _ => isFalse nofun
termination_by structural x => x

/-- Equality of sequences is decidable. -/
def Value.decEqItems : (a b : List Value) → Decidable (a = b)
  | [], [] => isTrue rfl
  | [], _ :: _ | _ :: _, [] => isFalse nofun
  | x :: xs, y :: ys => match Value.decEq x y, Value.decEqItems xs ys with
    | isTrue h, isTrue h' => isTrue (h ▸ h' ▸ rfl)
    | isFalse h, _ => isFalse fun e => h (List.cons.inj e).1
    | _, isFalse h => isFalse fun e => h (List.cons.inj e).2
termination_by structural x => x

/-- Equality of entries is decidable. -/
def Value.decEqEntries : (a b : List (Value × Value)) → Decidable (a = b)
  | [], [] => isTrue rfl
  | [], _ :: _ | _ :: _, [] => isFalse nofun
  | (k, v) :: xs, (l, w) :: ys =>
    match Value.decEq k l, Value.decEq v w, Value.decEqEntries xs ys with
    | isTrue h, isTrue h', isTrue h'' => isTrue (h ▸ h' ▸ h'' ▸ rfl)
    | isFalse h, _, _ => isFalse fun e => h (Prod.mk.inj (List.cons.inj e).1).1
    | _, isFalse h, _ => isFalse fun e => h (Prod.mk.inj (List.cons.inj e).1).2
    | _, _, isFalse h => isFalse fun e => h (List.cons.inj e).2
termination_by structural x => x

end

instance : DecidableEq Value := Value.decEq

end Equality

namespace Value

/-- The shape of a value. -/
def shape : Value → Shape
  | .null => .null
  | .bool _ => .bool
  | .number _ => .number
  | .string _ => .string
  | .sequence _ => .sequence
  | .mapping _ => .mapping
  | .tagged _ _ => .tagged

/-- A value without the tags around it. -/
def untagged : Value → Value
  | .tagged _ v => v.untagged
  | v => v

/-- A string value for each of some strings. -/
def strings (ss : List String) : Value := .sequence (ss.map .string)

end Value

end ComposePods

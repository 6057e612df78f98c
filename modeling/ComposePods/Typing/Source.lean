import ComposePods.Typing.Error

/-!
# Sources of typed values

A typed property can be read from a document value or straight from a text. The two agree on which
shapes a type has and differ in what they let pass: a text gives any plain scalar where a string is
wanted, a value gives only strings. `Source` lists what a reader asks of either.

* `Source`: the questions;
* `Source.optional`, `Source.listOf`, `Source.record`: readers built from them;
* the instance for `Value`.
-/

namespace ComposePods

/-- What readers of typed properties ask of the thing they read. -/
class Source (α : Type) where
  /-- Nothing is set here. -/
  isUnset : α → Except TypeError Bool
  text : α → Except TypeError String
  flag : α → Except TypeError Bool
  /-- A number from zero to `2 ^ 64 - 1`. -/
  count : α → Except TypeError Nat
  items : α → Except TypeError (List α)
  /-- The entries of a mapping, which errors call `wanted`. -/
  entries : (wanted : String) → α → Except TypeError (List (α × α))
  /-- The name of a field. -/
  name : α → Except TypeError String
  /-- The document value. -/
  value : α → Except TypeError Value
  /-- The document value without a check of its keys; tags are refused. -/
  untaggedValue : α → Except TypeError Value

namespace Source

variable {α β σ : Type} [Source α]

/-- Nothing, or what the reader reads. -/
def optional (read : α → Except TypeError β) (x : α) : Except TypeError (Option β) := do
  if ← isUnset x then pure none else some <$> read x

/-- What the reader reads from each item. -/
def listOf (read : α → Except TypeError β) (x : α) : Except TypeError (List β) := do
  (← items x).mapM read

/-- Read one field of a record behind the names that have been met. A field that is not `known` is
refused, and so is a second one of the same name, both before the field's own value is read. -/
def recordStep (known : List String) (read : String → α → σ → Except TypeError σ)
    (state : List String × σ) (e : α × α) : Except TypeError (List String × σ) := do
  let name ← name e.1
  if name ∉ known then throw (.unknownField name known)
  if name ∈ state.1 then throw (.repeatedField name)
  return (name :: state.1, ← read name e.2 state.2)

/-- Read the fields of a record one after the other. -/
def record (wanted : String) (known : List String) (read : String → α → σ → Except TypeError σ)
    (start : σ) (x : α) : Except TypeError σ := do
  return (← (← entries wanted x).foldlM (recordStep known read) ([], start)).2

end Source

/-! ## Reading from values -/

namespace Value

mutual

/-- A tag stands somewhere in the value. -/
def hasTag : Value → Bool
  | .tagged _ _ => true
  | .sequence items => hasTagItems items
  | .mapping entries => hasTagEntries entries
  | .null | .bool _ | .number _ | .string _ => false
termination_by structural x => x

/-- A tag stands somewhere in the items. -/
def hasTagItems : List Value → Bool
  | [] => false
  | v :: vs => v.hasTag || hasTagItems vs
termination_by structural x => x

/-- A tag stands somewhere in the entries. -/
def hasTagEntries : List (Value × Value) → Bool
  | [] => false
  | (k, v) :: es => k.hasTag || v.hasTag || hasTagEntries es
termination_by structural x => x

end

mutual

/-- No mapping in the value has two entries of the same key. -/
def keysDistinct : Value → Bool
  | .sequence items => keysDistinctItems items
  | .mapping entries => keysDistinctEntries entries && decide (Mapping.Distinct entries)
  | .tagged _ v => v.keysDistinct
  | .null | .bool _ | .number _ | .string _ => true
termination_by structural x => x

/-- No mapping in the items has two entries of the same key. -/
def keysDistinctItems : List Value → Bool
  | [] => true
  | v :: vs => v.keysDistinct && keysDistinctItems vs
termination_by structural x => x

/-- No mapping inside the entries has two entries of the same key. -/
def keysDistinctEntries : List (Value × Value) → Bool
  | [] => true
  | (k, v) :: es => k.keysDistinct && v.keysDistinct && keysDistinctEntries es
termination_by structural x => x

end

/-- A string, whatever its tags. -/
def readText (v : Value) : Except TypeError String :=
  match v.untagged with
  | .string s => .ok s
  | w => .error (.wrongShape w.found "a string")

/-- A boolean, whatever its tags. -/
def readFlag (v : Value) : Except TypeError Bool :=
  match v.untagged with
  | .bool b => .ok b
  | w => .error (.wrongShape w.found "a boolean")

/-- An integer that is not negative, whatever its tags. -/
def readCount (v : Value) : Except TypeError Nat :=
  match v.untagged with
  | .number (.integer i) =>
    if i < 0 then .error (.wrongValue (.integer i) "u64") else .ok i.toNat
  | w => .error (.wrongShape w.found "u64")

/-- The items of a sequence; null has none. -/
def readItems (v : Value) : Except TypeError (List Value) :=
  match v.untagged with
  | .sequence items => .ok items
  | .null => .ok []
  | w => .error (.wrongShape w.found "a sequence")

/-- The entries of a mapping; null has none. -/
def readEntries (wanted : String) (v : Value) : Except TypeError Mapping :=
  match v.untagged with
  | .mapping entries => .ok entries
  | .null => .ok []
  | w => .error (.wrongShape w.found wanted)

/-- A field's name is a string, whatever its tags. -/
def readName (v : Value) : Except TypeError String :=
  match v.untagged with
  | .string s => .ok s
  | w => .error (.wrongShape w.found "field identifier")

instance : Source Value where
  isUnset v := .ok (match v with
    | .null => true
    | _ => false)
  text := readText
  flag := readFlag
  count := readCount
  items := readItems
  entries := readEntries
  name := readName
  value v := .ok v
  untaggedValue v := if v.hasTag then .error .taggedForm else .ok v

end Value

end ComposePods

import ComposePods.Datum.Route
import ComposePods.Datum.Written
import ComposePods.Markup.Filter.Arguments
import ComposePods.Text.Case
import ComposePods.Text.Replace

/-!
# Filters on lists and objects

Many of these look at an attribute of every item, which a route names; without a route it is the
item itself.

* `Filter.onList`: the filters that need a list;
* `Filter.entry?`: the value of a key of an object.
-/

namespace ComposePods

namespace Markup

namespace Filter

/-- The route that an argument names. -/
def attribute? (args : Arguments) (standard : Option String) : Option String :=
  args.text? "attribute" standard

/-- The attribute of a datum; without one null. -/
def attributeOf (route : String) (d : Datum) : Datum := (d.at? route).getD .null

/-- An item of a list, or the empty text when there is none. -/
def itemOr (d : Option Datum) : Option Datum := some (d.getD (.text ""))

/-- The texts of the items with a separator between them. -/
def join? (items : List Datum) (args : Arguments) : Option Datum := do
  let sep ← args.text? "sep" (some "")
  return .text (String.intercalate (Text.unescape sep) (items.map Datum.shown))

/-! ## Sorting -/

/-- What items are sorted by. -/
inductive SortKey where
  | bool (b : Bool)
  | number (n : Number)
  | text (s : String)
  /-- The length of a list. -/
  | length (n : Nat)

/-- What a datum is sorted by; null and objects are not sorted. -/
def SortKey.of? : Datum → Option SortKey
  | .bool b => some (.bool b)
  | .number n => some (.number n)
  | .text s => some (.text s)
  | .list items => some (.length items.length)
  | .null | .object _ => none

/-- The first key does not come after the second. Keys of two kinds are not compared. -/
def SortKey.le? : SortKey → SortKey → Option Bool
  | .bool a, .bool b => some (!a || b)
  | .number a, .number b => some (!Relation.greater.holds a b)
  | .text a, .text b => some (compare a b).isLE
  | .length a, .length b => some (a ≤ b)
  | _, _ => none

/-- Sort items by an attribute; items with equal attributes keep their order. -/
def sort? (items : List Datum) (args : Arguments) : Option Datum := do
  match items with
  | [] => return .list []
  | first :: _ =>
    let route ← attribute? args (some "")
    let keyed ← items.mapM fun d => do return (← SortKey.of? (← d.at? route), d)
    let kind ← SortKey.of? (← first.at? route)
    guard (keyed.all fun e => (kind.le? e.1).isSome)
    return .list ((keyed.mergeSort fun a b => (a.1.le? b.1).getD true).map (·.2))

/-! ## Choosing -/

/-- The kind of a datum by which it can be unique: integers, texts and truth values. -/
def uniqueKey? (exactCase : Bool) : Datum → Option Datum
  | .bool b => some (.bool b)
  | .number (.integer i) => if isSigned i then some (.number (.integer i)) else none
  | .text s => some (.text (if exactCase then s else Text.lower s))
  | .number (.real _) | .null | .list _ | .object _ => none

/-- Both data are of the same kind. -/
def sameKind : Datum → Datum → Bool
  | .null, .null | .bool _, .bool _ | .number _, .number _ | .text _, .text _ | .list _, .list _
  | .object _, .object _ => true
  | _, _ => false

/-- Keep the first item of every attribute; items without it are left out. -/
def unique? (items : List Datum) (args : Arguments) : Option Datum := do
  match items with
  | [] => return .list []
  | first :: _ =>
    let exactCase ← args.bool? "case_sensitive" (some false)
    let route ← attribute? args (some "")
    let kind ← uniqueKey? true (← first.at? route)
    let step := fun (state : List Datum × List Datum) (d : Datum) =>
      match d.at? route with
      | none => some state
      | some a => do
        guard (sameKind kind a)
        let key ← uniqueKey? exactCase a
        return if state.1.any (·.same key) then state else (key :: state.1, d :: state.2)
    let (_, kept) ← items.foldlM step ([], [])
    return .list kept.reverse

/-- The place in a list that a number names, counted from the end when it is negative. -/
def place (length : Nat) (x : Binary64) : Nat :=
  let floor := if x.negative && !x.isIntegral then x.truncate - 1 else x.truncate
  (if x.negative && !x.isZero then length + floor else floor).toNat

/-- The items from one place up to another. -/
def slice? (items : List Datum) (args : Arguments) : Option Datum := do
  let start ← args.real? "start" (some (.zero false))
  let finish ← args.real? "end" (some (.ofInt items.length))
  return .list ((items.take (place items.length finish)).drop (place items.length start))

/-- The items under the texts of their attributes; those without one are left out. -/
def groupBy? (items : List Datum) (args : Arguments) : Option Datum := do
  if items.isEmpty then return .object []
  let route ← attribute? args none
  let step := fun (groups : List (String × List Datum)) (d : Datum) =>
    match attributeOf route d with
    | .null => groups
    | a =>
      let key := match a with
        | .text s => s
        | a => a.json
      Dict.insertEntry key ((groups.lookup key).getD [] ++ [d]) groups
  return .object ((items.foldl step []).map fun e => (e.1, .list e.2))

/-- The items with a given attribute, or with any when none is given. -/
def filter? (items : List Datum) (args : Arguments) : Option Datum := do
  if items.isEmpty then return .list []
  let route ← attribute? args none
  let keep (d : Datum) : Bool :=
    match (args.lookup "value").getD .null with
    | .null => !(attributeOf route d).same .null
    | v => (attributeOf route d).same v
  return .list (items.filter keep)

/-- The attributes of the items, other than null. -/
def map? (items : List Datum) (args : Arguments) : Option Datum := do
  if items.isEmpty then return .list []
  let route ← attribute? args none
  return .list ((items.map (attributeOf route)).filter fun d => !d.same .null)

/-- The list with a value, or the items of a list, at its end. -/
def concat? (items : List Datum) (args : Arguments) : Option Datum := do
  match ← args.lookup "with" with
  | .list more => return .list (items ++ more)
  | d => return .list (items ++ [d])

/-- The filters that need a list. -/
def onList (name : String) : Option (List Datum → Arguments → Option Datum) :=
  match name with
  | "first" => some fun items _ => itemOr items.head?
  | "last" => some fun items _ => itemOr items.getLast?
  | "nth" => some fun items args => do
    let i ← args.natural? "n" none
    itemOr items[i]?
  | "join" => some join?
  | "sort" => some sort?
  | "unique" => some unique?
  | "slice" => some slice?
  | "group_by" => some groupBy?
  | "filter" => some filter?
  | "map" => some map?
  | "concat" => some concat?
  | _ => none

/-- The value of a key of an object, or the value given for keys that are missing. -/
def entry? (d : Datum) (args : Arguments) : Option Datum := do
  let key ← args.text? "key" none
  match d with
  | .object entries => entries.lookup key <|> args.lookup "default"
  | _ => none

end Filter

end Markup

end ComposePods

import ComposePods.Datum.Route
import ComposePods.Datum.Written
import ComposePods.Markup.Error

/-!
# Variables

A variable is looked up in the loops around, from the innermost on, then among the variables set in
the template or the snippet that is expanded, and last in the data given to the template. What is
found is followed along the rest of the path; a place where the rest leads nowhere is passed over.

* `Turn`, `Frame`, `Scope`;
* `Scope.find?`: the value of a route;
* `Scope.resolve`: the value of a path, whose indices may be paths in turn;
* `Scope.set`, `Scope.share`.
-/

namespace ComposePods

namespace Markup

/-- A turn of a loop. -/
structure Turn where
  key? : Option (String × String)
  name : String
  value : Datum
  index : Nat
  isLast : Bool

/-- Variables that have been set, and the turn of the loop to which they belong. -/
structure Frame where
  assigned : List (String × Datum)
  turn? : Option Turn

/-- All variables: the frames from the innermost on, and the data given to the template. -/
structure Scope where
  frames : List Frame
  /-- The snippet that is expanded. -/
  snippet? : Option String
  data : List (String × Datum)

/-- The first step of a route and the rest, if there is a point. -/
def splitRoute (route : String) : String × Option String :=
  match Text.splitOnce '.' route with
  | some (root, rest) => (root, some rest)
  | none => (route, none)

/-- The part of the value of a variable. -/
def partOf (assigned : List (String × Datum)) (root : String) (rest : Option String) :
    Option Datum :=
  match assigned.lookup root, rest with
  | some d, some rest => d.at? rest
  | d, none => d
  | none, some _ => none

namespace Turn

/-- What is known about a turn. -/
def fact? (t : Turn) (route : String) : Option Datum :=
  match route with
  | "loop.index" => some (.ofNat (t.index + 1))
  | "loop.index0" => some (.ofNat t.index)
  | "loop.first" => some (.bool (t.index == 0))
  | "loop.last" => some (.bool t.isLast)
  | _ => none

/-- The key of the turn, if it has the name. -/
def key (t : Turn) (name : String) : Option Datum :=
  match t.key? with
  | some (key, s) => if key = name then some (.text s) else none
  | none => none

/-- The value of a route that starts at a turn. -/
def find? (t : Turn) (route : String) : Option Datum :=
  let (root, rest) := splitRoute route
  t.fact? route <|> (if route = t.name then some t.value else none) <|> t.key route <|>
    if root = t.name then t.value.at? (rest.getD "") else none

end Turn

/-- The value of a route that starts in a frame. -/
def Frame.find? (f : Frame) (route : String) : Option Datum :=
  let (root, rest) := splitRoute route
  partOf f.assigned root rest <|> f.turn?.bind (·.find? route)

namespace Scope

/-- The value of a route in the frames up to the first that is not of a loop. -/
def findInFrames? (route : String) : List Frame → Option Datum
  | [] => none
  | f :: fs => f.find? route <|> if f.turn?.isSome then findInFrames? route fs else none

/-- The value of a route. -/
def find? (s : Scope) (route : String) : Option Datum :=
  findInFrames? route s.frames <|>
    let (root, rest) := splitRoute route
    partOf s.data (String.ofList (Route.unescapeTilde (Route.unescape root.toList))) rest

/-- A loop is open. -/
def inLoop (s : Scope) : Bool := s.frames.head?.any (·.turn?.isSome)

/-- An error that arises here. Inside a loop it does not tell of the snippet around. -/
def error (s : Scope) (cause : Cause) : Error := ⟨cause, if s.inLoop then none else s.snippet?, []⟩

/-! ## All variables -/

/-- The name of the variable that shows all others. -/
def overview : String := "__tera_context"

/-- The variables of a frame, those of its loop last. -/
def entriesOf (f : Frame) : List (String × Datum) :=
  f.assigned ++ match f.turn? with
    | some t => (t.name, t.value) :: (t.key?.map fun (key, s) => (key, Datum.text s)).toList
    | none => []

/-- All variables as one object. Snippets do not show the data given to the template. -/
def all (s : Scope) : Datum :=
  let set := s.frames.flatMap entriesOf
  .ofEntries (if s.snippet?.isSome then set else s.data ++ set)

/-! ## Paths -/

/-- The characters inside brackets up to the bracket that closes them, and those after it. -/
def inBrackets (depth : Nat) : List Char → List Char × List Char
  | [] => ([], [])
  | c :: cs =>
    if c = ']' ∧ depth = 0 then ([], cs)
    else
      let depth := if c = ']' then depth - 1 else if c = '[' then depth + 1 else depth
      let (inside, rest) := inBrackets depth cs
      (c :: inside, rest)

/-- The texts inside the outermost brackets of a path that are neither between quotes nor natural
numbers; `fuel` bounds the length of the path. -/
def indices : (fuel : Nat) → List Char → List (List Char)
  | 0, _ => []
  | fuel + 1, cs =>
    match cs with
    | '[' :: c :: rest =>
      if c = '"' ∨ c = '\'' then indices fuel rest
      else
        let (inside, after) := inBrackets (if c = '[' then 1 else 0) rest
        if (c :: inside).all Char.isDigit then indices fuel after
        else (c :: inside) :: indices fuel after
    | _ :: rest => indices fuel rest
    | [] => []

/-- Replace the first occurrence of `old` by `new`; without one, `new` comes last. -/
def replaceFirst (old new : List Char) : List Char → List Char
  | [] => new
  | c :: cs =>
    if old.isPrefixOf (c :: cs) then new ++ (c :: cs).drop old.length
    else c :: replaceFirst old new cs

/-- A path with its brackets as points; what was between quotes keeps double quotes around it. -/
def unbracket : List Char → List Char
  | [] => []
  | '[' :: '\'' :: cs | '[' :: '"' :: cs => '.' :: '"' :: unbracket cs
  | '[' :: cs => '.' :: unbracket cs
  | '\'' :: ']' :: cs | '"' :: ']' :: cs => '"' :: unbracket cs
  | ']' :: cs => unbracket cs
  | '/' :: cs => '~' :: '1' :: unbracket cs
  | c :: cs => c :: unbracket cs

/-- An index as a step of a route. -/
def indexText? : Datum → Option (List Char)
  | .text s => some ('"' :: s.toList ++ ['"'])
  | .number n => some n.text.toList
  | .null | .bool _ | .list _ | .object _ => none

/-- The value of a path, whose indices are nested at most `depth` deep. -/
def resolveFrom (s : Scope) : (depth : Nat) → List Char → Except Error Datum
  | 0, _ => .error (s.error .unsuitable)
  | depth + 1, cs =>
    let path := String.ofList cs
    if !cs.contains '[' then
      match s.find? path with
      | some d => .ok d
      | none => .error (s.error (.unknownVariable path))
    else do
      let route ← (indices cs.length cs).foldlM (fun route index => do
        let d ← (resolveFrom s depth index).mapError (.within (.index path))
        match indexText? d with
        | some step => return replaceFirst ('[' :: index ++ [']']) ('.' :: step) route
        | none => throw (s.error .unsuitable)) cs
      match s.find? (String.ofList (unbracket route)) with
      | some d => return d
      | none => throw (s.error .unsuitable)

/-- The value of a path. -/
def resolve (s : Scope) (path : String) : Except Error Datum :=
  if path = overview then .ok (.text s.all.prettyJson)
  else resolveFrom s (path.length + 1) path.toList

/-! ## Changing variables -/

/-- Set a variable of a frame. -/
def setIn (f : Frame) (name : String) (d : Datum) : Frame :=
  { f with assigned := (name, d) :: f.assigned.filter (·.1 != name) }

/-- Set a variable of the first frame that is not of a loop. -/
def shareIn (name : String) (d : Datum) : List Frame → List Frame
  | [] => []
  | f :: fs => if f.turn?.isSome then f :: shareIn name d fs else setIn f name d :: fs

/-- Set a variable until the turn of the loop or the snippet ends. -/
def set (s : Scope) (name : String) (d : Datum) : Scope :=
  match s.frames with
  | [] => s
  | f :: fs => { s with frames := setIn f name d :: fs }

/-- Set a variable also for what follows the loops around. -/
def share (s : Scope) (name : String) (d : Datum) : Scope :=
  { s with frames := shareIn name d s.frames }

end Scope

end Markup

end ComposePods

import ComposePods.Text.Blank

/-!
# Paths

A path is a text; a slash separates its segments. Joining a path to a directory folds the `.` and
`..` of the path and keeps the directory as it is written, except where a `..` takes its last
component away.

* `Path.isAbsolute`, `Path.push`, `Path.parent?`;
* `Path.resolve`: a path seen from a directory, folded;
* `Path.join`: the same, not folded.
-/

namespace ComposePods

namespace Path

/-- The path starts at the root. -/
def isAbsolute (path : String) : Bool := path.toList.head? == some '/'

/-- The parts between slashes. -/
def segments (path : String) : List String :=
  (Text.splitAt (· == '/') path.toList).map String.ofList

/-- The path of some segments. -/
def ofSegments (segments : List String) : String := String.intercalate "/" segments

/-- A segment that names nothing of its own. -/
def isIdle (segment : String) : Bool := segment == "" || segment == "."

/-- Segments, last first, without the idle ones at the end; the first segment of the path stays. -/
def trimReversed : List String → List String
  | [] => []
  | [s] => [s]
  | s :: t :: rest => if isIdle s then trimReversed (t :: rest) else s :: t :: rest

/-- The path without its last component; the root and the empty path have none. -/
def parent? (path : String) : Option String :=
  match trimReversed (segments path).reverse with
  | [] => none
  | [s] => if s = "" then none else some ""
  | _ :: rest =>
    match trimReversed rest with
    | [""] => some "/"
    | kept => some (ofSegments kept.reverse)

/-- Take the last component away, if there is one. -/
def pop (path : String) : String := (parent? path).getD path

/-- Put a path after another: an absolute one replaces it, else a slash stands between them. -/
def push (base path : String) : String :=
  if isAbsolute path then path
  else if base = "" ∨ base.toList.getLast? = some '/' then base ++ path
  else base ++ "/" ++ path

/-- One step from a directory: up for `..`, else down. -/
def step (directory segment : String) : String :=
  if segment = ".." then pop directory else push directory segment

/-- The path seen from a directory, with its own `.` and `..` folded. -/
def resolve (directory path : String) : String :=
  if isAbsolute path then path
  else ((segments path).filter (!isIdle ·)).foldl step directory

/-- The path seen from a directory, as written. -/
def join (directory path : String) : String := push directory path

end Path

end ComposePods

import ComposePods.Path

/-!
# Files

Templates and settings may be read from files. Files are data here: the contents of a working
directory. A directory exists when a file lies below it; so do the working directory itself and
those around it, in which nothing is known to exist.

* `Files`, `FileError`;
* `Files.locate`: the place that a path names;
* `Files.has`, `Files.read`: the text of a file.
-/

namespace ComposePods

/-- The files below a directory, with their octets. -/
structure Files where
  entries : List (String × List UInt8)

/-- Why a file cannot be read. -/
inductive FileError where
  | missing
  /-- A file stands where the path needs a directory. -/
  | notDirectory
  | directory
  | nameTooLong
  | badName
  /-- The octets are no text. -/
  | notText
  deriving DecidableEq

/-- The wording of the error. -/
def FileError.message : FileError → String
  | .missing => "No such file or directory (os error 2)"
  | .notDirectory => "Not a directory (os error 20)"
  | .directory => "Is a directory (os error 21)"
  | .nameTooLong => "File name too long (os error 36)"
  | .badName => "file name contained an unexpected NUL byte"
  | .notText => "stream did not contain valid UTF-8"

namespace Files

/-- No files. -/
def none : Files := ⟨[]⟩

/-- A place that a path may name. -/
inductive Place where
  /-- The working directory, or what lies below it by the given names. -/
  | inside (names : List String)
  /-- A directory around the working directory. -/
  | around
  deriving DecidableEq

/-- The names on the way to a file. -/
def namesOf (path : String) : List String := (Path.segments path).filter (!Path.isIdle ·)

/-- The octets of the file at a place. -/
def contents? (f : Files) : Place → Option (List UInt8)
  | .inside names => (f.entries.find? fun e => namesOf e.1 == names).map (·.2)
  | .around => Option.none

/-- The place is a directory. -/
def isDirectory (f : Files) : Place → Bool
  | .inside names =>
    names.isEmpty || f.entries.any fun e =>
      let path := namesOf e.1
      names.isPrefixOf path && names.length < path.length
  | .around => true

/-- How many octets a name may have. -/
def longestName : Nat := 255

/-- How many octets a path may have. -/
def longestPath : Nat := 4095

/-- Go from a place to what a segment of a path names there. -/
def step (f : Files) (place : Place) (segment : String) : Except FileError Place :=
  if !f.isDirectory place then .error .notDirectory
  else if Path.isIdle segment then .ok place
  else if segment = ".." then
    match place with
    | .inside (n :: ns) => .ok (.inside (n :: ns).dropLast)
    | _ => .ok .around
  else if segment.utf8ByteSize > longestName then .error .nameTooLong
  else match place with
    | .around => .error .missing
    | .inside names =>
      let next := Place.inside (names ++ [segment])
      if (f.contents? next).isSome || f.isDirectory next then .ok next else .error .missing

/-- The place that a path names. -/
def locate (f : Files) (path : String) : Except FileError Place :=
  if path.toList.contains '\x00' then .error .badName
  else if path = "" then .error .missing
  else if path.utf8ByteSize > longestPath then .error .nameTooLong
  else (Path.segments path).foldlM f.step (if Path.isAbsolute path then .around else .inside [])

/-- Something is at the path. -/
def has (f : Files) (path : String) : Bool := (f.locate path).toBool

/-- The text of the file at a path. -/
def read (f : Files) (path : String) : Except FileError String := do
  match f.contents? (← f.locate path) with
  | Option.none => throw .directory
  | some octets =>
    match String.fromUTF8? ⟨octets.toArray⟩ with
    | some text => pure text
    | Option.none => throw .notText

end Files

end ComposePods

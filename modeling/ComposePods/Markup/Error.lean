/-!
# Errors in templates

Only the cause that a user can mend by giving a value is told in full: a variable that is not
defined. Some templates end in neither a text nor an error, because the engine that renders them
breaks down.

* `Markup.Cause`, `Markup.Concern`, `Markup.Error`;
* `Markup.Error.message`;
* `Markup.Abort`: how the engine breaks down;
* `Markup.Fault`, `Markup.Refusal`: how a template, and how a single operation in it, ends without a
  result.
-/

namespace ComposePods

namespace Markup

/-- The name under which a template body is rendered. -/
def bodyName : String := "__tera_one_off"

/-- Why a template body cannot be rendered. -/
inductive Cause where
  /-- The body is not well-formed. -/
  | malformed
  | unknownVariable (path : String)
  /-- A value is used in a way that its kind does not allow. -/
  | unsuitable
  deriving DecidableEq

/-- What was being worked out when an error arose. -/
inductive Concern where
  | filter (name : String)
  | function (name : String)
  | test (name : String)
  /-- An index of a path. -/
  | index (path : String)
  deriving DecidableEq

/-- An error, the snippet that was being expanded, and what was being worked out, the outermost
first. -/
structure Error where
  cause : Cause
  snippet : Option String
  concerns : List Concern
  deriving DecidableEq

/-- The wording of a concern. -/
def Concern.message : Concern → String
  | .filter name => "Filter call '" ++ name ++ "' failed"
  | .function name => "Function call '" ++ name ++ "' failed"
  | .test name => "Test call '" ++ name ++ "' failed"
  | .index path => "Variable " ++ path ++ " can not be evaluated because"

/-- The wording of a cause. -/
def Cause.message : Cause → String
  | .malformed => "the template is malformed"
  | .unknownVariable path =>
    "Variable \x60" ++ path ++ "\x60 not found in context while rendering '" ++ bodyName ++ "'"
  | .unsuitable => "a value is not suitable here"

namespace Error

/-- An error without anything around it. -/
def of (cause : Cause) : Error := ⟨cause, none, []⟩

/-- The snippet in which the error arose, as messages name it. -/
def place (e : Error) : String :=
  match e.snippet with
  | some name => ": error while rendering macro \x60self::" ++ name ++ "\x60"
  | none => ""

/-- The error while something else was being worked out. -/
def within (concern : Concern) (e : Error) : Error := { e with concerns := concern :: e.concerns }

/-- What a calculation tells of an error in one of its operands: only what the outermost part
says. -/
def summary (e : Error) : Error :=
  match e.concerns with
  | [] => e
  | .index _ :: _ => e
  | _ => { e with cause := .unsuitable, concerns := [] }

/-- The wording of the error, the outermost part first. -/
def message (e : Error) : String :=
  String.intercalate ": " (("Failed to render '" ++ bodyName ++ "'" ++ e.place) ::
    e.concerns.map Concern.message ++ [e.cause.message])

end Error

/-! ## Breakdowns -/

/-- How the engine breaks down. -/
inductive Abort where
  /-- Digits are read in a base that has none. -/
  | base
  /-- A remainder is asked for whose quotient fits into no word. -/
  | remainder
  /-- A word overflows. -/
  | overflow
  /-- A list has no end. -/
  | endless
  /-- A number is not finite. -/
  | infinite
  /-- An expression stands where none of its kind is foreseen. -/
  | unforeseen
  /-- There is no room left. -/
  | exhausted
  deriving DecidableEq

/-- How a template ends without a text. -/
inductive Fault where
  | error (e : Error)
  | aborted (a : Abort)
  deriving DecidableEq

/-- How an operation ends without a result. -/
inductive Refusal where
  /-- It cannot use what it is given. -/
  | unsuitable
  | aborted (a : Abort)
  deriving DecidableEq

/-- An error in place of another one. What breaks down is not reported. -/
def Fault.map (f : Error → Error) : Fault → Fault
  | .error e => .error (f e)
  | .aborted a => .aborted a

/-- What is there, or else a refusal. -/
def Refusal.demand {α : Type} : Option α → Except Refusal α
  | some a => .ok a
  | none => .error .unsuitable

end Markup

end ComposePods

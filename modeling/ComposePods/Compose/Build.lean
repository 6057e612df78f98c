import ComposePods.Compose.Alternatives

/-!
# Builds

A service is built from a context directory, given alone or together with options.

* `BuildOptions`, `Build`, with `Build.read?` and `Build.toValue`.
-/

namespace ComposePods

/-- How an image is built. -/
structure BuildOptions where
  context : Option String
  dockerfile : Option String
  args : Dict (Option String)
  target : Option String
  deriving DecidableEq

/-- A context directory, or options that may name one. -/
inductive Build where
  | context (path : String)
  | detailed (options : BuildOptions)
  deriving DecidableEq

namespace Build

def optionFields : List String := ["context", "dockerfile", "args", "target"]

def readOptions? (v : Value) : Option BuildOptions := do
  match ← Form.slots? optionFields v with
  | [path, dockerfile, args, target] =>
    return {
      context := ← Form.field? Form.text? path
      dockerfile := ← Form.field? Form.text? dockerfile
      args := ← Form.fieldOr? .empty Value.pairsForm? args
      target := ← Form.field? Form.text? target }
  | _ => none

def read? (v : Value) : Option Build :=
  (.context <$> Form.text? v) <|> (.detailed <$> readOptions? v)

def optionsValue (o : BuildOptions) : Value :=
  .record [("context", o.context.map .string), ("dockerfile", o.dockerfile.map .string),
    ("args", Value.unlessEmpty .ofPairs o.args), ("target", o.target.map .string)]

def toValue : Build → Value
  | .context path => .string path
  | .detailed options => optionsValue options

end Build

end ComposePods

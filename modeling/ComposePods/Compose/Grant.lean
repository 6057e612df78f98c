import ComposePods.Compose.Alternatives

/-!
# Grants of configurations and secrets

A service is granted a configuration or a secret of the project by its name, or by a record that
says where and with which owner and mode the file appears.

* `GrantOptions`, `Grant`, with `Grant.read?` and `Grant.toValue`.
-/

namespace ComposePods

/-- A granted file and how it appears in the container. -/
structure GrantOptions where
  source : String
  target : Option String
  uid : Option String
  gid : Option String
  mode : Option Nat
  deriving DecidableEq

/-- A configuration or secret granted to a service. -/
inductive Grant where
  | name (source : String)
  | detailed (options : GrantOptions)
  deriving DecidableEq

namespace Grant

def optionFields : List String := ["source", "target", "uid", "gid", "mode"]

/-- The largest file mode: that of 32 bits. -/
def largestMode : Nat := Nat.pow 2 32 - 1

def readOptions? (v : Value) : Option GrantOptions := do
  match ← Form.slots? optionFields v with
  | [some source, target, uid, gid, mode] =>
    return {
      source := ← Form.text? source
      target := ← Form.field? Form.text? target
      uid := ← Form.field? Form.text? uid
      gid := ← Form.field? Form.text? gid
      mode := ← Form.field? (Form.natural? largestMode) mode }
  | _ => none

def read? (v : Value) : Option Grant :=
  (.name <$> Form.text? v) <|> (.detailed <$> readOptions? v)

def optionsValue (o : GrantOptions) : Value :=
  .record [("source", some (.string o.source)), ("target", o.target.map .string),
    ("uid", o.uid.map .string), ("gid", o.gid.map .string), ("mode", o.mode.map .ofNat)]

def toValue : Grant → Value
  | .name source => .string source
  | .detailed options => optionsValue options

end Grant

end ComposePods

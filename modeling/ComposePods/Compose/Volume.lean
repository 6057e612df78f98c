import ComposePods.Compose.Alternatives

/-!
# Volumes of a service

A volume is a text such as `data:/var/data`, or a record of the mount.

* `Mount`, `Volume`, with `Volume.read?` and `Volume.toValue`.
-/

namespace ComposePods

/-- A mount and its options. -/
structure Mount where
  type : String
  source : Option String
  target : String
  readOnly : Option Bool
  consistency : Option String
  bind : Option Mapping
  volume : Option Mapping
  tmpfs : Option Mapping
  deriving DecidableEq

/-- A volume of a service. -/
inductive Volume where
  | short (text : String)
  | long (mount : Mount)
  deriving DecidableEq

namespace Volume

def mountFields : List String :=
  ["type", "source", "target", "read_only", "consistency", "bind", "volume", "tmpfs"]

def readMount? (v : Value) : Option Mount := do
  match ← Form.slots? mountFields v with
  | [some type, source, some target, readOnly, consistency, bind, volume, tmpfs] =>
    return {
      type := ← Form.text? type
      source := ← Form.field? Form.text? source
      target := ← Form.text? target
      readOnly := ← Form.field? Form.flag? readOnly
      consistency := ← Form.field? Form.text? consistency
      bind := ← Form.field? Form.mapping? bind
      volume := ← Form.field? Form.mapping? volume
      tmpfs := ← Form.field? Form.mapping? tmpfs }
  | _ => none

def read? (v : Value) : Option Volume :=
  (.short <$> Form.text? v) <|> (.long <$> readMount? v)

def mountValue (m : Mount) : Value :=
  .record [("type", some (.string m.type)), ("source", m.source.map .string),
    ("target", some (.string m.target)), ("read_only", m.readOnly.map .bool),
    ("consistency", m.consistency.map .string), ("bind", m.bind.map .mapping),
    ("volume", m.volume.map .mapping), ("tmpfs", m.tmpfs.map .mapping)]

def toValue : Volume → Value
  | .short text => .string text
  | .long mount => mountValue mount

end Volume

end ComposePods

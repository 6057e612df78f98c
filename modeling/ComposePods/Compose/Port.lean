import ComposePods.Compose.Alternatives

/-!
# Ports

A published port is a number, a text such as `8080:80`, or a record.

* `PortMapping`, `Port`, with `Port.read?` and `Port.toValue`.
-/

namespace ComposePods

/-- A port of the container and how it is published. -/
structure PortMapping where
  target : Nat
  published : Option Nat
  protocol : Option String
  mode : Option String
  deriving DecidableEq

/-- A port of a service. -/
inductive Port where
  | number (n : Nat)
  | short (text : String)
  | long (mapping : PortMapping)
  deriving DecidableEq

namespace Port

def mappingFields : List String := ["target", "published", "protocol", "mode"]

/-- The largest port number. -/
def largest : Nat := Nat.pow 2 16 - 1

def readMapping? (v : Value) : Option PortMapping := do
  match ← Form.slots? mappingFields v with
  | [some target, published, protocol, mode] =>
    return {
      target := ← Form.natural? largest target
      published := ← Form.field? (Form.natural? largest) published
      protocol := ← Form.field? Form.text? protocol
      mode := ← Form.field? Form.text? mode }
  | _ => none

def read? (v : Value) : Option Port :=
  (.number <$> Form.natural? largestCount v) <|> (.short <$> Form.text? v) <|>
    (.long <$> readMapping? v)

def mappingValue (m : PortMapping) : Value :=
  .record [("target", some (.ofNat m.target)), ("published", m.published.map .ofNat),
    ("protocol", m.protocol.map .string), ("mode", m.mode.map .string)]

def toValue : Port → Value
  | .number n => .ofNat n
  | .short text => .string text
  | .long mapping => mappingValue mapping

end Port

end ComposePods

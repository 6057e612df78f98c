import ComposePods.Compose.Alternatives

/-!
# Networks

A service joins networks by a list of their names, or by a mapping that may say how it is attached
to each.

* `Attachment`, `Networks`, with `Networks.read?` and `Networks.toValue`.
-/

namespace ComposePods

/-- How a service is attached to a network. -/
structure Attachment where
  aliases : List String
  ipv4 : Option String
  ipv6 : Option String
  deriving DecidableEq

/-- The networks of a service. -/
inductive Networks where
  | list (names : List String)
  | attached (attachments : Dict (Option Attachment))
  deriving DecidableEq

namespace Networks

def attachmentFields : List String := ["aliases", "ipv4_address", "ipv6_address"]

def readAttachment? (v : Value) : Option Attachment := do
  match ← Form.slots? attachmentFields v with
  | [aliases, ipv4, ipv6] =>
    return {
      aliases := ← Form.fieldOr? [] (Form.listOf? Form.text?) aliases
      ipv4 := ← Form.field? Form.text? ipv4
      ipv6 := ← Form.field? Form.text? ipv6 }
  | _ => none

/-- One network of a mapping; its name is a string. -/
def readEntry? (e : Value × Value) : Option (String × Option Attachment) := do
  some (← Form.text? e.1, ← Form.optional? readAttachment? e.2)

def readAttached? : Value → Option (Dict (Option Attachment))
  | .mapping entries => .ofList <$> entries.mapM readEntry?
  | _ => none

def read? (v : Value) : Option Networks :=
  (.list <$> Form.listOf? Form.text? v) <|> (.attached <$> readAttached? v)

def attachmentValue (a : Attachment) : Value :=
  .record [("aliases", Value.listUnlessEmpty .string a.aliases),
    ("ipv4_address", a.ipv4.map .string), ("ipv6_address", a.ipv6.map .string)]

def attachmentOrNull : Option Attachment → Value
  | none => .null
  | some a => attachmentValue a

def toValue : Networks → Value
  | .list names => .strings names
  | .attached attachments => .ofDict attachmentOrNull attachments

end Networks

end ComposePods

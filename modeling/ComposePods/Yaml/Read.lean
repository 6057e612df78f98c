import ComposePods.Yaml.Node
import ComposePods.Yaml.Scalar

/-!
# Reading documents

A node stands for a document value. Plain scalars are resolved, other scalars are strings; tags of
the format's own schema say what a scalar has to be, local tags are kept, and others only make a
string of a scalar. When a typed property is read straight from a node, a text is the text of any
scalar.

* `Node.localTag?`: the tag that a value keeps;
* `Node.value`, `Node.untaggedValue`: the value of a node;
* the instance of `Source` for `Node`;
* `Yaml.read`: the value of a text.
-/

namespace ComposePods

namespace Node

/-- The tags of the format's own schema start with this. -/
def schema : String := "tag:yaml.org,2002:"

/-- The tag of the format's own schema with the given name. -/
def hasSchemaTag (tag : Option String) (name : String) : Bool := tag == some (schema ++ name)

/-- The tag that a value keeps, with one exclamation mark in front; the name may itself be such a
mark. -/
def localTag? : Option String → Option String
  | none => none
  | some tag =>
    match tag.toList with
    | ['!'] | ['!', '!'] => some "!!"
    | '!' :: '!' :: name => some (String.ofList ('!' :: name))
    | '!' :: name => some (String.ofList ('!' :: name))
    | _ => none

/-- What a plain scalar stands for. -/
def plainValue (text : String) : Except TypeError Value :=
  match Scalar.resolve text with
  | .null => .ok .null
  | .bool b => .ok (.bool b)
  | .integer i => .ok (.number (.integer i))
  | .oversized => .error .malformed
  | .real x => .ok (.number (.real x))
  | .text => .ok (.string text)

/-- What a scalar without a tag stands for. -/
def bareValue (form : ScalarForm) (text : String) : Except TypeError Value :=
  if form = .plain then plainValue text else .ok (.string text)

/-- The value that a scalar must have under a tag, if it has it. -/
def demand (v : Option Value) : Except TypeError Value :=
  match v with
  | some v => .ok v
  | none => .error .malformed

/-- The integer of a scalar. -/
def integer? (text : String) : Option Value :=
  match Scalar.resolveInteger text with
  | some (.integer i) => some (.number (.integer i))
  | _ => none

/-- What a scalar without a local tag stands for. -/
def scalarValue (tag : Option String) (form : ScalarForm) (text : String) :
    Except TypeError Value :=
  if tag = none then bareValue form text
  else if hasSchemaTag tag "bool" then demand ((Scalar.bool? text).map .bool)
  else if hasSchemaTag tag "int" then demand (integer? text)
  else if hasSchemaTag tag "float" then demand ((Scalar.real? text).map fun x => .number (.real x))
  else if hasSchemaTag tag "null" then demand (if Scalar.isNull text then some .null else none)
  else .ok (.string text)

/-- A value under the local tag, if there is one. -/
def underTag (tag : Option String) (v : Value) : Value :=
  match localTag? tag with
  | some t => .tagged t v
  | none => v

mutual

/-- The value of a node. A mapping has no two entries of the same key. -/
def value : Node → Except TypeError Value
  | .scalar tag form text =>
    match localTag? tag with
    | some t => return .tagged t (← bareValue form text)
    | none => scalarValue tag form text
  | .sequence tag items => return underTag tag (.sequence (← itemValues items))
  | .mapping tag entries => return underTag tag (.mapping (← entryValues [] entries))
  | .absent => .ok .null
  | .cut => .error .malformed
termination_by structural n => n

/-- The values of some items. -/
def itemValues : List Node → Except TypeError (List Value)
  | [] => .ok []
  | n :: ns => return (← value n) :: (← itemValues ns)
termination_by structural ns => ns

/-- The values of some entries behind those that have been read. -/
def entryValues (read : Mapping) : List (Node × Node) → Except TypeError Mapping
  | [] => .ok read
  | (k, v) :: es => do
    let k ← value k
    if Mapping.contains read k then throw .repeatedKey
    entryValues (read ++ [(k, ← value v)]) es
termination_by structural es => es

end

mutual

/-- The value of a node in which there are no local tags; keys are not compared. -/
def untaggedValue : Node → Except TypeError Value
  | .scalar tag form text =>
    match localTag? tag with
    | some _ => .error .taggedForm
    | none => scalarValue tag form text
  | .sequence tag items =>
    match localTag? tag with
    | some _ => .error .taggedForm
    | none => return .sequence (← untaggedItems items)
  | .mapping tag entries =>
    match localTag? tag with
    | some _ => .error .taggedForm
    | none => return .mapping (← untaggedEntries entries)
  | .absent => .ok .null
  | .cut => .error .malformed
termination_by structural n => n

/-- The values of some items. -/
def untaggedItems : List Node → Except TypeError (List Value)
  | [] => .ok []
  | n :: ns => return (← untaggedValue n) :: (← untaggedItems ns)
termination_by structural ns => ns

/-- The values of some entries. -/
def untaggedEntries : List (Node × Node) → Except TypeError Mapping
  | [] => .ok []
  | (k, v) :: es => return (← untaggedValue k, ← untaggedValue v) :: (← untaggedEntries es)
termination_by structural es => es

end

/-! ## Typed properties -/

/-- Something else than wanted was found. -/
def refuse {β : Type} (wanted : String) : Node → Except TypeError β
  | .scalar _ _ text => .error (.wrongShape (.string text) wanted)
  | .sequence _ _ => .error (.wrongShape .sequence wanted)
  | .mapping _ _ => .error (.wrongShape .mapping wanted)
  | .absent => .error (.wrongShape .unit wanted)
  | .cut => .error .malformed

/-- The scalar is plain, or a block that has the tag of the format's own schema. -/
def isOpen (tag : Option String) (form : ScalarForm) (name : String) : Bool :=
  match form with
  | .plain => true
  | .literal => hasSchemaTag tag name
  | .quoted => false

/-- Nothing is set: the node is a plain scalar that stands for null. -/
def isUnset : Node → Except TypeError Bool
  | .scalar tag .plain text =>
    if hasSchemaTag tag "null" then if Scalar.isNull text then .ok true else .error .malformed
    else .ok (tag = none ∧ (text = "" ∨ Scalar.isNull text))
  | .scalar _ _ _ | .sequence _ _ | .mapping _ _ => .ok false
  | .absent => .ok true
  | .cut => .error .malformed

/-- The text of any scalar. -/
def readText : Node → Except TypeError String
  | .scalar _ _ text => .ok text
  | n => n.refuse "a string"

/-- A boolean. -/
def readFlag : Node → Except TypeError Bool
  | .scalar tag form text =>
    match isOpen tag form "bool", Scalar.bool? text with
    | true, some b => .ok b
    | _, _ => refuse "a boolean" (.scalar tag form text)
  | n => n.refuse "a boolean"

/-- An integer without a minus sign. -/
def natural? (text : String) : Option Nat :=
  if text.toList.head? = some '-' then none
  else (Scalar.integer? text.toList).bind fun i => if Scalar.isWord i then some i.toNat else none

/-- An integer that is not negative. -/
def readCount : Node → Except TypeError Nat
  | .scalar tag form text =>
    match isOpen tag form "int", natural? text with
    | true, some n => .ok n
    | _, _ => refuse "u64" (.scalar tag form text)
  | n => n.refuse "u64"

/-- The items of a sequence; an empty place has none. -/
def readItems : Node → Except TypeError (List Node)
  | .sequence _ items => .ok items
  | .absent | .scalar _ .plain "" => .ok []
  | n => n.refuse "a sequence"

/-- The entries of a mapping; an empty place has none. -/
def readEntries (wanted : String) : Node → Except TypeError (List (Node × Node))
  | .mapping _ entries => .ok entries
  | .absent | .scalar _ .plain "" => .ok []
  | n => n.refuse wanted

instance : Source Node where
  isUnset := isUnset
  text := readText
  flag := readFlag
  count := readCount
  items := readItems
  entries := readEntries
  name := readText
  value := value
  untaggedValue := untaggedValue

end Node

/-- The value of a text. -/
def Yaml.read (text : String) : Except TypeError Value := (Document.ofText text).read Node.value

end ComposePods

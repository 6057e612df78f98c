import ComposePods.Compose.Loose
import ComposePods.Yaml.Page

/-!
# Writing documents

A document value is written in block style: entries and items one below the other, nested
collections indented by two, a sequence not indented below its key. Keys of one short line stand
before a colon, others behind a question mark.

Two things cannot be written: a tag right under a tag, and a mapping of one entry whose key is
tagged or is itself a mapping of one entry, unless the outer mapping is tagged.

* `Yaml.isWritable`, `Yaml.write?`.
-/

namespace ComposePods

namespace Yaml

/-- A key that cannot be the only one of a mapping. -/
def isAwkwardKey : Value → Bool
  | .tagged _ _ | .mapping [_] => true
  | _ => false

mutual

/-- The value can be written; `tagged` says that it stands right under a tag. -/
def isWritable (tagged : Bool) : Value → Bool
  | .null | .bool _ | .number _ | .string _ => true
  | .sequence items => areWritable items
  | .mapping entries =>
    entriesWritable entries &&
      match entries with
      | [(k, _)] => tagged || !isAwkwardKey k
      | _ => true
  | .tagged _ v => !tagged && isWritable true v
termination_by structural v => v

/-- All items can be written. -/
def areWritable : List Value → Bool
  | [] => true
  | v :: vs => isWritable false v && areWritable vs
termination_by structural vs => vs

/-- All keys and values can be written. -/
def entriesWritable : List (Value × Value) → Bool
  | [] => true
  | (k, v) :: es => isWritable false k && isWritable false v && entriesWritable es
termination_by structural es => es

end

/-- Where a value stands. -/
inductive Place where
  | root
  | item
  | entry
  | shortKey
  deriving DecidableEq

/-- The words for the booleans. -/
def boolWord (b : Bool) : String := if b then "true" else "false"

/-- The bytes that a tag takes in front of a key. -/
def tagSize : Option String → Nat
  | none => 0
  | some t => match Page.tagName t with
    | [] => 1
    | name => 1 + (String.ofList name).utf8ByteSize

/-- The most bytes that a key before a colon has, its tag included. -/
def longestKey : Nat := 128

/-- A key of one line that is not too long. -/
def isShortKey (tag : Option String) : Value → Bool
  | .tagged t v => isShortKey (some t) v
  | .null => tagSize tag + "null".utf8ByteSize ≤ longestKey
  | .bool b => tagSize tag + (boolWord b).utf8ByteSize ≤ longestKey
  | .number n => tagSize tag + n.text.utf8ByteSize ≤ longestKey
  | .string s => !s.toList.any Yaml.isBreak && tagSize tag + s.utf8ByteSize ≤ longestKey
  | .sequence items => items.isEmpty && tagSize tag ≤ longestKey
  | .mapping entries => entries.isEmpty && tagSize tag ≤ longestKey

/-- The indentation inside a collection; the outermost one is not indented. -/
def deeper : Option Nat → Nat
  | none => 0
  | some indent => indent + 2

/-- The indentation of the further lines of a scalar. -/
def deeperScalar : Option Nat → Nat
  | none => 2
  | some indent => indent + 2

mutual

/-- Write a value that stands at a place of a collection of the given indentation. -/
def writeNode (place : Place) (indent : Option Nat) (tag : Option String) : Value → Page → Page
  | .tagged t v, p => writeNode place indent (some t) v p
  | .string s, p =>
    let cs := s.toList
    let style := Style.choose (Style.wanted s) (Style.traits cs) (place == .shortKey)
    (p.tag tag).scalar style (deeperScalar indent) cs
  | .null, p => (p.tag tag).scalar .plain 0 "null".toList
  | .bool b, p => (p.tag tag).scalar .plain 0 (boolWord b).toList
  | .number n, p => (p.tag tag).scalar .plain 0 n.text.toList
  | .sequence items, p =>
    let p := p.tag tag
    if items.isEmpty then (p.mark ['['] true true false).mark [']'] false false false
    else
      let flush := (place == .entry || place == .shortKey) && !p.fresh
      writeItems (if flush then indent.getD 0 else deeper indent) items p
  | .mapping entries, p =>
    let p := p.tag tag
    if entries.isEmpty then (p.mark ['{'] true true false).mark ['}'] false false false
    else writeEntries (deeper indent) entries p
termination_by structural v => v

/-- Write items one below the other. -/
def writeItems (indent : Nat) : List Value → Page → Page
  | [], p => p
  | v :: vs, p =>
    let p := (p.indentTo indent).mark ['-'] true false true
    writeItems indent vs (writeNode .item (some indent) none v p)
termination_by structural vs => vs

/-- Write entries one below the other. -/
def writeEntries (indent : Nat) : List (Value × Value) → Page → Page
  | [], p => p
  | (k, v) :: es, p =>
    let p := p.indentTo indent
    let p :=
      if isShortKey none k then
        (writeNode .shortKey (some indent) none k p).mark [':'] false false false
      else
        let p := writeNode .entry (some indent) none k (p.mark ['?'] true false true)
        (p.indentTo indent).mark [':'] true false true
    writeEntries indent es (writeNode .entry (some indent) none v p)
termination_by structural es => es

end

/-- The text of a document, if the value can be written. -/
def write? (v : Value) : Option String :=
  if isWritable false v then some ((writeNode .root none none v .blank).indentTo 0).text else none

end Yaml

end ComposePods

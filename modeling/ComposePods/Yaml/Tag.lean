import ComposePods.Binary64.Read
import ComposePods.Yaml.Block

/-!
# Tags and directives

A tag is written out between angle brackets, or is a suffix behind a handle, which directives give a
meaning. In tags a percent sign and two digits stand for an octet.

* `Yaml.tagText?`: the text of the characters of a tag;
* `Yaml.WrittenTag`, `Yaml.readTag`;
* `Yaml.Directive`, `Yaml.readDirective`.
-/

namespace ComposePods

namespace Yaml

/-- How many octets a character takes that starts with the given octet. -/
def octetCount? (octet : Nat) : Option Nat :=
  if octet < 0x80 then some 1
  else if 0xC0 ≤ octet ∧ octet < 0xE0 then some 2
  else if 0xE0 ≤ octet ∧ octet < 0xF0 then some 3
  else if 0xF0 ≤ octet ∧ octet < 0xF8 then some 4
  else none

/-- The octets of the characters of a tag; so many octets of the current character are missing. -/
def tagOctets : (missing : Nat) → List Char → Option (List UInt8)
  | 0, [] => some []
  | _ + 1, [] => none
  | missing, '%' :: a :: b :: rest => do
    let octet := (← Text.digit? 16 a) * 16 + (← Text.digit? 16 b)
    match missing with
    | 0 => return .ofNat octet :: (← tagOctets ((← octetCount? octet) - 1) rest)
    | left + 1 =>
      if 0x80 ≤ octet ∧ octet < 0xC0 then return .ofNat octet :: (← tagOctets left rest) else none
  | 0, c :: rest =>
    if c = '%' then none else return .ofNat c.toNat :: (← tagOctets 0 rest)
  | _ + 1, _ :: _ => none

/-- The text of the characters of a tag. -/
def tagText? (cs : List Char) : Option String :=
  (tagOctets 0 cs).bind fun octets => String.fromUTF8? ⟨octets.toArray⟩

/-- A tag as it is written; a tag that is written out has the empty handle. -/
structure WrittenTag where
  handle : String
  suffix : String
  deriving DecidableEq

/-- The tag behind an exclamation mark, how many characters it takes, and what follows it. -/
def readTagAfterMark (cs : List Char) : Option (WrittenTag × Nat × List Char) :=
  match cs with
  | '<' :: cs => do
    let name := cs.takeWhile (isTagChar true)
    match cs.dropWhile (isTagChar true) with
    | '>' :: rest =>
      if name.isEmpty then none else return (⟨"", ← tagText? name⟩, name.length + 2, rest)
    | _ => none
  | _ =>
    let word := cs.takeWhile isWordChar
    match cs.dropWhile isWordChar with
    | '!' :: cs => do
      let name := cs.takeWhile (isTagChar false)
      if name.isEmpty then none
      else return (⟨String.ofList ('!' :: word ++ ['!']), ← tagText? name⟩,
        word.length + 1 + name.length, cs.dropWhile (isTagChar false))
    | _ => do
      let name := cs.takeWhile (isTagChar false)
      if name.isEmpty then return (⟨"", "!"⟩, 0, cs)
      else return (⟨"!", ← tagText? name⟩, name.length, cs.dropWhile (isTagChar false))

/-- A tag is followed by a gap, inside brackets also by a comma. -/
def endsTag (flow : Bool) : List Char → Bool
  | ',' :: _ => flow
  | cs => gapAhead cs

/-- The tag at the exclamation mark in front of the characters. -/
def readTag (flow : Bool) (cs : List Char) : Option (WrittenTag × Nat × List Char) :=
  (readTagAfterMark cs).filter fun (_, _, rest) => endsTag flow rest

/-! ## Directives -/

/-- A directive: the version of the format, or the meaning of a handle. -/
inductive Directive where
  | version (major minor : Nat)
  | handle (name expansion : String)
  deriving DecidableEq

/-- A number of at most nine digits. -/
def readVersionNumber (cs : List Char) : Option (Nat × List Char) := do
  let digits := cs.takeWhile Char.isDigit
  if digits.length ≤ 9 then return (← Text.digits? 10 digits, cs.dropWhile Char.isDigit) else none

/-- Two numbers with a point between them. -/
def readVersion (cs : List Char) : Option (Directive × List Char) := do
  let (major, rest) ← readVersionNumber (cs.dropWhile isBlank)
  match rest with
  | '.' :: rest =>
    let (minor, rest) ← readVersionNumber rest
    return (.version major minor, rest)
  | _ => none

/-- A handle: an exclamation mark, alone or with a second one behind a word. -/
def readHandle : List Char → Option (String × List Char)
  | '!' :: cs =>
    let word := cs.takeWhile isWordChar
    match cs.dropWhile isWordChar with
    | '!' :: rest => some (String.ofList ('!' :: word ++ ['!']), rest)
    | rest => if word.isEmpty then some ("!", rest) else none
  | _ => none

/-- A handle and what it stands for, with blanks between them. -/
def readHandleMeaning (cs : List Char) : Option (Directive × List Char) := do
  let (name, rest) ← readHandle (cs.dropWhile isBlank)
  let word := rest.dropWhile isBlank
  let expansion := word.takeWhile (isTagChar true)
  let behind := word.dropWhile (isTagChar true)
  if rest.head?.any isBlank && !expansion.isEmpty && gapAhead behind then
    return (.handle name (← tagText? expansion), behind)
  else none

/-- The directive behind a percent sign, and what follows its line. -/
def readDirective (cs : List Char) : Option (Directive × List Char) := do
  let word := cs.takeWhile isWordChar
  let rest := cs.dropWhile isWordChar
  let (directive, rest) ←
    if !gapAhead rest then none
    else if word = "YAML".toList then readVersion rest
    else if word = "TAG".toList then readHandleMeaning rest
    else none
  return (directive, ← restOfLine false rest)

end Yaml

end ComposePods

import ComposePods.Yaml.Token

/-!
# Trees of a text

The tokens of a document form a tree of scalars, sequences and mappings, which may have anchors and
tags, and of aliases. Where the text is not well formed the tree is cut: everything before that
place is in the tree, nothing behind it.

* `Tree`: the payload of an alias is its name, or later what the name stands for;
* `Tree.Parsed`: a tree or several, and the tokens behind, unless the tree is cut;
* `Tree.node`, `Tree.blockItems`, …: the grammar;
* `Tree.OfText`, `Tree.ofTokens`: the tree of a text of one document.
-/

namespace ComposePods

/-- What is written in front of a value. -/
structure Marks where
  anchor : Option String
  tag : Option String
  deriving DecidableEq

/-- No anchor and no tag. -/
def Marks.none : Marks := ⟨Option.none, Option.none⟩

/-- A document as it is written. -/
inductive Tree (α : Type) where
  | alias (target : α)
  | scalar (marks : Marks) (form : ScalarForm) (text : String)
  | sequence (marks : Marks) (items : List (Tree α))
  | mapping (marks : Marks) (entries : List (Tree α × Tree α))
  /-- Nothing: the text is empty. -/
  | absent
  /-- The text is not well formed here. -/
  | cut

namespace Tree

/-- A value that is left out. -/
def missing {α : Type} : Tree α := .scalar .none .plain ""

/-- The meanings of handles. -/
abbrev Handles := List (String × String)

/-- The handles that have a meaning in every document. -/
def standardHandles : Handles := [("!", "!"), ("!!", "tag:yaml.org,2002:")]

/-- The full text of a tag; without a handle its suffix is the full text. -/
def fullTag? (handles : Handles) (t : Yaml.WrittenTag) : Option String :=
  if t.handle = "" then some t.suffix else (handles.lookup t.handle).map (· ++ t.suffix)

/-- The marks at the start of some tokens: at most one anchor and one tag, in either order. -/
def readMarks (handles : Handles) : List Token → Option (Marks × List Token)
  | .anchor a :: .tag t :: rest => (fullTag? handles t).map fun tag => (⟨some a, some tag⟩, rest)
  | .anchor a :: rest => some (⟨some a, none⟩, rest)
  | .tag t :: .anchor a :: rest => (fullTag? handles t).map fun tag => (⟨some a, some tag⟩, rest)
  | .tag t :: rest => (fullTag? handles t).map fun tag => (⟨none, some tag⟩, rest)
  | rest => some (.none, rest)

/-- What has been read, and the tokens behind it; none of them if it is cut. -/
abbrev Parsed (β : Type) := β × Option (List Token)

/-- Change what has been read. -/
def Parsed.map {β γ : Type} (f : β → γ) (p : Parsed β) : Parsed γ := (f p.1, p.2)

/-- Go on behind what has been read, unless it is cut. -/
def Parsed.andThen {β γ : Type} (p : Parsed β) (stop : β → γ) (go : β → List Token → Parsed γ) :
    Parsed γ :=
  match p.2 with
  | none => (stop p.1, none)
  | some rest => go p.1 rest

/-- The text is not well formed where an item is expected. -/
def noItem : Parsed (List (Tree String)) := ([.cut], none)

/-- The text is not well formed where an entry is expected. -/
def noEntry : Parsed (List (Tree String × Tree String)) := ([(.cut, .cut)], none)

/-- Where a value stands: values in blocks may be blocks, and the value of a key may be a list of
items that is not indented. -/
inductive Setting where
  | flow
  | block
  | blockEntry
  deriving DecidableEq

/-- Tokens at which an item of a block is left out. -/
def endsItem : Token → Bool
  | .dash | .blockEnd => true
  | _ => false

/-- Tokens at which an item that is not indented is left out. -/
def endsLooseItem : Token → Bool
  | .dash | .key | .value | .blockEnd => true
  | _ => false

/-- Tokens at which a key or a value of a block is left out. -/
def endsEntry : Token → Bool
  | .key | .value | .blockEnd => true
  | _ => false

/-- Tokens at which a key in braces is left out. -/
def endsFlowKey : Token → Bool
  | .value | .comma | .closeBrace => true
  | _ => false

/-- Tokens at which a value in braces is left out. -/
def endsFlowValue : Token → Bool
  | .comma | .closeBrace => true
  | _ => false

/-- Tokens at which the value of a single entry in brackets is left out. -/
def endsPairValue : Token → Bool
  | .comma | .closeBracket => true
  | _ => false

/-- A value, unless it is left out. -/
def valueUnless (ends : Token → Bool) (read : List Token → Parsed (Tree String)) :
    List Token → Parsed (Tree String)
  | [] => (.cut, none)
  | t :: rest => if ends t then (missing, some (t :: rest)) else read (t :: rest)

/-- The value behind its mark; without the mark it is left out. -/
def valueAfterMark (ends : Token → Bool) (read : List Token → Parsed (Tree String)) :
    List Token → Parsed (Tree String)
  | [] => (.cut, none)
  | .value :: rest => valueUnless ends read rest
  | ts => (missing, some ts)

/-- A value that is always left out, as long as the text goes on. -/
def noValue : List Token → Parsed (Tree String)
  | [] => (.cut, none)
  | ts => (missing, some ts)

/-- An item and those behind it. -/
def item (first : Parsed (Tree String)) (others : List Token → Parsed (List (Tree String))) :
    Parsed (List (Tree String)) :=
  first.andThen (fun x => [x]) fun x rest => (others rest).map (x :: ·)

/-- An entry and those behind it. -/
def entry (key : Parsed (Tree String)) (value : List Token → Parsed (Tree String))
    (others : List Token → Parsed (List (Tree String × Tree String))) :
    Parsed (List (Tree String × Tree String)) :=
  key.andThen (fun k => [(k, .cut)]) fun k rest =>
    (value rest).andThen (fun v => [(k, v)]) fun v rest => (others rest).map ((k, v) :: ·)

/-- The key of a single entry in brackets. Where it is left out, the token behind it is passed
over. -/
def pairKey (read : List Token → Parsed (Tree String)) : List Token → Parsed (Tree String)
  | [] => (.cut, none)
  | .value :: rest | .comma :: rest | .closeBracket :: rest => (missing, some rest)
  | ts => read ts

/-- Nothing more, as long as the text goes on. -/
def endOfPair : List Token → Parsed (List (Tree String × Tree String))
  | [] => noEntry
  | ts => ([], some ts)

/-- A value with marks and nothing else, or no value at all. -/
def unmarked (marks : Marks) (ts : List Token) : Parsed (Tree String) :=
  if marks = .none then (.cut, none) else (.scalar marks .plain "", some ts)

/-- The tokens of the next part in brackets or braces; a comma stands before all but the first
one. -/
def afterComma (first : Bool) : List Token → Option (List Token)
  | .comma :: rest => if first then some (.comma :: rest) else some rest
  | ts => if first then some ts else none

mutual

/-- A value with its marks. -/
def node (handles : Handles) (fuel : Nat) (setting : Setting) (ts : List Token) :
    Parsed (Tree String) :=
  match fuel with
  | 0 => (.cut, none)
  | fuel + 1 =>
    match ts with
    | .alias name :: rest => (.alias name, some rest)
    | _ =>
      match readMarks handles ts with
      | none => (.cut, none)
      | some (marks, ts) =>
        match ts with
        | [] => (.cut, none)
        | .scalar form text :: rest => (.scalar marks form text, some rest)
        | .openBracket :: rest => (flowItems handles fuel true rest).map (.sequence marks)
        | .openBrace :: rest => (flowEntries handles fuel true rest).map (.mapping marks)
        | .dash :: _ =>
          if setting = .blockEntry then (looseItems handles fuel ts).map (.sequence marks)
          else unmarked marks ts
        | .blockSequence :: rest =>
          if setting = .flow then unmarked marks ts
          else (blockItems handles fuel rest).map (.sequence marks)
        | .blockMapping :: rest =>
          if setting = .flow then unmarked marks ts
          else (blockEntries handles fuel rest).map (.mapping marks)
        | _ => unmarked marks ts
termination_by structural fuel

/-- The items of a block. -/
def blockItems (handles : Handles) (fuel : Nat) (ts : List Token) : Parsed (List (Tree String)) :=
  match fuel with
  | 0 => noItem
  | fuel + 1 =>
    match ts with
    | .dash :: rest =>
      item (valueUnless endsItem (node handles fuel .block) rest) (blockItems handles fuel)
    | .blockEnd :: rest => ([], some rest)
    | _ => noItem
termination_by structural fuel

/-- The items of a list that is not indented. -/
def looseItems (handles : Handles) (fuel : Nat) (ts : List Token) : Parsed (List (Tree String)) :=
  match fuel with
  | 0 => noItem
  | fuel + 1 =>
    match ts with
    | [] => noItem
    | .dash :: rest =>
      item (valueUnless endsLooseItem (node handles fuel .block) rest) (looseItems handles fuel)
    | ts => ([], some ts)
termination_by structural fuel

/-- The entries of a block. -/
def blockEntries (handles : Handles) (fuel : Nat) (ts : List Token) :
    Parsed (List (Tree String × Tree String)) :=
  match fuel with
  | 0 => noEntry
  | fuel + 1 =>
    match ts with
    | .key :: rest =>
      entry (valueUnless endsEntry (node handles fuel .blockEntry) rest)
        (valueAfterMark endsEntry (node handles fuel .blockEntry)) (blockEntries handles fuel)
    | .blockEnd :: rest => ([], some rest)
    | _ => noEntry
termination_by structural fuel

/-- The items in brackets; an entry among them is a mapping of its own. -/
def flowItems (handles : Handles) (fuel : Nat) (first : Bool) (ts : List Token) :
    Parsed (List (Tree String)) :=
  match fuel with
  | 0 => noItem
  | fuel + 1 =>
    match ts with
    | .closeBracket :: rest => ([], some rest)
    | _ =>
      match afterComma first ts with
      | none | some [] => noItem
      | some (.closeBracket :: rest) => ([], some rest)
      | some (.key :: rest) =>
        let pair := entry (pairKey (node handles fuel .flow) rest)
          (valueAfterMark endsPairValue (node handles fuel .flow)) endOfPair
        item (pair.map (.mapping .none)) (flowItems handles fuel false)
      | some ts => item (node handles fuel .flow ts) (flowItems handles fuel false)
termination_by structural fuel

/-- The entries in braces; a key without a value may stand alone. -/
def flowEntries (handles : Handles) (fuel : Nat) (first : Bool) (ts : List Token) :
    Parsed (List (Tree String × Tree String)) :=
  match fuel with
  | 0 => noEntry
  | fuel + 1 =>
    match ts with
    | .closeBrace :: rest => ([], some rest)
    | _ =>
      match afterComma first ts with
      | none | some [] => noEntry
      | some (.closeBrace :: rest) => ([], some rest)
      | some (.key :: rest) =>
        entry (valueUnless endsFlowKey (node handles fuel .flow) rest)
          (valueAfterMark endsFlowValue (node handles fuel .flow)) (flowEntries handles fuel false)
      | some ts => entry (node handles fuel .flow ts) noValue (flowEntries handles fuel false)
termination_by structural fuel

end

/-! ## Documents -/

/-- The tree of a text, and whether the text is well formed and ends behind it. -/
structure OfText where
  root : Tree String
  sound : Bool

/-- The text is not well formed before the document starts. -/
def OfText.unsound : OfText := ⟨.cut, false⟩

/-- Only marks of the end of the document come before the end of the text. -/
def endsText : List Token → Bool
  | .documentEnd :: rest => endsText rest
  | .streamEnd :: _ => true
  | _ => false

/-- The text of a document of which the root has been read. -/
def ofRoot (root : Parsed (Tree String)) : OfText := ⟨root.1, root.2.any endsText⟩

/-- The versions of the format that are known. -/
def isKnownVersion (major minor : Nat) : Bool := major == 1 && (minor == 1 || minor == 2)

/-- The handles that directives define; there may be one version and one meaning of each handle. -/
def readDirectives : (versioned : Bool) → Handles → List Token → Option (Handles × List Token)
  | versioned, handles, .directive (.version major minor) :: rest =>
    if versioned || !isKnownVersion major minor then none else readDirectives true handles rest
  | versioned, handles, .directive (.handle name expansion) :: rest =>
    if (handles.lookup name).isSome then none
    else readDirectives versioned (handles ++ [(name, expansion)]) rest
  | _, handles, ts => some (handles, ts)

/-- The document behind its start; it may be left out. -/
def content (fuel : Nat) (handles : Handles) : List Token → Parsed (Tree String)
  | [] => (.cut, none)
  | t :: rest =>
    match t with
    | .directive _ | .documentStart | .documentEnd | .streamEnd => (missing, some (t :: rest))
    | _ => node handles fuel .block (t :: rest)

/-- The tree of a text of one document. -/
def ofTokens (ts : List Token) : OfText :=
  let fuel := 3 * ts.length + 3
  match ts with
  | [] => .unsound
  | .streamEnd :: _ => ⟨.absent, true⟩
  | t :: _ =>
    match t with
    | .directive _ | .documentStart =>
      match readDirectives false [] ts with
      | some (handles, .documentStart :: rest) =>
        ofRoot (content fuel (handles ++ standardHandles) rest)
      | _ => .unsound
    | _ => ofRoot (node standardHandles fuel .block ts)

end Tree

end ComposePods

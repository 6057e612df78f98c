import ComposePods.Markup.Piece
import ComposePods.Text.Blank

/-!
# Nodes of a template

The pieces of a template nest: choices, loops and other tags hold the pieces up to the tag that ends
them.

* `Node`, `Snippet`, `Body`;
* `Node.ofPieces?`: the nodes of some pieces;
* `Body.ofText?`: a template with its snippets, if it is well-formed.
-/

namespace ComposePods

namespace Markup

/-- A part of a template. -/
inductive Node where
  | text (s : String)
  | output (e : Expression)
  /-- Set a variable, also outside of the loops around. -/
  | assign (shared : Bool) (name : String) (e : Expression)
  | choice (test : Expression) (yes no : List Node)
  | loop (key? : Option String) (value : String) (range : Expression) (body otherwise : List Node)
  | leave
  | next
  | filter (name : String) (args : List (String × Expression)) (body : List Node)
  | block (name : String) (body : List Node)
  | define (name : String) (parameters : List (String × Option Datum)) (body : List Node)
  /-- What does not exist. -/
  | missing
  deriving Inhabited

/-- A named body with parameters, which may have values of their own. -/
structure Snippet where
  name : String
  parameters : List (String × Option Datum)
  body : List Node

/-- A template and the snippets that it defines. -/
structure Body where
  nodes : List Node
  snippets : List Snippet

namespace Node

/-! ## Nesting -/

/-- The tags around a piece, which decide what may stand there. -/
structure Place where
  /-- Snippets may be defined. -/
  defines : Bool
  /-- Blocks may stand here. -/
  blocks : Bool
  /-- The loop around may be left. -/
  leaves : Bool
  /-- The pieces belong to a loop directly, so that `else` is a tag of the loop. -/
  inLoop : Bool
  /-- White space stays as it is written, whatever the dashes say. -/
  written : Bool

namespace Place

/-- The place of what is in no tag. -/
def top : Place := ⟨true, true, false, false, false⟩

/-- The place inside a choice. -/
def choice (p : Place) : Place := { p with inLoop := false }

/-- The place inside a loop. -/
def loop (p : Place) : Place := ⟨false, false, true, true, p.written⟩

/-- The place inside what a loop does when there is nothing to run over. -/
def otherwise (p : Place) : Place := ⟨false, false, true, false, p.written || true⟩

/-- The place inside a filter. -/
def filter (p : Place) : Place := ⟨false, p.blocks, false, false, p.written⟩

/-- The place inside a block. -/
def block (p : Place) : Place := ⟨false, true, false, false, p.written⟩

/-- The place inside a snippet. -/
def define (p : Place) : Place := ⟨false, false, false, false, p.written⟩

end Place

/-- A text without the white space on the sides where a dash stands. -/
def trimmed (before after : Bool) (cs : List Char) : String :=
  let cs := if before then cs.dropWhile Text.isBlank else cs
  String.ofList (if after then Text.dropEnd Text.isBlank cs else cs)

/-- The dash of the tag that follows, unless it is the `else` of a loop. -/
def dashAhead (inLoop : Bool) : List Piece → Bool
  | .tag dash t _ :: _ => match t with
    | .otherwise => dash && !inLoop
    | _ => dash
  | _ => false

/-- The nodes without the white space at the end of a last text. -/
def trimLast : List Node → List Node
  | [] => []
  | [.text s] => [.text (Text.trimEnd s)]
  | n :: ns => n :: trimLast ns

mutual

/-- The nodes up to the first tag that does not start or belong to one, and the pieces from there
on. `dash` says whether the tag before has a dash. -/
def ofPieces? (p : Place) (dash : Bool) :
    (fuel : Nat) → List Piece → Option (List Node × List Piece)
  | 0, _ => none
  | _, [] => some ([], [])
  | fuel + 1, .text cs :: rest => do
    let after := dashAhead p.inLoop rest
    let node := .text (trimmed (dash && !p.written) (after && !p.written) cs)
    let (nodes, rest) ← ofPieces? p false fuel rest
    return (node :: nodes, rest)
  | fuel + 1, .tag before t after :: rest =>
    let single (node : Node) : Option (List Node × List Piece) := do
      let (nodes, rest) ← ofPieces? p after fuel rest
      return (node :: nodes, rest)
    match t with
    | .output e => single (.output e)
    | .comment => ofPieces? p after fuel rest
    | .assign shared name e => single (.assign shared name e)
    | .leave => if p.leaves then single .leave else none
    | .next => if p.leaves then single .next else none
    | .raw inside cs left =>
      single (.text (trimmed (inside && !p.written) (left && !p.written) cs))
    | .inclusion optional => if optional then single (.text "") else single .missing
    | .extended => single .missing
    | .choice test => do
      let (node, after, rest) ← choiceOf? p test after fuel rest
      let (nodes, rest) ← ofPieces? p after fuel rest
      return (node :: nodes, rest)
    | .loop key? value range => do
      let (body, rest) ← ofPieces? p.loop after fuel rest
      match rest with
      | .tag _ .endLoop after :: rest =>
        let (nodes, rest) ← ofPieces? p after fuel rest
        return (.loop key? value range body [] :: nodes, rest)
      | .tag _ .otherwise _ :: rest =>
        let (otherwise, rest) ← ofPieces? p.otherwise false fuel rest
        match rest with
        | .tag dash .endLoop after :: rest =>
          let body := if dash && !p.written then trimLast body else body
          let (nodes, rest) ← ofPieces? p after fuel rest
          return (.loop key? value range body otherwise :: nodes, rest)
        | _ => none
      | _ => none
    | .filter name args => do
      let (body, rest) ← ofPieces? p.filter after fuel rest
      match rest with
      | .tag _ .endFilter after :: rest =>
        let (nodes, rest) ← ofPieces? p after fuel rest
        return (.filter name args body :: nodes, rest)
      | _ => none
    | .block name =>
      if p.blocks then do
        let (body, rest) ← ofPieces? p.block after fuel rest
        match rest with
        | .tag _ .endBlock after :: rest =>
          let (nodes, rest) ← ofPieces? p after fuel rest
          return (.block name body :: nodes, rest)
        | _ => none
      else none
    | .define name parameters =>
      if p.defines then do
        let (body, rest) ← ofPieces? p.define after fuel rest
        match rest with
        | .tag _ .endDefine after :: rest =>
          let (nodes, rest) ← ofPieces? p after fuel rest
          return (.define name parameters body :: nodes, rest)
        | _ => none
      else none
    | .otherChoice _ | .otherwise | .endChoice | .endLoop | .endFilter | .endBlock | .endDefine =>
      some ([], .tag before t after :: rest)

/-- The choice whose test has been read, whether the tag that ends it has a dash, and the pieces
after it. -/
def choiceOf? (p : Place) (test : Expression) (dash : Bool) :
    (fuel : Nat) → List Piece → Option (Node × Bool × List Piece)
  | 0, _ => none
  | fuel + 1, pieces => do
    let (yes, rest) ← ofPieces? p.choice dash fuel pieces
    match rest with
    | .tag _ .endChoice after :: rest => return (.choice test yes [], after, rest)
    | .tag _ (.otherChoice other) after :: rest =>
      let (no, after, rest) ← choiceOf? p other after fuel rest
      return (.choice test yes [no], after, rest)
    | .tag _ .otherwise after :: rest =>
      let (no, rest) ← ofPieces? p.choice after fuel rest
      match rest with
      | .tag _ .endChoice after :: rest => return (.choice test yes no, after, rest)
      | _ => none
    | _ => none

end

end Node

namespace Body

/-- The snippets that are defined outside of all other tags. -/
def snippetsOf (nodes : List Node) : List Snippet :=
  nodes.filterMap fun
    | .define name parameters body => some ⟨name, parameters, body⟩
    | _ => none

mutual

/-- The names of the blocks of a node that stand in no other tag. -/
def blockNames : Node → List String
  | .block name body => name :: allBlockNames body
  | _ => []
termination_by structural n => n

/-- The names of the blocks of some nodes. -/
def allBlockNames : List Node → List String
  | [] => []
  | n :: ns => blockNames n ++ allBlockNames ns
termination_by structural ns => ns

end

/-- The pieces after the comments with which a template starts. -/
def afterComments : List Piece → List Piece
  | .tag _ .comment _ :: rest => afterComments rest
  | pieces => pieces

/-- The template of a text, if it is well-formed: every tag is ended, and no two snippets and no two
blocks have the same name. -/
def ofText? (s : String) : Option Body := do
  let pieces := afterComments (← Piece.ofText? s)
  match ← Node.ofPieces? .top false (2 * pieces.length + 1) pieces with
  | (nodes, []) =>
    let snippets := snippetsOf nodes
    guard (snippets.map (·.name)).Nodup
    guard (allBlockNames nodes).Nodup
    return { nodes, snippets }
  | _ => none

end Body

end Markup

end ComposePods

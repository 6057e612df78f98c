import ComposePods.Typing.Source
import ComposePods.Yaml.Tree

/-!
# Nodes of a document

Aliases stand for what their anchors mark. Anchors are numbered by how many names there were before,
and the last anchor of a number gives its value, wherever the alias stands. When all aliases have
been replaced, a tree of nodes is left. Collections may be nested to a depth of 128, and aliases may
be followed a hundred times as often as the document has parts; where either limit is passed, the
tree is cut.

* `Node`: a scalar, sequence or mapping with its tag;
* `Tree.Census`, `Tree.census`: the numbers of anchors and what they mark;
* `Tree.unroll`: the node of a tree;
* `Document`, `Document.ofText`, `Document.read`.
-/

namespace ComposePods

/-- A part of a document, without anchors and aliases. -/
inductive Node where
  | scalar (tag : Option String) (form : ScalarForm) (text : String)
  | sequence (tag : Option String) (items : List Node)
  | mapping (tag : Option String) (entries : List (Node × Node))
  /-- Nothing: the text is empty. -/
  | absent
  /-- The text cannot be read any further. -/
  | cut

/-! ## Equality -/

namespace Node

mutual

/-- Equality of nodes is decidable. -/
def decEq : (a b : Node) → Decidable (a = b)
  | .scalar tag form text, b => match b with
    | .scalar tag' form' text' =>
      if h : tag = tag' ∧ form = form' ∧ text = text' then
        isTrue (by obtain ⟨rfl, rfl, rfl⟩ := h; rfl)
      else isFalse fun e => h (Node.scalar.inj e)
    | .sequence _ _ | .mapping _ _ | .absent | .cut => isFalse nofun
  | .sequence tag items, b => match b with
    | .sequence tag' items' =>
      if ht : tag = tag' then match decEqItems items items' with
        | isTrue h => isTrue (ht ▸ h ▸ rfl)
        | isFalse h => isFalse fun e => h (Node.sequence.inj e).2
      else isFalse fun e => ht (Node.sequence.inj e).1
    | .scalar _ _ _ | .mapping _ _ | .absent | .cut => isFalse nofun
  | .mapping tag entries, b => match b with
    | .mapping tag' entries' =>
      if ht : tag = tag' then match decEqEntries entries entries' with
        | isTrue h => isTrue (ht ▸ h ▸ rfl)
        | isFalse h => isFalse fun e => h (Node.mapping.inj e).2
      else isFalse fun e => ht (Node.mapping.inj e).1
    | .scalar _ _ _ | .sequence _ _ | .absent | .cut => isFalse nofun
  | .absent, b => match b with
    | .absent => isTrue rfl
    | .scalar _ _ _ | .sequence _ _ | .mapping _ _ | .cut => isFalse nofun
  | .cut, b => match b with
    | .cut => isTrue rfl
    | .scalar _ _ _ | .sequence _ _ | .mapping _ _ | .absent => isFalse nofun
termination_by structural n => n

/-- Equality of items is decidable. -/
def decEqItems : (a b : List Node) → Decidable (a = b)
  | [], [] => isTrue rfl
  | [], _ :: _ | _ :: _, [] => isFalse nofun
  | x :: xs, y :: ys => match decEq x y, decEqItems xs ys with
    | isTrue h, isTrue h' => isTrue (h ▸ h' ▸ rfl)
    | isFalse h, _ => isFalse fun e => h (List.cons.inj e).1
    | _, isFalse h => isFalse fun e => h (List.cons.inj e).2
termination_by structural ns => ns

/-- Equality of entries is decidable. -/
def decEqEntries : (a b : List (Node × Node)) → Decidable (a = b)
  | [], [] => isTrue rfl
  | [], _ :: _ | _ :: _, [] => isFalse nofun
  | (k, v) :: xs, (l, w) :: ys =>
    match decEq k l, decEq v w, decEqEntries xs ys with
    | isTrue h, isTrue h', isTrue h'' => isTrue (h ▸ h' ▸ h'' ▸ rfl)
    | isFalse h, _, _ => isFalse fun e => h (Prod.mk.inj (List.cons.inj e).1).1
    | _, isFalse h, _ => isFalse fun e => h (Prod.mk.inj (List.cons.inj e).1).2
    | _, _, isFalse h => isFalse fun e => h (List.cons.inj e).2
termination_by structural es => es

end

instance : DecidableEq Node := decEq

end Node

namespace Tree

/-! ## Anchors -/

/-- What is known of the anchors. -/
structure Census where
  /-- The number of each name. -/
  numbers : List (String × Nat)
  /-- What the anchors mark, the last one first. -/
  values : List (Nat × Tree Nat)
  /-- An alias without an anchor, or a text that is cut, has been met. -/
  stopped : Bool

namespace Census

/-- No anchor has been met. -/
def empty : Census := ⟨[], [], false⟩

/-- Give an anchor its number: how many names there are. -/
def number (c : Census) : Option String → Option Nat × Census
  | none => (none, c)
  | some name =>
    let n := c.numbers.length
    (some n, { c with numbers := (name, n) :: c.numbers.filter (·.1 ≠ name) })

/-- Note what an anchor marks, in front of the anchors before it and behind those inside it. -/
def note (number : Option Nat) (value : Tree Nat) (before : List (Nat × Tree Nat)) (c : Census) :
    Census :=
  { c with values := c.values ++ (number.map fun n => (n, value)).toList ++ before }

end Census

mutual

/-- The tree with the numbers of aliases instead of their names. -/
def census : Tree String → Census → Tree Nat × Census
  | .alias name, c =>
    match c.numbers.lookup name with
    | some n => (.alias n, c)
    | none => (.cut, { c with stopped := true })
  | .scalar marks form text, c =>
    let (n, c) := c.number marks.anchor
    let value : Tree Nat := .scalar marks form text
    (value, { c with values := [] }.note n value c.values)
  | .sequence marks items, c =>
    let (n, c) := c.number marks.anchor
    let (items, inner) := censusItems items { c with values := [] }
    (.sequence marks items, inner.note n (.sequence marks items) c.values)
  | .mapping marks entries, c =>
    let (n, c) := c.number marks.anchor
    let (entries, inner) := censusEntries entries { c with values := [] }
    (.mapping marks entries, inner.note n (.mapping marks entries) c.values)
  | .absent, c => (.absent, c)
  | .cut, c => (.cut, { c with stopped := true })
termination_by structural t => t

/-- The items up to the one where reading stops. -/
def censusItems : List (Tree String) → Census → List (Tree Nat) × Census
  | [], c => ([], c)
  | t :: ts, c =>
    let (t, c) := census t c
    if c.stopped then ([t], c)
    else
      let (ts, c) := censusItems ts c
      (t :: ts, c)
termination_by structural ts => ts

/-- The entries up to the one where reading stops. -/
def censusEntries : List (Tree String × Tree String) → Census → List (Tree Nat × Tree Nat) × Census
  | [], c => ([], c)
  | (k, v) :: es, c =>
    let (k, c) := census k c
    if c.stopped then ([(k, .cut)], c)
    else
      let (v, c) := census v c
      if c.stopped then ([(k, v)], c)
      else
        let (es, c) := censusEntries es c
        ((k, v) :: es, c)
termination_by structural es => es

end

mutual

/-- How many parts a tree has: the start and the end of a collection are parts of their own. -/
def size : Tree Nat → Nat
  | .alias _ | .scalar _ _ _ | .absent => 1
  | .sequence _ items => sizeItems items + 2
  | .mapping _ entries => sizeEntries entries + 2
  | .cut => 0
termination_by structural t => t

/-- How many parts some items have. -/
def sizeItems : List (Tree Nat) → Nat
  | [] => 0
  | t :: ts => size t + sizeItems ts
termination_by structural ts => ts

/-- How many parts some entries have. -/
def sizeEntries : List (Tree Nat × Tree Nat) → Nat
  | [] => 0
  | (k, v) :: es => size k + size v + sizeEntries es
termination_by structural es => es

end

/-! ## Aliases -/

/-- How deep collections may be nested. -/
def deepest : Nat := 128

/-- How often an alias may be followed for each part of the document. -/
def jumpsPerPart : Nat := 100

/-- What a tree stands for, and how many more aliases may be followed. -/
def target (values : List (Nat × Tree Nat)) (t : Tree Nat) (jumps : Nat) : Tree Nat × Nat :=
  match t with
  | .alias n =>
    match jumps, values.lookup n with
    | jumps + 1, some t => (t, jumps)
    | _, _ => (.cut, 0)
  | t => (t, jumps)

/-- Apply a reader to one item after the other. -/
def unrollEach (read : Tree Nat → Nat → Node × Nat) : List (Tree Nat) → Nat → List Node × Nat
  | [], jumps => ([], jumps)
  | t :: ts, jumps =>
    let (n, jumps) := read t jumps
    let (ns, jumps) := unrollEach read ts jumps
    (n :: ns, jumps)

/-- Apply a reader to the keys and values of one entry after the other. -/
def unrollPairs (read : Tree Nat → Nat → Node × Nat) : List (Tree Nat × Tree Nat) → Nat →
    List (Node × Node) × Nat
  | [], jumps => ([], jumps)
  | (k, v) :: es, jumps =>
    let (k, jumps) := read k jumps
    let (v, jumps) := read v jumps
    let (ns, jumps) := unrollPairs read es jumps
    ((k, v) :: ns, jumps)

/-- The node of a tree in which collections may be nested to some depth, and how many more aliases
may be followed behind it. -/
def unroll (values : List (Nat × Tree Nat)) : (depth : Nat) → Tree Nat → (jumps : Nat) → Node × Nat
  | 0, t, jumps =>
    match target values t jumps with
    | (.scalar marks form text, jumps) => (.scalar marks.tag form text, jumps)
    | (.absent, jumps) => (.absent, jumps)
    | _ => (.cut, 0)
  | depth + 1, t, jumps =>
    match target values t jumps with
    | (.scalar marks form text, jumps) => (.scalar marks.tag form text, jumps)
    | (.absent, jumps) => (.absent, jumps)
    | (.sequence marks items, jumps) =>
      let (items, jumps) := unrollEach (unroll values depth) items jumps
      (.sequence marks.tag items, jumps)
    | (.mapping marks entries, jumps) =>
      let (entries, jumps) := unrollPairs (unroll values depth) entries jumps
      (.mapping marks.tag entries, jumps)
    | _ => (.cut, 0)

end Tree

/-! ## Documents -/

/-- The only document of a text. -/
structure Document where
  root : Node
  /-- The text is well formed behind the root, and has no other document. -/
  sound : Bool

namespace Document

/-- The document of a text. -/
def ofText (text : String) : Document :=
  let t := Tree.ofTokens (Token.ofText text)
  let (root, c) := Tree.census t.root .empty
  let jumps := Tree.jumpsPerPart * Tree.size root
  ⟨(Tree.unroll c.values Tree.deepest root jumps).1, t.sound && !c.stopped⟩

/-- Read the root. Errors of its type come first; then the rest of the text must be sound. -/
def read {β : Type} (d : Document) (reader : Node → Except TypeError β) : Except TypeError β := do
  let b ← reader d.root
  if d.sound then pure b else throw .malformed

end Document

end ComposePods

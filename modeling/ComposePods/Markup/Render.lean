import ComposePods.Markup.Evaluate
import ComposePods.Text.Cluster

/-!
# Rendering

A template is rendered node by node. What a node writes depends on the variables, which it may
change for the nodes after it.

* `Node.renderAll`: the text of some nodes, and the variables after them;
* `Snippet.expand`: the text of a snippet, which may use other snippets;
* `Body.render`, `Body.renderText`: the text of a template for some data.
-/

namespace ComposePods

namespace Markup

/-- How a node ends. -/
inductive Flow where
  | on
  /-- The loop around is left. -/
  | leave
  /-- The loop around goes on with its next turn. -/
  | next
  deriving DecidableEq

/-- What a node has written, the variables after it, and how it ends. -/
structure Written where
  text : String
  scope : Scope
  flow : Flow

/-- The texts of snippets for the arguments that are given. -/
abbrev Expansion := (space name : String) → Outcomes → Except Fault String

namespace Node

/-! ## Loops -/

/-- Loops run over variables, calls and lists. -/
def isRange (e : Expression) : Bool :=
  match e.base with
  | .path _ | .call _ _ | .list _ => true
  | _ => false

/-- The keys and values that a loop runs over: the items of a list, the characters of a text, or the
entries of an object, for which a variable for the key is needed and otherwise not allowed. -/
def rangeOf (key? : Option String) (d : Datum) : Option (List (Option (String × String) × Datum)) :=
  match d, key? with
  | .list items, none => some (items.map fun d => (none, d))
  | .text s, none => some ((Text.clusters s).map fun c => (none, .text (String.ofList c)))
  | .object entries, some key => some (entries.map fun (k, d) => (some (key, k), d))
  | _, _ => none

/-- The turns of a loop from an index on. -/
def turnsFrom (name : String) (index : Nat) : List (Option (String × String) × Datum) → List Turn
  | [] => []
  | (key?, value) :: rest =>
    { key?, name, value, index, isLast := rest.isEmpty } :: turnsFrom name (index + 1) rest

/-- The variables inside a turn. -/
def enter (s : Scope) (t : Turn) : Scope :=
  { s with frames := ⟨[], some t⟩ :: s.frames }

/-- The variables after a turn, of which those inside are forgotten. -/
def leaveTurn (outer inner : Scope) : Scope := { outer with frames := inner.frames.drop 1 }

/-- The turns of a loop one after the other, each written by `body`, until one leaves the loop. -/
def runTurns (body : Scope → Except Fault Written) (s : Scope) :
    List Turn → Except Fault (String × Scope)
  | [] => .ok ("", s)
  | t :: ts => do
    let w ← body (enter s t)
    let s := leaveTurn s w.scope
    if w.flow = .leave then return (w.text, s)
    else
      let (more, s) ← runTurns body s ts
      return (w.text ++ more, s)

/-! ## Nodes -/

section Render

variable [Machine] (expand : Expansion)

mutual

/-- What a node writes. -/
def render : Node → Scope → Except Fault Written
  | .text t, s => .ok ⟨t, s, .on⟩
  | .output e, s => do return ⟨(← Surroundings.value ⟨s, expand⟩ e).shown, s, .on⟩
  | .assign shared name e, s => do
    let d ← Surroundings.value ⟨s, expand⟩ e
    return ⟨"", if shared then s.share name d else s.set name d, .on⟩
  | .choice test yes no, s => do
    if ← Surroundings.truth ⟨s, expand⟩ test then renderAll yes s else renderAll no s
  | .loop key? value range body otherwise, s => do
    if !isRange range then throw (.error (s.error .unsuitable))
    match rangeOf key? (← Surroundings.value ⟨s, expand⟩ range) with
    | none => throw (.error (s.error .unsuitable))
    | some [] => renderAll otherwise s
    | some items =>
      let (written, s) ← runTurns (renderAll body) s (turnsFrom value 0 items)
      return ⟨written, s, .on⟩
  | .leave, s => .ok ⟨"", s, .leave⟩
  | .next, s => .ok ⟨"", s, .next⟩
  | .filter name args body, s => do
    let w ← renderAll body s
    if name = "safe" then return w
    let around : Surroundings := ⟨w.scope, expand⟩
    return { w with
      text := (← around.applyFilter name (.text w.text) (around.outcomes args)).shown }
  | .block _ body, s => renderAll body s
  | .define _ _ _, s => .ok ⟨"", s, .on⟩
  | .missing, s => .error (.error (s.error .unsuitable))
termination_by structural n => n

/-- What some nodes write one after the other, until one ends a turn of the loop around. -/
def renderAll : List Node → Scope → Except Fault Written
  | [], s => .ok ⟨"", s, .on⟩
  | n :: ns, s => do
    let w ← render n s
    if w.flow = .on then
      let more ← renderAll ns w.scope
      return { more with text := w.text ++ more.text }
    else return w
termination_by structural ns => ns

end

end Render

end Node

namespace Snippet

/-- An error about the use of a snippet. -/
def misuse {α : Type} : Except Fault α := .error (.error (.of .unsuitable))

/-- The value of a parameter: the argument of its name, or else its own value. -/
def argument (args : Outcomes) (p : String × Option Datum) : Except Fault (String × Datum) :=
  match args.lookup p.1, p.2 with
  | some r, _ => do return (p.1, ← r)
  | none, some d => do return (p.1, ← Surroundings.constant d)
  | none, none => misuse

/-- A snippet that is used, and the variables in it: its parameters, and the data given to the
template. -/
def opened (snippets : List Snippet) (data : List (String × Datum)) (space name : String)
    (args : Outcomes) : Except Fault (Snippet × Scope) :=
  match snippets.find? (·.name == name) with
  | none => misuse
  | some snippet => do
    if space != "self" then misuse
    let assigned ← snippet.parameters.mapM (argument args)
    return (snippet, { frames := [⟨assigned, none⟩], snippet? := some name, data })

/-- The text of a snippet of a template. Snippets may use each other as long as there is room for
more `levels`. -/
def expand [Machine] (snippets : List Snippet) (data : List (String × Datum)) :
    (levels : Nat) → Expansion
  | 0, space, name, args => do
    let _ ← opened snippets data space name args
    .error (.aborted .exhausted)
  | levels + 1, space, name, args => do
    let (snippet, s) ← opened snippets data space name args
    return (← Node.renderAll (expand snippets data levels) snippet.body s).text

end Snippet

namespace Body

variable [Machine]

/-- The text of a template for some data, with room for some levels of snippets. -/
def render (b : Body) (levels : Nat) (data : List (String × Datum)) : Except Fault String := do
  let s : Scope := { frames := [⟨[], none⟩], snippet? := none, data }
  return (← Node.renderAll (Snippet.expand b.snippets data levels) b.nodes s).text

/-- The text of a template that is given as a text. -/
def renderText (text : String) (data : List (String × Datum)) : Except Fault String :=
  match Machine.room text data with
  | 0 => .error (.aborted .exhausted)
  | levels + 1 =>
    match ofText? text with
    | some b => b.render levels data
    | none => .error (.error (.of .malformed))

end Body

end Markup

end ComposePods

import ComposePods.Markup.Node

/-!
# Machines

Some of what the engine does is settled by the process in which it runs: the variables of the
process, whether words that overflow wrap, and how much room there is.

* `Node.isPlain`, `Body.isPlain`: templates that only show variables;
* `Machine`: what the process settles;
* `Machine.standard`: a machine to run templates on.
-/

namespace ComposePods

namespace Markup

/-- The node is a text, or shows a variable by a path without brackets. -/
def Node.isPlain : Node → Bool
  | .text _ => true
  | .output (.path p) => !p.toList.contains '['
  | _ => false

/-- The template only shows variables. -/
def Body.isPlain (b : Body) : Bool := b.nodes.all Node.isPlain && b.snippets.isEmpty

/-- What the process settles in which templates are rendered. -/
class Machine where
  /-- The variables of the process. -/
  setting? : String → Option String
  /-- Words that overflow end the run. Otherwise they wrap. -/
  checks : Bool
  /-- How deep the text of a template and its snippets can be nested while it is rendered for some
  data. The text itself is the first level; without any, there is no room for the template at
  all. -/
  room : (text : String) → (data : List (String × Datum)) → Nat
  /-- There is room for a template that only shows variables. -/
  room_pos {text : String} {b : Body} (data : List (String × Datum))
    (h : Body.ofText? text = some b)
    (hplain : b.isPlain = true) : 0 < room text data

/-- A machine without variables on which words wrap, with room for a thousand levels. -/
instance (priority := low) Machine.standard : Machine where
  setting? _ := none
  checks := false
  room _ _ := 1000
  room_pos _ _ _ := by decide

end Markup

end ComposePods

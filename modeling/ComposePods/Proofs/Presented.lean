import ComposePods.Pod.Rendering
import ComposePods.Proofs.Outcome

/-!
# Data that templates can be shown

Templates work on data whose keys are texts. A key of a document has a text if it is a truth value,
a text, an integer or a finite number, and a document value can be shown to templates if all keys in
it have one, however deep they lie. A template is shown the service, all services of the project and
its arguments; a key without a text in any of them ends the run without a report, and so does a
breakdown of the engine.

* `Value.isTextKey`, `Value.HasKey`, `Value.Presentable`: keys with a text, and values with such
  keys only;
* **`Value.isSome_ofValue?_iff`**: exactly these values are data;
* `Service.Presentable`, `Context.Presents`: a template can be shown all that it is to be shown;
* `Context.Derails`, `Context.Abandons`: the engine breaks down on a template, and a template ends
  the run;
* **`Context.render_abandoned_iff`**: the templates that end the run.
-/

namespace ComposePods

/-! ## Keys with a text -/

namespace Value

/-- A text stands for the value when it is a key. -/
def isTextKey : Value → Bool
  | .bool _ | .string _ | .number (.integer _) => true
  | .number (.real x) => x.isFinite
  | .null | .sequence _ | .mapping _ | .tagged _ _ => false

/-- A value is a key of a mapping in another one, at any depth. -/
inductive HasKey (k : Value) : Value → Prop where
  | key {es : Mapping} {v : Value} : (k, v) ∈ es → HasKey k (.mapping es)
  | entry {es : Mapping} {l v : Value} : (l, v) ∈ es → HasKey k v → HasKey k (.mapping es)
  | item {vs : List Value} {v : Value} : v ∈ vs → HasKey k v → HasKey k (.sequence vs)
  | tagged {t : String} {v : Value} : HasKey k v → HasKey k (.tagged t v)

/-- All keys in the value have a text. -/
def Presentable (v : Value) : Prop := ∀ k, HasKey k v → k.isTextKey = true

theorem presentable_sequence_iff {vs : List Value} :
    (Value.sequence vs).Presentable ↔ ∀ v ∈ vs, v.Presentable := by
  constructor
  · exact fun h v hv k hk => h k (.item hv hk)
  · rintro h k (_ | _ | ⟨hv, hk⟩ | _)
    exact h _ hv k hk

theorem presentable_mapping_iff {es : Mapping} :
    (Value.mapping es).Presentable ↔ ∀ e ∈ es, e.1.isTextKey = true ∧ e.2.Presentable := by
  constructor
  · exact fun h e he => ⟨h e.1 (.key he), fun k hk => h k (.entry he hk)⟩
  · rintro h k (he | ⟨he, hk⟩ | _ | _)
    · exact (h _ he).1
    · exact (h _ he).2 k hk

theorem presentable_tagged_iff {t : String} {v : Value} :
    (Value.tagged t v).Presentable ↔ v.Presentable := by
  constructor
  · exact fun h k hk => h k (.tagged hk)
  · rintro h k (_ | _ | _ | hk)
    exact h k hk

theorem presentable_of_shape {v : Value} (h : v.shape ∉ [Shape.sequence, .mapping, .tagged]) :
    v.Presentable := by
  rintro k (_ | _ | _ | _) <;> simp [shape] at h

theorem presentable_string (s : String) : (Value.string s).Presentable :=
  presentable_of_shape (by simp [shape])

theorem isSome_keyText? (k : Value) : (Datum.keyText? k).isSome = k.isTextKey := by
  rcases k with _ | b | (i | x) | s | items | entries | ⟨t, v⟩
  case number.real => cases hx : x.isFinite <;> simp [Datum.keyText?, isTextKey, hx]
  all_goals rfl

mutual

/-- **The values that templates can be shown** are those whose keys all have a text. -/
theorem isSome_ofValue?_iff : (v : Value) → ((Datum.ofValue? v).isSome = true ↔ v.Presentable)
  | .null | .bool _ | .number (.integer _) | .number (.real _) | .string _ => by
    simp [Datum.ofValue?, presentable_of_shape, shape]
  | .sequence vs => by
    rw [Datum.ofValue?, Option.isSome_map, isSome_ofItems?_iff vs, presentable_sequence_iff]
  | .mapping es => by
    rw [Datum.ofValue?, Option.isSome_map, isSome_entriesOf?_iff es, presentable_mapping_iff]
  | .tagged t v => by
    rw [Datum.ofValue?, Option.isSome_map, isSome_ofValue?_iff v, presentable_tagged_iff]

theorem isSome_ofItems?_iff :
    (vs : List Value) → ((Datum.ofItems? vs).isSome = true ↔ ∀ v ∈ vs, v.Presentable)
  | [] => by simp [Datum.ofItems?]
  | v :: vs => by
    rw [List.forall_mem_cons, ← isSome_ofValue?_iff v, ← isSome_ofItems?_iff vs, Datum.ofItems?]
    cases Datum.ofValue? v <;> cases Datum.ofItems? vs <;> simp

theorem isSome_entriesOf?_iff :
    (es : Mapping) → ((Datum.entriesOf? es).isSome = true ↔
      ∀ e ∈ es, e.1.isTextKey = true ∧ e.2.Presentable)
  | [] => by simp [Datum.entriesOf?]
  | (k, v) :: es => by
    rw [List.forall_mem_cons, ← isSome_ofValue?_iff v, ← isSome_entriesOf?_iff
      es, ← isSome_keyText?, Datum.entriesOf?]
    cases Datum.keyText? k <;> cases Datum.ofValue? v <;> cases Datum.entriesOf? es <;> simp

end

theorem presentable_insert {m : Mapping} {k v : Value} (hm : (Value.mapping m).Presentable)
    (hk : k.isTextKey = true) (hv : v.Presentable) :
    (Value.mapping (Mapping.insert m k v)).Presentable := by
  rw [presentable_mapping_iff] at hm ⊢
  induction m with
  | nil => exact List.forall_mem_singleton.2 ⟨hk, hv⟩
  | cons e m ih =>
    obtain ⟨l, w⟩ := e
    obtain ⟨⟨hl, hw⟩, hm⟩ := List.forall_mem_cons.1 hm
    rw [Mapping.insert]
    split
    · exact List.forall_mem_cons.2 ⟨⟨hl, hv⟩, hm⟩
    · exact List.forall_mem_cons.2 ⟨⟨hl, hw⟩, ih hm⟩

theorem presentable_overlay {m own : Mapping} (hm : (Value.mapping m).Presentable)
    (hown : (Value.mapping own).Presentable) :
    (Value.mapping (Mapping.overlay m own)).Presentable := by
  rw [presentable_mapping_iff] at hown
  induction own generalizing m with
  | nil => exact hm
  | cons e own ih =>
    obtain ⟨⟨hk, hv⟩, hown⟩ := List.forall_mem_cons.1 hown
    exact ih (presentable_insert hm hk hv) hown

end Value

/-! ## What a template is shown -/

/-- All keys in what templates are shown of the service have a text. -/
def Service.Presentable (s : Service) : Prop := (Value.mapping s.namedDefinition).Presentable

theorem Service.presentable_empty (name : String) : (Service.empty name).Presentable :=
  Value.presentable_mapping_iff.2 (List.forall_mem_singleton.2 ⟨rfl, Value.presentable_string name⟩)

namespace Context

variable {c : Context} {layer : Layer} {t : Template}

/-- All keys in what a template is shown have a text. -/
structure Presents (c : Context) (t : Template) : Prop where
  service : c.service.Presentable
  services : ∀ s ∈ c.services, s.Presentable
  args : (Value.mapping (c.argsOf t)).Presentable

theorem presentable_projectValue_iff :
    c.projectValue.Presentable ↔ ∀ s ∈ c.services, s.Presentable := by
  rw [projectValue, Value.presentable_mapping_iff, List.forall_mem_cons, List.forall_mem_singleton,
    Value.presentable_sequence_iff, projectServices, List.forall_mem_map]
  simp [Value.isTextKey, Value.presentable_string, Service.Presentable]

theorem isSome_data?_iff : (c.data? t).isSome = true ↔ c.Presents t := by
  have hfields : c.Presents t ↔
    (Datum.ofValue? (.mapping c.service.namedDefinition)).isSome = true ∧
      (Datum.ofValue? c.projectValue).isSome = true ∧
      (Datum.ofValue? (.mapping (c.argsOf t))).isSome = true := by
    simp only [Value.isSome_ofValue?_iff, presentable_projectValue_iff]
    exact ⟨fun h => ⟨h.service, h.services, h.args⟩, fun h => ⟨h.1, h.2.1, h.2.2⟩⟩
  rw [hfields, data?]
  cases Datum.ofValue? (.mapping c.service.namedDefinition) <;>
    cases Datum.ofValue? c.projectValue <;>
    cases Datum.ofValue? (.mapping (c.argsOf t)) <;> simp

theorem report_ne_abandoned {α : Type} {x : Except PodError α} : report x ≠ .error .abandoned := by
  cases x <;> simp [report, Except.mapError]

variable [Markup.Machine]

/-- The engine breaks down on what the template is shown. -/
def Derails (c : Context) (t : Template) : Prop :=
  ∃ data a, c.data? t = some data ∧ Markup.Body.renderText t.body data = .error (.aborted a)

/-- The template ends the run: it cannot be shown what it is to be shown, or the engine breaks
down. -/
def Abandons (c : Context) (t : Template) : Prop := ¬ c.Presents t ∨ c.Derails t

theorem renderText_abandoned_iff {data : List (String × Datum)} :
    c.renderText layer t data = .error .abandoned ↔
      ∃ a, Markup.Body.renderText t.body data = .error (.aborted a) := by
  rw [renderText, mapError_error_iff]
  constructor
  · rintro ⟨e | a, h, hf⟩
    · cases hf
    · exact ⟨a, h⟩
  · rintro ⟨a, h⟩
    exact ⟨.aborted a, h, rfl⟩

/-- **The templates that end the run** are those that cannot be shown what they are to be shown, and
those on which the engine breaks down. All others give a fragment or an error that is reported. -/
theorem render_abandoned_iff : c.render layer t = .error .abandoned ↔ c.Abandons t := by
  rw [Abandons, ← isSome_data?_iff, Derails, render]
  cases c.data? t with
  | none => simp
  | some data => simp [bind_error_iff, report_ne_abandoned, renderText_abandoned_iff]

end Context

end ComposePods

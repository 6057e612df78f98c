import ComposePods.Proofs.Entries
import ComposePods.Proofs.Texts
import ComposePods.Settings
import Mathlib.Data.List.Induction

/-!
# Overrides compose

Every setting has a key, and of the properties that give the key a value the last one counts. So
properties that are applied in two parts are applied like the whole list, the same properties a
second time change nothing, and a property without a known key changes nothing at all.

* `Settings.Field`, `Settings.get`, `Settings.ext_get`: settings field by field;
* `Overrides.Gives`, `Overrides.IsLast`: properties that give a key a value, and the last of them;
* `Overrides.lookup_parse_eq_some_iff`, `Overrides.lookup_parse_eq_none_iff`: what is looked up in
  parsed properties;
* `Settings.get_apply`, `Settings.apply_append`: one field, and two groups of overrides;
* **`Settings.overrides_compose`**: how settings depend on properties.
-/

namespace ComposePods

/-! ## Fields -/

namespace Settings

/-- The settings that can be overridden. -/
inductive Field where
  | controllerImage
  | controllerVolumes
  | componentLabelPrefix
  | copyLabelPrefix
  | extensionKey

namespace Field

/-- The key of the properties that override the field. -/
def key : Field → String
  | .controllerImage => "podlike.controller.image"
  | .controllerVolumes => "podlike.controller.volumes"
  | .componentLabelPrefix => "podlike.label.component-prefix"
  | .copyLabelPrefix => "podlike.label.copy-prefix"
  | .extensionKey => "podlike.extension-key"

/-- The values of a field: the volumes are a list, all others are texts. -/
@[reducible] def Carrier : Field → Type
  | .controllerVolumes => List String
  | .controllerImage | .componentLabelPrefix | .copyLabelPrefix | .extensionKey => String

/-- The value of the field that a property gives. -/
def read : (f : Field) → String → f.Carrier
  | .controllerVolumes, value => Overrides.listOf value
  | .controllerImage, value | .componentLabelPrefix, value | .copyLabelPrefix, value
  | .extensionKey, value => value

end Field

/-- The value of a field. -/
def get (s : Settings) : (f : Field) → f.Carrier
  | .controllerImage => s.controllerImage
  | .controllerVolumes => s.controllerVolumes
  | .componentLabelPrefix => s.componentLabelPrefix
  | .copyLabelPrefix => s.copyLabelPrefix
  | .extensionKey => s.extensionKey

theorem ext_get {s t : Settings} (h : ∀ f, s.get f = t.get f) : s = t := by
  cases s
  cases t
  simp only [Settings.mk.injEq]
  exact ⟨h .controllerImage, h .controllerVolumes, h .componentLabelPrefix, h .copyLabelPrefix,
    h .extensionKey⟩

end Settings

/-! ## Properties -/

namespace Overrides

open Text

variable {property key value : String} {ps : List String}

/-- The property gives the key a value: both are trimmed, and the first `=` stands between them. -/
def Gives (property key value : String) : Prop :=
  ∃ before after, property = before ++ "=" ++ after ∧ '=' ∉ before.toList ∧ trim before = key ∧
    trim after = value

/-- The last property that gives the key a value gives it this one. -/
def IsLast (key value : String) (ps : List String) : Prop :=
  ∃ before property after, ps = before ++ property :: after ∧ Gives property key value ∧
    ∀ later ∈ after, ∀ w, ¬ Gives later key w

theorem parseOne_eq_some_iff :
    parseOne property = some (key, value) ↔ Gives property key value := by
  rw [parseOne, Option.map_eq_some_iff]
  constructor
  · rintro ⟨⟨before, after⟩, hsplit, heq⟩
    obtain ⟨hproperty, hbefore⟩ := splitOnce_eq_some_iff.1 hsplit
    obtain ⟨hkey, hvalue⟩ := Prod.mk.inj heq
    exact ⟨before, after, String.toList_injective (by simp [hproperty]), hbefore, hkey, hvalue⟩
  · rintro ⟨before, after, rfl, hbefore, rfl, rfl⟩
    exact ⟨(before, after), splitOnce_eq_some_iff.2 ⟨by simp, hbefore⟩, rfl⟩

theorem parse_append (ps qs : List String) : parse (ps ++ qs) = parse qs ++ parse ps := by
  rw [parse, List.filterMap_append, List.reverse_append]
  rfl

theorem lookup_parse_concat (ps : List String) (property key : String) :
    (parse (ps ++ [property])).lookup key =
      if (parseOne property).map Prod.fst = some key then (parseOne property).map Prod.snd
      else (parse ps).lookup key := by
  rw [parse_append]
  rcases hone : parseOne property with _ | ⟨k, v⟩
  · simp [parse, hone]
  · have hparse : parse [property] = [(k, v)] := by simp [parse, hone]
    rw [hparse, List.singleton_append, Dict.lookup_cons]
    by_cases hk : key = k
    · simp [hk]
    · simp [hk, Ne.symm hk]

theorem isLast_concat_iff :
    IsLast key value (ps ++ [property]) ↔
      Gives property key value ∨ (∀ w, ¬ Gives property key w) ∧ IsLast key value ps := by
  constructor
  · rintro ⟨before, x, after, hsplit, hx, hafter⟩
    rcases List.eq_nil_or_concat after with rfl | ⟨rest, y, rfl⟩
    · obtain ⟨rfl, hlast⟩ := List.append_inj' hsplit rfl
      obtain rfl : property = x := by simpa using hlast
      exact .inl hx
    · rw [List.concat_eq_append, ← List.cons_append, ← List.append_assoc] at hsplit
      obtain ⟨rfl, hlast⟩ := List.append_inj' hsplit rfl
      obtain rfl : property = y := by simpa using hlast
      refine .inr ⟨hafter property (by simp), before, x, rest, rfl, hx, fun later hlater => ?_⟩
      exact hafter later (by simp [hlater])
  · rintro (h | ⟨hnone, before, x, after, rfl, hx, hafter⟩)
    · exact ⟨ps, property, [], rfl, h, List.forall_mem_nil _⟩
    · refine ⟨before, x, after ++ [property], by simp, hx, ?_⟩
      rw [List.forall_mem_append]
      exact ⟨hafter, List.forall_mem_singleton.2 hnone⟩

/-- **The last property of a key counts.** -/
theorem lookup_parse_eq_some_iff : (parse ps).lookup key = some value ↔ IsLast key value ps := by
  induction ps using List.reverseRecOn with
  | nil =>
    constructor
    · intro h
      cases h
    · rintro ⟨before, property, after, hsplit, -⟩
      simp at hsplit
  | append_singleton ps property ih =>
    rw [lookup_parse_concat, isLast_concat_iff, ← ih]
    simp only [← parseOne_eq_some_iff]
    rcases parseOne property with _ | ⟨k, v⟩
    · simp
    · by_cases hk : k = key
      · subst hk
        simp
      · simp [hk]

theorem lookup_parse_eq_none_iff :
    (parse ps).lookup key = none ↔ ∀ property ∈ ps, ∀ w, ¬ Gives property key w := by
  induction ps using List.reverseRecOn with
  | nil => simp [parse]
  | append_singleton ps property ih =>
    rw [lookup_parse_concat, List.forall_mem_append, List.forall_mem_singleton, ← ih]
    simp only [← parseOne_eq_some_iff]
    rcases parseOne property with _ | ⟨k, v⟩
    · simp
    · by_cases hk : k = key
      · subst hk
        simp
      · simp [hk]

theorem of_mem_listOf {item : String} (h : item ∈ listOf value) : item ≠ "" ∧ IsTrimmed item := by
  rw [listOf, List.mem_filter, decide_eq_true_eq] at h
  obtain ⟨hitem, hne⟩ := h
  obtain ⟨part, -, rfl⟩ := List.mem_map.1 hitem
  exact ⟨hne, isTrimmed_trim _⟩

end Overrides

/-! ## Settings -/

namespace Settings

open Overrides

/-- **One field** has the value that its key looks up, or the value that it had. -/
theorem get_apply (o : Overrides) (s : Settings) (f : Field) :
    (s.apply o).get f = ((o.lookup f.key).map f.read).getD (s.get f) := by
  rcases h : o.lookup f.key with _ | value
  · cases f <;> simp only [Field.key] at h <;> simp [apply, get, h]
  · cases f <;> simp only [Field.key] at h <;> simp [apply, get, Field.read, h]

/-- **Two groups of overrides**: the first ones count. -/
theorem apply_append (o o' : Overrides) (s : Settings) :
    s.apply (o' ++ o) = (s.apply o).apply o' := by
  refine ext_get fun f => ?_
  rw [get_apply, get_apply, get_apply, List.lookup_append]
  cases o'.lookup f.key <;> rfl

theorem apply_apply (o : Overrides) (s : Settings) : (s.apply o).apply o = s.apply o := by
  refine ext_get fun f => ?_
  rw [get_apply, get_apply]
  cases o.lookup f.key <;> rfl

/-- **Overrides compose.** Properties in two parts are applied like the whole list, and the same
properties a second time change nothing. Each field has the value of the last property that gives
its key one, and stays as it is without any; so a property without `=` or with another key changes
nothing. Volumes that a property gives are neither empty nor surrounded by white space. -/
theorem overrides_compose (ps qs : List String) (s : Settings) :
    s.apply (parse (ps ++ qs)) = (s.apply (parse ps)).apply (parse qs) ∧
      (s.apply (parse ps)).apply (parse ps) = s.apply (parse ps) ∧
      (∀ f : Field, (∀ value, IsLast f.key value ps → (s.apply (parse ps)).get f = f.read value) ∧
        ((∀ property ∈ ps, ∀ value, ¬ Gives property f.key value) →
          (s.apply (parse ps)).get f = s.get f)) ∧
      (∀ property, (∀ (f : Field) value, ¬ Gives property f.key value) →
        s.apply (parse (ps ++ property :: qs)) = s.apply (parse (ps ++ qs))) ∧
      ((∃ property ∈ ps, ∃ value, Gives property Field.controllerVolumes.key value) →
        ∀ volume ∈ (s.apply (parse ps)).controllerVolumes, volume ≠ "" ∧
        Text.IsTrimmed volume) := by
  refine ⟨?_, apply_apply _ s, fun f => ⟨fun value h => ?_, fun h => ?_⟩, fun property h => ?_, ?_⟩
  · rw [parse_append, apply_append]
  · rw [get_apply, lookup_parse_eq_some_iff.2 h]
    rfl
  · rw [get_apply, lookup_parse_eq_none_iff.2 h]
    rfl
  · have hone (t : Settings) : t.apply (parse [property]) = t := by
      refine ext_get fun f => ?_
      rw [get_apply, lookup_parse_eq_none_iff.2 (List.forall_mem_singleton.2 (h f))]
      rfl
    rw [← List.singleton_append, parse_append, parse_append, parse_append, apply_append,
      apply_append, apply_append, hone]
  · rintro ⟨property, hproperty, value, hgives⟩ volume hvolume
    have hvolumes := get_apply (parse ps) s .controllerVolumes
    rcases hlookup : (parse ps).lookup Field.controllerVolumes.key with _ | list
    · exact absurd hgives (lookup_parse_eq_none_iff.1 hlookup property hproperty value)
    · rw [hlookup] at hvolumes
      change (s.apply (parse ps)).controllerVolumes = listOf list at hvolumes
      rw [hvolumes] at hvolume
      exact of_mem_listOf hvolume

/-- A key twice, with blanks around, between a property without `=` and one of another key. -/
theorem overrides_compose_volumes :
    let ps := ["podlike.controller.volumes=/a:/a", "nonsense"]
    let qs := [" podlike.controller.volumes = /b:/b , ,/c ", "x=podlike.controller.volumes=/d"]
    let settings := standard.apply (parse (ps ++ qs))
    settings = (standard.apply (parse ps)).apply (parse qs) ∧
      settings.controllerVolumes = ["/b:/b", "/c"] ∧
      settings.controllerImage = standard.controllerImage ∧
      standard.apply (parse (ps ++ "nonsense" :: qs)) = settings ∧
      ∀ volume ∈ settings.controllerVolumes, volume ≠ "" ∧ Text.IsTrimmed volume := by
  intro ps qs settings
  have hlast : IsLast Field.controllerVolumes.key "/b:/b , ,/c" (ps ++ qs) :=
    lookup_parse_eq_some_iff.1 (by decide +kernel)
  have hgiven : ∃ property ∈ ps ++ qs, ∃ value,
      Gives property Field.controllerVolumes.key value := by
    obtain ⟨before, property, after, hsplit, hgives, -⟩ := hlast
    exact ⟨property, by simp [hsplit], _, hgives⟩
  have himage : ∀ property ∈ ps ++ qs, ∀ value, ¬ Gives property Field.controllerImage.key value :=
    lookup_parse_eq_none_iff.1 (by decide +kernel)
  have hnone : ∀ (f : Field) value, ¬ Gives "nonsense" f.key value := by
    intro f value hgives
    have hsome := parseOne_eq_some_iff.2 hgives
    rw [show parseOne "nonsense" = none by decide +kernel] at hsome
    cases hsome
  obtain ⟨hcompose, -, -, hdrop, -⟩ := overrides_compose ps qs standard
  obtain ⟨-, -, hfield, -, htrimmed⟩ := overrides_compose (ps ++ qs) [] standard
  refine ⟨hcompose, ?_, (hfield .controllerImage).2 himage, hdrop "nonsense" hnone, htrimmed hgiven⟩
  rw [show settings.controllerVolumes = listOf "/b:/b , ,/c"
    from (hfield .controllerVolumes).1 _ hlast]
  decide +kernel

end Settings

end ComposePods

import ComposePods.Pod.Controller
import ComposePods.Proofs.Definitions
import ComposePods.Proofs.Lookups

/-!
# Names of controllers

Whatever root keys the templates give, the tree of a controller has no root key but the name of the
service, since the fragments are renamed before they are merged and the gaps are filled under the
same name. So the controller has the name of the service that it replaces.

* `Mapping.mem_keys_merge`, `Mapping.mem_keys_mergeAll`: a merged mapping has no keys of its own;
* `Controller.mem_keys_podTree`: the root keys of the tree of a controller;
* `Context.name_of_podStage`, **`Context.name_of_controller`**: the name of a controller.
-/

namespace ComposePods

/-! ## Keys of merged mappings -/

namespace Mapping

variable {k : Value}

theorem mem_keys_insert {m : Mapping} {l v : Value} (h : k ∈ keys (insert m l v)) :
    k ∈ keys m ∨ k = l := by
  rw [keys_insert] at h
  split at h
  · exact .inl h
  · exact (List.mem_append.1 h).imp_right List.mem_singleton.1

theorem mem_keys_merge {base : Mapping} {es : List (Value × Value)} (h : k ∈ keys (merge base es)) :
    k ∈ keys base ∨ k ∈ keys es := by
  induction es generalizing base with
  | nil => exact .inl h
  | cons e rest ih =>
    obtain ⟨l, v⟩ := e
    rw [merge] at h
    rcases ih h with h | h
    · split at h
      · rw [keys_adjust] at h
        exact .inl h
      · rcases mem_keys_insert h with h | rfl
        · exact .inl h
        · exact .inr List.mem_cons_self
    · exact .inr (List.mem_cons_of_mem _ h)

theorem mem_keys_mergeAll {fragments : List Mapping} (h : k ∈ keys (mergeAll fragments)) :
    ∃ f ∈ fragments, k ∈ keys f := by
  have hfold (base : Mapping) (h : k ∈ keys (fragments.foldl merge base)) :
      k ∈ keys base ∨ ∃ f ∈ fragments, k ∈ keys f := by
    clear * - h
    induction fragments generalizing base with
    | nil => exact .inl h
    | cons f fs ih =>
      rcases ih (merge base f) h with h | ⟨g, hg, h⟩
      · rcases mem_keys_merge h with h | h
        · exact .inl h
        · exact .inr ⟨f, List.mem_cons_self, h⟩
      · exact .inr ⟨g, List.mem_cons_of_mem _ hg, h⟩
  rcases hfold [] h with h | h
  · cases h
  · exact h

end Mapping

/-! ## Root keys of trees -/

namespace Fragment

open Mapping

variable {k : Value} {name : String}

theorem mem_keys_renameRoot {fragment : Mapping} (h : k ∈ keys (renameRoot fragment name)) :
    k = .string name := by
  unfold renameRoot at h
  split at h
  · cases h
  · simpa [keys] using h

theorem mem_keys_carryOver {tree given : Mapping} {keySet : KeySet}
    (h : k ∈ keys (carryOver tree name given keySet)) : k ∈ keys tree ∨ k = .string name := by
  unfold carryOver at h
  split at h
  · exact mem_keys_insert h
  · exact mem_keys_insert h
  · exact mem_keys_insert h
  · exact .inl h

end Fragment

/-- **The only root key** of the tree of a controller is the name of the service. -/
theorem Controller.mem_keys_podTree {settings : Settings} {service : String} {given : Mapping}
    {fragments : List Mapping} {k : Value}
    (h : k ∈ Mapping.keys (podTree settings service given fragments)) : k = .string service := by
  rcases Mapping.mem_keys_merge h with h | h
  · rcases Fragment.mem_keys_carryOver h with h | rfl
    · obtain ⟨f, hf, hk⟩ := Mapping.mem_keys_mergeAll h
      obtain ⟨g, -, rfl⟩ := List.mem_map.1 hf
      exact Fragment.mem_keys_renameRoot hk
    · rfl
  · simpa [Mapping.keys] using h

/-! ## Controllers -/

namespace Context

open Controller

variable [Markup.Machine] {c : Context} {settings : Settings} {s t : Service}

omit [Markup.Machine] in
theorem single_ok_iff {service : String} {layer : Layer} {ss : List Service} :
    single service layer ss = .ok s ↔ ss = [s] := by
  unfold single
  split
  · simp
  · rename_i hss
    constructor
    · rintro ⟨⟩
    · rintro rfl
      exact absurd rfl (hss s)

theorem ofEntry_of_podStage (h : c.podStage settings = .ok s) :
    ∃ fragments, ∃ e ∈ podTree settings c.service.name c.definition fragments,
      Definitions.ofEntry c.directory c.service.name .pod e = .ok s := by
  simp only [podStage, bind_ok_iff, report, mapError_ok_iff, single_ok_iff] at h
  obtain ⟨fragments, -, ss, hss, rfl⟩ := h
  exact ⟨_, Definitions.mem_ofTree hss List.mem_cons_self⟩

theorem name_of_podStage (h : c.podStage settings = .ok s) : s.name = c.service.name := by
  obtain ⟨fragments, e, he, hs⟩ := ofEntry_of_podStage h
  have hkey : e.1 = .string c.service.name := mem_keys_podTree (List.mem_map_of_mem he)
  have hname := Definitions.name_of_ofEntry hs
  rw [hkey] at hname
  exact (Except.ok.inj hname).symm

omit [Markup.Machine] in
theorem attachAll_preserves {P : Service → Prop}
    (keeps : ∀ s d, P s → P (s.set .labels d)) {labels : List (String × String)} (hs : P s)
    (h : c.attachAll s labels = .ok t) : P t := by
  rw [attachAll, report, mapError_ok_iff] at h
  refine foldlM_preserves (fun u l _ v hu hv => ?_) hs h
  unfold attach at hv
  split at hv
  · cases hv
  · cases hv
    exact keeps u _ hu

theorem controller_preserves {P : Service → Prop} (keeps : ∀ s d, P s → P (s.set .labels d))
    (start : ∀ s, c.podStage settings = .ok s → P s) (h : c.controller settings = .ok t) : P t := by
  simp only [controller, bind_ok_iff] at h
  obtain ⟨s, hs, main, -, u, hu, components, -, v, hv, copies, -, ht⟩ := h
  exact attachAll_preserves keeps
    (attachAll_preserves keeps (attachAll_preserves keeps (start s hs) hu) hv) ht

/-- **A controller has the name of the service that it replaces.** -/
theorem name_of_controller (h : c.controller settings = .ok t) : t.name = c.service.name :=
  controller_preserves (fun _ _ hs => hs) (fun _ => name_of_podStage) h

end Context

end ComposePods

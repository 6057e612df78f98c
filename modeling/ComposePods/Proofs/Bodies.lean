import ComposePods.Proofs.Blanks
import ComposePods.Proofs.Folding

/-!
# The bodies that make a controller

The fragments of the pod templates are merged under one name, so only their bodies matter, and not
all of them. If the first one is a mapping it is extended by all later mappings; bodies that are
none are passed over. If the first one is null, nothing can extend it: the controller is made as if
there were no fragments. Any other first body is refused. In every case in which there is a
controller it is read from one body.

* `Fragment.body?`, `Fragment.counted`: the bodies that count;
* `Mapping.get?_mergeAll_renamed`: what fragments under one name are merged to;
* `Controller.podTree_counted`: the tree of a controller, whatever the fragments;
* **`Context.podStage_counted`**: the body from which a controller is read.
-/

namespace ComposePods

open Mapping

namespace Fragment

/-- The body of the first definition of a fragment. -/
def body? (f : Mapping) : Option Value := f.head?.map Prod.snd

/-- The bodies that count when fragments are merged under one name: the mappings, if the first body
is one. -/
def counted (fragments : List Mapping) : List Mapping :=
  let bodies := fragments.filterMap body?
  match bodies.head? with
  | some (.mapping _) => bodies.filterMap Value.mapping?
  | _ => []

end Fragment

open Fragment

/-! ## Fragments under one name -/

namespace Mapping

variable {root : String} {m : Mapping}

theorem valuesOf_renamed (fragments : List Mapping) (root : String) :
    valuesOf (fragments.map (renameRoot · root)).flatten (.string root) =
    fragments.filterMap body? := by
  rw [valuesOf_flatten, List.flatMap_map]
  induction fragments with
  | nil => rfl
  | cons f fragments ih =>
    rw [List.flatMap_cons, ih]
    cases f with
    | nil => rfl
    | cons e f =>
      obtain ⟨k, v⟩ := e
      have hvalue : valuesOf (renameRoot ((k, v) :: f) root) (.string root) = [v] := by
        simp [valuesOf, renameRoot, Value.same_self]
      rw [hvalue]
      rfl

/-- **What fragments under one name are merged to.** -/
theorem get?_mergeAll_renamed (fragments : List Mapping) (root : String) :
    get? (mergeAll (fragments.map (renameRoot · root))) (.string root) =
      match (fragments.filterMap body?).head? with
      | some (.mapping _) => some (.mapping (mergeAll (counted fragments)))
      | first => first := by
  rw [get?_mergeAll, settled, findSome?_get?, ← head?_valuesOf, ← filterMap_valuesOf_flatten,
    valuesOf_renamed, counted]
  rcases (fragments.filterMap body?).head? with _ | v
  · rfl
  · cases v <;> rfl

theorem eq_of_keys (hm : Distinct m) (h : ∀ k ∈ keys m, k = .string root) :
    m = (get? m (.string root)).toList.map fun v => (.string root, v) := by
  match m, hm, h with
  | [], _, _ => rfl
  | [(k, v)], _, h =>
    obtain rfl := h k List.mem_cons_self
    rw [get?, if_pos (Value.same_self _)]
    rfl
  | (k, v) :: (l, w) :: m, hm, h =>
    obtain rfl := h k List.mem_cons_self
    obtain rfl := h l (List.mem_cons_of_mem _ List.mem_cons_self)
    have hne := (List.pairwise_cons.1 hm).1 _ List.mem_cons_self
    rw [Value.same_self] at hne
    cases hne

theorem mergeAll_renamed (fragments : List Mapping) (root : String) :
    mergeAll (fragments.map (renameRoot · root)) =
      match (fragments.filterMap body?).head? with
      | none => []
      | some (.mapping _) => rooted (.string root) (mergeAll (counted fragments))
      | some v => [(.string root, v)] := by
  have hkeys : ∀ k ∈ keys (mergeAll (fragments.map (renameRoot · root))), k = .string root := by
    intro k hk
    obtain ⟨f, hf, hk⟩ := mem_keys_mergeAll hk
    obtain ⟨g, -, rfl⟩ := List.mem_map.1 hf
    exact mem_keys_renameRoot hk
  rw [eq_of_keys (distinct_mergeAll _) hkeys, get?_mergeAll_renamed]
  rcases (fragments.filterMap body?).head? with _ | v
  · rfl
  · cases v <;> rfl

end Mapping

/-! ## The body of a controller -/

namespace Controller

/-- **The tree of a controller** is made from the bodies that count, unless the first body cannot be
one. -/
theorem podTree_counted (settings : Settings) (service : String) (given : Mapping)
    (fragments : List Mapping) : podTree settings service given fragments =
        rooted (.string service) (podBody settings given (counted fragments)) ∨
      ∃ v, v ≠ .null ∧ (∀ m, v ≠ .mapping m) ∧
        podTree settings service given fragments = [(.string service, v)] := by
  have hmerged := mergeAll_renamed fragments service
  have hbody (bodies : List Mapping) :
      merge (rooted (.string service) (KeySet.pod.keys.foldl (fillKey given) (mergeAll bodies)))
          [(.string service, .mapping (standardProperties settings))] =
        rooted (.string service) (podBody settings given bodies) := merge_rooted _ _ _
  rw [podTree]
  rcases hfirst : (fragments.filterMap body?).head? with _ | v
  · have hcounted : counted fragments = [] := by rw [counted, hfirst]
    rw [hfirst] at hmerged
    rw [hmerged, hcounted]
    exact .inl (hbody [])
  · rw [hfirst] at hmerged
    by_cases hv : v = .null ∨ ∃ m, v = .mapping m
    · left
      rcases hv with rfl | ⟨m, rfl⟩
      · have hcounted : counted fragments = [] := by rw [counted, hfirst]
        rw [hmerged, hcounted, ← hbody]
        simp [carryOver, rooted, get?, Mapping.insert, mergeAll]
      · rw [hmerged, ← hbody]
        simp [carryOver, rooted, get?, Mapping.insert]
    · -- Neither the service as given nor the settings have a say any more.
      rw [not_or, not_exists] at hv
      have htree : mergeAll (fragments.map (renameRoot · service)) = [(.string service, v)] := by
        rw [hmerged]
        cases v with
        | mapping m => exact absurd rfl (hv.2 m)
        | null | bool | number | string | sequence | tagged => rfl
      refine .inr ⟨v, hv.1, hv.2, ?_⟩
      rw [htree]
      cases v with
      | null => exact absurd rfl hv.1
      | mapping m => exact absurd rfl (hv.2 m)
      | bool | number | string | sequence | tagged =>
        simp [carryOver, get?, merge, adjust, mergeValue]

end Controller

namespace Context

open Controller

variable {c : Context} {settings : Settings} {s : Service}

/-- **The body from which a controller is read**, before it gets its labels: all pod templates have
been rendered, and the bodies that count have been filled up from the service as given and from the
settings. -/
theorem podStage_counted [Markup.Machine] (h : c.podStage settings = .ok s) :
    ∃ fragments, c.templates.pod.mapM (c.render .pod) = .ok fragments ∧
      Definitions.ofEntry c.directory c.service.name .pod
        (.string c.service.name, .mapping (podBody settings c.definition (counted fragments))) =
          .ok s := by
  obtain ⟨pairs, hpairs, -⟩ := bind_ok_iff.1 h
  obtain ⟨fragments, hfragments⟩ : ∃ fragments,
    c.templates.pod.mapM (c.render .pod) = .ok fragments := by
    refine exists_mapM_ok_iff.2 fun t ht => ?_
    obtain ⟨_, hrooted⟩ := exists_ok_of_mapM_ok hpairs t ht
    obtain ⟨f, hf, -⟩ := bind_ok_iff.1 hrooted
    exact ⟨f, hf⟩
  refine ⟨fragments, hfragments, ?_⟩
  rw [podStage_of_rendered hfragments, podOf] at h
  simp only [bind_ok_iff, report, mapError_ok_iff] at h
  obtain ⟨-, -, hsingle⟩ := h
  rcases podTree_counted settings c.service.name c.definition fragments
    with htree | ⟨v, hnull, hplain, htree⟩
  · rw [htree] at hsingle
    rw [← single_definitions]
    exact bind_ok_iff.2 hsingle
  · have hentry : Definitions.ofEntry c.directory c.service.name .pod
        (.string c.service.name, v) = .ok s := by
      rw [htree] at hsingle
      rw [← single_definitions]
      exact bind_ok_iff.2 hsingle
    obtain ⟨name, body, t, -, -, hbody, -⟩ := Definitions.ofEntry_ok_iff.1 hentry
    rcases hbody with hbody | ⟨hbody, -⟩
    · exact absurd hbody (hplain body)
    · exact absurd hbody hnull

end Context

end ComposePods

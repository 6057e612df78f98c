import ComposePods.Proofs.Controller
import ComposePods.Proofs.Labels
import ComposePods.Proofs.Merging

/-!
# Where properties come from

The tree of a controller and that of a main component have one root key each, whatever root keys the
fragments have. Below it a property has the value that the fragments give it; what they leave unset
comes from the service as given, if it is carried over, and what is unset then from the settings.

* `Fragment.get?_fill`, `Fragment.fill_congr`: what is carried over;
* `Controller.sourced`: the value that a property should have;
* `Controller.podTree_rooted`, `Controller.mainTree_rooted`: the two trees;
* `Context.mapM_renderRooted`: root keys are read once fragments are rendered;
* **`Context.pod_provenance`**, **`Context.main_provenance`**: the definitions that the stages read.
-/

namespace ComposePods

open Mapping

/-! ## Gaps that are filled -/

namespace Fragment

variable {given given' target : Mapping}

theorem get?_fillKey (given target : Mapping) (key : String) (k : Value) :
    get? (fillKey given target key) k =
      (get? target k).or (if k = .string key then get? given k else none) := by
  unfold fillKey
  by_cases hk : k = .string key
  · subst hk
    rw [if_pos rfl, contains]
    rcases htarget : get? target (.string key) with _ | v
    · rcases hgiven : get? given (.string key) with _ | w
      · simp [htarget]
      · simp [get?_insert_self]
    · simp [htarget]
  · have hne : (Value.string key).same k = false := by
      rw [Bool.eq_false_iff, Value.same_comm, ne_eq, Value.same_string_iff]
      exact hk
    rw [if_neg hk, Option.or_none]
    split
    · rfl
    · split
      · exact get?_insert_of_ne target _ hne
      · rfl

/-- **What is carried over** is what the keys have, where the definition has nothing. -/
theorem get?_fill (given target : Mapping) (keys : List String) (k : Value) :
    get? (keys.foldl (fillKey given) target) k =
      (get? target k).or (if k ∈ keys.map .string then get? given k else none) := by
  induction keys generalizing target with
  | nil => simp
  | cons key keys ih =>
    rw [List.foldl_cons, ih, get?_fillKey, Option.or_assoc]
    congr 1
    by_cases hkey : k = .string key
    · by_cases hkeys : k ∈ keys.map Value.string <;> simp [← hkey, hkeys]
    · simp [hkey]

theorem distinct_fill (given : Mapping) (htarget : Distinct target) (keys : List String) :
    Distinct (keys.foldl (fillKey given) target) := by
  induction keys generalizing target with
  | nil => exact htarget
  | cons key keys ih =>
    refine ih ?_
    unfold fillKey
    split
    · exact htarget
    · split
      · exact distinct_insert htarget _ _
      · exact htarget

theorem fill_congr {keys : List String}
    (h : ∀ key ∈ keys, get? given' (.string key) = get? given (.string key)) (target : Mapping) :
    keys.foldl (fillKey given') target = keys.foldl (fillKey given) target := by
  induction keys generalizing target with
  | nil => rfl
  | cons key keys ih =>
    rw [List.forall_mem_cons] at h
    have hkey : fillKey given' target key = fillKey given target key := by
      rw [fillKey, fillKey, h.1]
    rw [List.foldl_cons, List.foldl_cons, hkey, ih h.2]

theorem carryOver_mergeAll (root : String) (bodies : List Mapping) (given : Mapping)
    (keys : KeySet) : carryOver (mergeAll (bodies.map (rooted (.string root)))) root given keys =
      rooted (.string root) (keys.keys.foldl (fillKey given) (mergeAll bodies)) := by
  cases bodies with
  | nil => rfl
  | cons body bodies =>
    rw [mergeAll_rooted]
    simp [carryOver, rooted, get?, Mapping.insert]

end Fragment

namespace Controller

open Fragment

/-! ## Trees -/

/-- The value that a key of a definition should have: what the bodies of the fragments give it, else
what the service as given has if it is carried over, else the standard value. -/
def sourced (bodies : List Mapping) (given : Mapping) (keys : KeySet) (standard : Mapping)
    (k : Value) : Option Value :=
  if ∃ body ∈ bodies, contains body k = true then get? (mergeAll bodies) k
  else if k ∈ keys.keys.map .string ∧ contains given k = true then get? given k
  else get? standard k

theorem sourced_eq (bodies : List Mapping) (given : Mapping) (keys : KeySet) (standard : Mapping)
    (k : Value) :
    sourced bodies given keys standard k =
      (get? (keys.keys.foldl (fillKey given) (mergeAll bodies)) k).or (get? standard k) := by
  rw [get?_fill, sourced]
  split
  · rename_i hbody
    obtain ⟨v, hv⟩ := Option.isSome_iff_exists.1 (contains_mergeAll.2 hbody)
    simp [hv]
  · rename_i hbody
    have hnone : get? (mergeAll bodies) k = none := by
      rw [← contains_mergeAll, contains] at hbody
      simpa using hbody
    rw [hnone, Option.none_or]
    by_cases hkey : k ∈ keys.keys.map .string
    · rcases hgiven : get? given k with _ | v <;> simp [contains, hkey, hgiven]
    · simp [hkey]

theorem get?_merge_standard (settings : Settings) (body : Mapping) (k : Value) :
    get? (merge body (standardProperties settings)) k =
      (get? body k).or (get? (standardProperties settings) k) := by
  refine get?_merge_of_plain (fun e he m => ?_) body k
  simp only [standardProperties, List.mem_cons, List.not_mem_nil, or_false] at he
  rcases he with rfl | rfl
  · exact Value.noConfusion
  · exact Value.noConfusion

/-- The body of the controller. -/
def podBody (settings : Settings) (given : Mapping) (bodies : List Mapping) : Mapping :=
  merge (KeySet.pod.keys.foldl (fillKey given) (mergeAll bodies)) (standardProperties settings)

/-- The body of the main component. -/
def mainBody (given : Mapping) (bodies : List Mapping) : Mapping :=
  KeySet.transformer.keys.foldl (fillKey given) (mergeAll bodies)

theorem map_renameRoot (roots : List (Value × Mapping)) (name : String) :
    (roots.map fun r => rooted r.1 r.2).map (renameRoot · name) =
      (roots.map (·.2)).map (rooted (.string name)) := by
  rw [List.map_map, List.map_map]
  rfl

/-- **The tree of a controller** has one root key, the name of the service. -/
theorem podTree_rooted (settings : Settings) (service : String) (given : Mapping)
    (roots : List (Value × Mapping)) :
    podTree settings service given (roots.map fun r => rooted r.1 r.2) =
      rooted (.string service) (podBody settings given (roots.map (·.2))) := by
  rw [podTree, map_renameRoot, carryOver_mergeAll]
  exact merge_rooted _ _ _

/-- **The tree of a main component** has one root key, the name of the component. -/
theorem mainTree_rooted (component : String) (given : Mapping) (roots : List (Value × Mapping)) :
    mainTree component given (roots.map fun r => rooted r.1 r.2) =
      rooted (.string component) (mainBody given (roots.map (·.2))) := by
  rw [mainTree, map_renameRoot, carryOver_mergeAll]
  rfl

/-- The body of a definition has every key once, and the value that the key should have. -/
structure IsSourced (bodies : List Mapping) (given : Mapping) (keys : KeySet)
    (standard body : Mapping) : Prop where
  distinct : Distinct body
  get?_eq : ∀ k, get? body k = sourced bodies given keys standard k

theorem isSourced_podBody (settings : Settings) (given : Mapping) (bodies : List Mapping) :
    IsSourced bodies given .pod (standardProperties settings) (podBody settings given bodies) where
  distinct := distinct_merge (distinct_fill given (distinct_mergeAll bodies) _) _
  get?_eq k := by rw [podBody, get?_merge_standard, sourced_eq]

theorem isSourced_mainBody (given : Mapping) (bodies : List Mapping) :
    IsSourced bodies given .transformer [] (mainBody given bodies) where
  distinct := distinct_fill given (distinct_mergeAll bodies) _
  get?_eq k := by rw [sourced_eq, mainBody, get?, Option.or_none]

end Controller

/-! ## Rendered fragments -/

namespace Context

open Controller

variable {c : Context} {layer : Layer} {ts : List Template} {roots : List (Value × Mapping)}

theorem rootKey_rooted_of_ok {key : Value} {name service : String} (body : Mapping)
    (h : key.scalarText? = .ok name) :
    Fragment.rootKey (rooted key body) service layer = .ok name := by
  rw [rooted, Fragment.rootKey, h]

theorem rootKey_rooted_of_error {key : Value} {e : LooseError} {service : String} (body : Mapping)
    (h : key.scalarText? = .error e) :
    Fragment.rootKey (rooted key body) service layer =
    .error (.schema service layer (.rootKey e)) := by
  rw [rooted, Fragment.rootKey, h]

theorem single_definitions (c : Context) (layer : Layer) (e : Value × Value) :
    (c.definitions layer [e] >>= single c.service.name layer) =
      Definitions.ofEntry c.directory c.service.name layer e := by
  rw [definitions, Definitions.ofTree, List.mapM_cons, List.mapM_nil]
  cases Definitions.ofEntry c.directory c.service.name layer e with
  | error f => rfl
  | ok s =>
    have hsorted : Definitions.byName [s] = [s] := List.mergeSort_singleton s
    change single c.service.name layer (Definitions.byName [s]) = _
    rw [hsorted, single]

section

variable [Markup.Machine]

theorem mapM_renderRooted {fragments : List Mapping}
    (h : ts.mapM (c.render layer) = .ok fragments) :
    ts.mapM (c.renderRooted layer) = fragments.mapM fun f => do
      let key ← report (Fragment.rootKey f c.service.name layer)
      return (key, f) := by
  refine mapM_eq_of_forall₂ ((mapM_ok_iff.1 h).imp fun t f ht => ?_)
  rw [renderRooted, ht]
  rfl

theorem mapM_renderRooted_of_scalars
    (h : ts.mapM (c.render layer) = .ok (roots.map fun r => rooted r.1 r.2))
    (hscalars : ∀ r ∈ roots, ∃ name, r.1.scalarText? = .ok name) :
    ∃ fragments, ts.mapM (c.renderRooted layer) = .ok fragments ∧
      fragments.map (·.2) = roots.map (fun r => rooted r.1 r.2) ∧
      List.Forall₂ (fun r f => r.1.scalarText? = .ok f.1) roots fragments := by
  rw [mapM_renderRooted h]
  clear h
  induction roots with
  | nil => exact ⟨[], rfl, rfl, .nil⟩
  | cons r roots ih =>
    rw [List.forall_mem_cons] at hscalars
    obtain ⟨name, hname⟩ := hscalars.1
    obtain ⟨fragments, hmap, hsnd, hnames⟩ := ih hscalars.2
    refine ⟨(name, rooted r.1 r.2) :: fragments, ?_, by rw [List.map_cons, hsnd, List.map_cons],
      .cons hname hnames⟩
    rw [List.map_cons, List.mapM_cons, hmap, rootKey_rooted_of_ok _ hname]
    rfl

theorem mapM_renderRooted_of_collection {before after : List (Value × Mapping)}
    {r : Value × Mapping} {e : LooseError}
    (h : ts.mapM (c.render layer) = .ok (roots.map fun r => rooted r.1 r.2))
    (hroots : roots = before ++ r :: after)
    (hbefore : ∀ b ∈ before, ∃ name, b.1.scalarText? = .ok name) (hr : r.1.scalarText? = .error e) :
    ts.mapM (c.renderRooted layer) =
    .error (.error (.schema c.service.name layer (.rootKey e))) := by
  rw [mapM_renderRooted h, hroots]
  clear h hroots
  induction before with
  | nil =>
    rw [List.nil_append, List.map_cons, List.mapM_cons, rootKey_rooted_of_error _ hr]
    rfl
  | cons b before ih =>
    rw [List.forall_mem_cons] at hbefore
    obtain ⟨name, hname⟩ := hbefore.1
    rw [List.cons_append, List.map_cons, List.mapM_cons, ih hbefore.2, rootKey_rooted_of_ok _ hname]
    rfl

/-! ## Stages -/

theorem podStage_of_scalars (settings : Settings)
    (h : c.templates.pod.mapM (c.render .pod) = .ok (roots.map fun r => rooted r.1 r.2))
    (hscalars : ∀ r ∈ roots, ∃ name, r.1.scalarText? = .ok name) :
    c.podStage settings = report (do
      single c.service.name .pod (← c.definitions .pod
        (rooted (.string c.service.name) (podBody settings c.definition (roots.map (·.2)))))) := by
  obtain ⟨fragments, hfragments, hsnd, -⟩ := mapM_renderRooted_of_scalars h hscalars
  rw [podStage, hfragments, ← podTree_rooted, ← hsnd]
  rfl

theorem mainStage_of_scalars {root : Value × Mapping}
    (h : (transformersOf c.templates).mapM (c.render .transformer) =
      .ok ((root :: roots).map fun r => rooted r.1 r.2))
    (hscalars : ∀ r ∈ root :: roots, ∃ name, r.1.scalarText? = .ok name) :
    ∃ component, root.1.scalarText? = .ok component ∧
      c.mainStage = report (do
        let s ← single c.service.name .transformer (← c.definitions .transformer
          (rooted (.string component) (mainBody c.definition ((root :: roots).map (·.2)))))
        return (s.name, ← serviceText s)) := by
  obtain ⟨fragments, hfragments, hsnd, hnames⟩ := mapM_renderRooted_of_scalars h hscalars
  obtain ⟨⟨component, fragment⟩, rest, hcomponent, -, rfl⟩ := List.forall₂_cons_left_iff.1 hnames
  refine ⟨component, hcomponent, ?_⟩
  rw [mainStage, hfragments, ← mainTree_rooted, ← hsnd]
  rfl

end

theorem component_ok_iff {e : Value × Value} {main : String × String} :
    report (do
      let s ← single c.service.name layer (← c.definitions layer [e])
      return (s.name, ← serviceText s)) = .ok main ↔
    ∃ s, Definitions.ofEntry c.directory c.service.name layer e = .ok s ∧ main.1 = s.name ∧
      serviceText s = .ok main.2 := by
  simp only [← single_definitions, report, mapError_ok_iff, bind_ok_iff, pure_ok_iff]
  constructor
  · rintro ⟨ss, hss, s, hs, text, htext, rfl⟩
    exact ⟨s, ⟨ss, hss, hs⟩, rfl, htext⟩
  · rintro ⟨s, ⟨ss, hss, hs⟩, hname, htext⟩
    exact ⟨ss, hss, s, hs, main.2, htext, Prod.ext hname.symm rfl⟩

/-- **Where the properties of a controller come from.** The tree that the pod templates give has one
root key, the name of the service. A property below it is that of the fragments, else that of the
service as given if the controller takes it over, else what the settings say. The controller is read
from this tree, unless a root key of a fragment is no scalar, and nothing but the properties that
are taken over has been looked up in the service as given. -/
theorem pod_provenance [Markup.Machine] (settings : Settings)
    (h : c.templates.pod.mapM (c.render .pod) = .ok (roots.map fun r => rooted r.1 r.2)) :
    ∃ body,
      podTree settings c.service.name c.definition (roots.map fun r => rooted r.1 r.2) =
        rooted (.string c.service.name) body ∧
      IsSourced (roots.map (·.2)) c.definition .pod (standardProperties settings) body ∧
      ((∀ r ∈ roots, ∃ name, r.1.scalarText? = .ok name) →
        c.podStage settings = report (do
          single c.service.name .pod
            (← c.definitions .pod (rooted (.string c.service.name) body)))) ∧
      (∀ before r after e, roots = before ++ r :: after →
        (∀ b ∈ before, ∃ name, b.1.scalarText? = .ok name) → r.1.scalarText? = .error e →
        c.podStage settings = .error (.error (.schema c.service.name .pod (.rootKey e)))) ∧
      ∀ given, (∀ key ∈ KeySet.pod.keys,
        get? given (.string key) = get? c.definition (.string key)) →
        podTree settings c.service.name given (roots.map fun r => rooted r.1 r.2) =
          rooted (.string c.service.name) body := by
  refine ⟨_, podTree_rooted settings _ _ roots, isSourced_podBody settings _ _,
    podStage_of_scalars settings h, fun before r after e hroots hbefore hr => ?_,
    fun given hgiven => ?_⟩
  · rw [podStage, mapM_renderRooted_of_collection h hroots hbefore hr]
    rfl
  · rw [podTree_rooted, podBody, Fragment.fill_congr hgiven]
    rfl

/-- Two templates with root keys of their own: the first image stays, the lists of labels are
merged, the policy is that of the service, the command is left to the main component, and the
volumes are the standard ones. -/
theorem pod_provenance_web :
    let web : Service :=
      ((Service.empty "web").set .restart (some "always")).set .command (some (.single "run"))
    let pod : List Template := [⟨"first", "any: \x7bimage: a, labels: \x7btier: front\x7d\x7d", []⟩,
      ⟨"second", "80: \x7bimage: b, labels: \x7bzone: \"1\"\x7d\x7d", []⟩]
    let c : Context := ⟨web, [web], "/work", { Templates.empty with pod }⟩
    ∃ (roots : List (Value × Mapping)) (body : Mapping),
      pod.mapM (c.render .pod) = .ok (roots.map fun r => rooted r.1 r.2) ∧
      podTree .standard "web" web.definition (roots.map fun r => rooted r.1 r.2) =
        rooted (.string "web") body ∧
      get? body (.string "image") = some (.string "a") ∧
      get? body (.string "labels") =
        some (.mapping [(.string "tier", .string "front"), (.string "zone", .string "1")]) ∧
      get? body (.string "restart") = some (.string "always") ∧
      get? body (.string "command") = none ∧
      get? body (.string "volumes") = some (Value.strings Settings.standard.controllerVolumes) := by
  intro web pod c
  let roots : List (Value × Mapping) :=
    [(.string "any", [(.string "image", .string "a"),
        (.string "labels", .mapping [(.string "tier", .string "front")])]),
      (.number (.integer 80), [(.string "image", .string "b"),
        (.string "labels", .mapping [(.string "zone", .string "1")])])]
  have h : pod.mapM (c.render .pod) = .ok (roots.map fun r => rooted r.1 r.2) :=
    toOption_some_iff.1 (by decide +kernel)
  obtain ⟨body, htree, hbody, -⟩ := pod_provenance (c := c) .standard h
  refine ⟨roots, body, h, htree, ?_⟩
  simp only [hbody.get?_eq]
  decide +kernel

/-- **Where the properties of a main component come from.** The tree that its templates give has one
root key, the text of the first root key. A property below it is that of the fragments, else that of
the service as given if the component takes it over, else unset. The component is read from this
tree, and it and its label are named by the first root key. -/
theorem main_provenance [Markup.Machine] {root : Value × Mapping}
    (h : (transformersOf c.templates).mapM (c.render .transformer) =
      .ok ((root :: roots).map fun r => rooted r.1 r.2))
    (hscalars : ∀ r ∈ root :: roots, ∃ name, r.1.scalarText? = .ok name) :
    ∃ component body, root.1.scalarText? = .ok component ∧
      mainTree component c.definition ((root :: roots).map fun r => rooted r.1 r.2) =
        rooted (.string component) body ∧
      IsSourced ((root :: roots).map (·.2)) c.definition .transformer [] body ∧
      c.mainStage = report (do
        let s ← single c.service.name .transformer
          (← c.definitions .transformer (rooted (.string component) body))
        return (s.name, ← serviceText s)) ∧
      ∀ main, c.mainStage = .ok main → main.1 = component ∧
        ∀ settings t, c.controller settings = .ok t →
          t.labels.get? (settings.componentLabel component) = some main.2 := by
  obtain ⟨component, hcomponent, hstage⟩ := mainStage_of_scalars h hscalars
  refine ⟨component, _, hcomponent, mainTree_rooted _ _ _, isSourced_mainBody _ _, hstage,
    fun main hmain => ?_⟩
  have hname : main.1 = component := by
    obtain ⟨s, hs, hname, -⟩ := component_ok_iff.1 (hstage.symm.trans hmain)
    exact hname.trans (Except.ok.inj (Definitions.name_of_ofEntry hs)).symm
  refine ⟨hname, fun settings t ht => ?_⟩
  obtain ⟨o, ho, hnd, rfl⟩ := controller_ok_iff.1 ht
  obtain rfl : main = o.main := Except.ok.inj (hmain.symm.trans ho.main)
  rw [← hname]
  exact Stages.get?_labels hnd (List.mem_append_right _ List.mem_cons_self)

/-- A number and a text for root keys: the number names the component, and the template fills no gap
for which the service is given nothing. -/
theorem main_provenance_number :
    let web : Service :=
      ((Service.empty "web").set .restart (some "always")).set .command (some (.single "run"))
    let transformer : List Template := [⟨"first", "80: \x7bimage: a\x7d", []⟩,
      ⟨"second", "any: \x7bimage: b, user: c\x7d", []⟩]
    let c : Context := ⟨web, [web], "/work", { Templates.empty with transformer }⟩
    ∃ main t, c.mainStage = .ok main ∧ main.1 = "80" ∧ c.controller .standard = .ok t ∧
      t.labels.get? "pod.component.80" = some main.2 ∧
      ∃ (roots : List (Value × Mapping)) (body : Mapping),
        transformer.mapM (c.render .transformer) = .ok (roots.map fun r => rooted r.1 r.2) ∧
        mainTree "80" web.definition (roots.map fun r => rooted r.1 r.2) =
        rooted (.string "80") body ∧
        get? body (.string "image") = some (.string "a") ∧
        get? body (.string "user") = some (.string "c") ∧
        get? body (.string "command") = some (.string "run") ∧
        get? body (.string "restart") = none := by
  intro web transformer c
  let root : Value × Mapping := (.number (.integer 80), [(.string "image", .string "a")])
  let roots : List (Value × Mapping) :=
    [(.string "any", [(.string "image", .string "b"), (.string "user", .string "c")])]
  have h : transformer.mapM (c.render .transformer) =
      .ok ((root :: roots).map fun r => rooted r.1 r.2) :=
    toOption_some_iff.1 (by decide +kernel)
  have hroot : root.1.scalarText? = .ok "80" := toOption_some_iff.1 (by decide +kernel)
  have hscalars : ∀ r ∈ root :: roots, ∃ name, r.1.scalarText? = .ok name :=
    List.forall_mem_cons.2 ⟨⟨_, hroot⟩,
      List.forall_mem_cons.2 ⟨⟨"any", rfl⟩, List.forall_mem_nil _⟩⟩
  obtain ⟨component, body, hcomponent, htree, hbody, -, hmain⟩ :=
    main_provenance (c := c) h hscalars
  obtain rfl : component = "80" := Except.ok.inj (hcomponent.symm.trans hroot)
  obtain ⟨main, hstage⟩ : ∃ main, c.mainStage = .ok main := exists_ok_of_isOk (by decide +kernel)
  obtain ⟨t, ht⟩ : ∃ t, c.controller .standard = .ok t := exists_ok_of_isOk (by decide +kernel)
  obtain ⟨hname, hlabel⟩ := hmain main hstage
  refine ⟨main, t, hstage, hname, ht, hlabel .standard t ht, root :: roots, body, h, htree, ?_⟩
  simp only [hbody.get?_eq]
  decide +kernel

end Context

end ComposePods

import ComposePods.Proofs.Manifests
import ComposePods.Proofs.Presented
import ComposePods.Proofs.Split
import Mathlib.Data.List.Induction
import Mathlib.Data.List.Sections

/-!
# The order in which services are replaced

A controller is made from the service that it replaces and from what the templates of that service
give. Where the templates give the same whatever other services have been replaced, no controller
depends on another one, and the services may be replaced in any order.

* `Project.versions`, `Project.mixtures`: what templates may find while services are being replaced;
* `Project.Unaware`: templates that give the same whatever they find;
* `Service.presentable_of_controller`: a controller without pod templates shows what the service has
  shown;
* **`Project.controller_of_mixture`**: no controller depends on another one;
* `Project.Replaced`, **`Project.transformAll_ok_iff`**: what a run comes to, without its order;
* **`Project.transformAll_order`**: two services and whole sessions in any order.
-/

namespace ComposePods

/-! ## What templates are shown of a service -/

namespace Service

open Mapping

variable {s : Service}

theorem distinct_definition (hs : s.Sound) : Distinct s.definition := by
  have hproperties : Distinct (Property.all.filterMap s.entry?) := by
    rw [Distinct, List.pairwise_filterMap]
    have hall : Property.all.Nodup := by decide
    refine hall.imp fun {p q} hpq e he f hf => ?_
    obtain ⟨v, -, rfl⟩ := Option.map_eq_some_iff.1 he
    obtain ⟨w, -, rfl⟩ := Option.map_eq_some_iff.1 hf
    rw [Value.same_string, decide_eq_false_iff_not]
    exact fun hname => hpq (Property.name_injective hname)
  have hextensions : Distinct (s.extensions.entries.map fun e => (Value.string e.1, e.2)) := by
    rw [Distinct, List.pairwise_map]
    refine s.extensions.ascending.imp fun {e f} hlt => ?_
    rw [Value.same_string, decide_eq_false_iff_not]
    exact Std.compare_ne_eq_iff_ne.1 (by rw [hlt]; decide)
  refine List.pairwise_append.2 ⟨hproperties, hextensions, fun e he f hf => ?_⟩
  obtain ⟨p, -, hp⟩ := List.mem_filterMap.1 he
  obtain ⟨v, -, rfl⟩ := Option.map_eq_some_iff.1 hp
  obtain ⟨x, hx, rfl⟩ := List.mem_map.1 hf
  rw [Value.same_string, decide_eq_false_iff_not]
  intro hname
  have hfurther := hs.further x hx
  rw [← hname, ofName?_name] at hfurther
  cases hfurther

theorem Presentable.write (h : s.Presentable) (hs : s.Sound) {p : Property} {w : Value}
    (hw : p.kind.write (s.value p) = some w) : w.Presentable := by
  have hget : get? s.namedDefinition (.string p.name) = some w := by
    rw [namedDefinition, get?_overlay (distinct_definition hs), get?_definition hs, hw]
    rfl
  obtain ⟨l, hmem, -⟩ := exists_mem_of_get? hget
  exact (Value.presentable_mapping_iff.1 h _ hmem).2

theorem presentable_of_write (hextensions : s.extensions = .empty)
    (h : ∀ (p : Property) (w : Value), p.kind.write (s.value p) = some w → w.Presentable) :
    s.Presentable := by
  refine Value.presentable_overlay ?_ (Value.presentable_mapping_iff.2 fun e he => ?_)
  · refine Value.presentable_mapping_iff.2 (List.forall_mem_singleton.2 ⟨rfl, ?_⟩)
    exact Value.presentable_string _
  · rw [definition, hextensions, Dict.entries_empty, List.map_nil, List.append_nil] at he
    obtain ⟨p, -, hp⟩ := List.mem_filterMap.1 he
    obtain ⟨w, hw, rfl⟩ := Option.map_eq_some_iff.1 hp
    exact ⟨rfl, h p w hw⟩

theorem write_unset (p : Property) : p.kind.write p.kind.unset = none := by
  cases p <;> rfl

theorem presentable_ofLabels {d : Dict String} {w : Value}
    (hw : Value.unlessEmpty .ofLabels d = some w) : w.Presentable := by
  obtain rfl := Value.eq_of_unlessEmpty hw
  refine Value.presentable_mapping_iff.2 fun e he => ?_
  obtain ⟨x, -, rfl⟩ := List.mem_map.1 he
  exact ⟨rfl, Value.presentable_string x.2⟩

theorem presentable_shortVolumes {texts : List String} {directory : String} {w : Value}
    (hw : Value.listUnlessEmpty Volume.toValue
      (texts.map fun v => (Volume.short v).locate directory) = some w) : w.Presentable := by
  obtain rfl := Value.eq_of_listUnlessEmpty hw
  refine Value.presentable_sequence_iff.2 fun v hv => ?_
  rw [List.map_map] at hv
  obtain ⟨text, -, rfl⟩ := List.mem_map.1 hv
  rw [Function.comp_apply, Volume.locate]
  split <;> exact Value.presentable_string _

theorem presentable_standard (h : s.Presentable) (hs : s.Sound) (settings : Settings)
    (directory name : String) (d : Dict String) :
    ((Service.locate directory { s.standard settings with name }).withLabels d).Presentable := by
  have hsplit := s.splitsInto_of_only settings directory name fun k v hk => hk
  have hvalue (p : Property) (hp : p ≠ .labels) :
      ((Service.locate directory { s.standard settings with name }).withLabels d).value p =
        ((Service.locate directory { s.standard settings with name }).withLabels
          s.labels).value p := by
    rw [value_withLabels _ d hp, value_withLabels _ s.labels hp]
  refine presentable_of_write rfl fun p w hw => ?_
  by_cases hlabels : p = .labels
  · subst hlabels
    change Value.unlessEmpty .ofLabels (Service.withLabels _ d).labels = some w at hw
    rw [labels_withLabels] at hw
    exact presentable_ofLabels hw
  rw [hvalue p hlabels] at hw
  by_cases himage : p = .image
  · subst himage
    have hwritten := hw.symm.trans (congrArg Property.image.kind.write hsplit.image)
    obtain rfl : w = .string settings.controllerImage := Option.some.inj hwritten
    exact Value.presentable_string _
  by_cases hvolumes : p = .volumes
  · subst hvolumes
    have hwritten := hw.symm.trans (congrArg Property.volumes.kind.write hsplit.volumes)
    exact presentable_shortVolumes hwritten.symm
  by_cases hpod : p ∈ KeySet.pod.properties
  · rw [(hsplit.pod p hpod).1 hlabels] at hw
    exact h.write hs hw
  · have hunset : ((Service.locate directory { s.standard settings with name }).withLabels
      s.labels).value p =
        p.kind.unset := by
      by_cases htransformer : p ∈ KeySet.transformer.properties
      · exact (hsplit.transformer p htransformer).2 himage hvolumes
      · exact (hsplit.others p hpod htransformer).1
    rw [hunset, write_unset] at hw
    cases hw

end Service

/-! ## Templates that were rendered -/

namespace Context

open Controller

variable [Markup.Machine] {c d : Context} {settings : Settings} {t : Service}

omit [Markup.Machine] in
theorem rendered_transformer_ne_nil (c : Context) : c.rendered .transformer ≠ [] := by
  rw [rendered, transformersOf]
  split
  · exact List.cons_ne_nil _ _
  · rename_i h
    exact fun hnil => h (List.isEmpty_iff.2 hnil)

theorem renders_of_controller (h : c.controller settings = .ok t) {layer : Layer} {u : Template}
    (hu : u ∈ c.rendered layer) : ∃ fragment, c.render layer u = .ok fragment := by
  obtain ⟨o, ho, -, -⟩ := controller_ok_iff.1 h
  cases layer with
  | pod =>
    obtain ⟨fragments, hfragments, -⟩ := bind_ok_iff.1 ho.pod
    obtain ⟨_, hu⟩ := exists_ok_of_mapM_ok hfragments u hu
    obtain ⟨fragment, hfragment, -⟩ := bind_ok_iff.1 hu
    exact ⟨fragment, hfragment⟩
  | transformer =>
    obtain ⟨fragments, hfragments, -⟩ := bind_ok_iff.1 ho.main
    obtain ⟨_, hu⟩ := exists_ok_of_mapM_ok hfragments u hu
    obtain ⟨fragment, hfragment, -⟩ := bind_ok_iff.1 hu
    exact ⟨fragment, hfragment⟩
  | component =>
    obtain ⟨fragments, hfragments, -⟩ := bind_ok_iff.1 ho.components
    exact exists_ok_of_mapM_ok hfragments u hu
  | copy =>
    obtain ⟨fragments, hfragments, -⟩ := bind_ok_iff.1 ho.copies
    obtain ⟨_, hu⟩ := exists_ok_of_mapM_ok hfragments u hu
    obtain ⟨fragment, hfragment, -⟩ := bind_ok_iff.1 hu
    exact ⟨fragment, hfragment⟩

theorem presents_of_render {layer : Layer} {u : Template} {fragment : Mapping}
    (h : c.render layer u = .ok fragment) : c.Presents u := by
  by_contra hpresents
  rw [render_abandoned_iff.2 (.inl hpresents)] at h
  cases h

theorem presentable_of_controller (h : c.controller settings = .ok t) :
    ∀ s ∈ c.services, s.Presentable := by
  obtain ⟨u, hu⟩ := List.exists_mem_of_ne_nil _ c.rendered_transformer_ne_nil
  obtain ⟨fragment, hfragment⟩ := renders_of_controller h hu
  exact (presents_of_render hfragment).services

theorem presentable_of_default (hs : c.service.Sound) (hshown : c.service.Presentable)
    (hpod : c.templates.pod = []) (h : c.controller settings = .ok t) : t.Presentable := by
  obtain ⟨o, ho, -, rfl⟩ := controller_ok_iff.1 h
  obtain ⟨-, hcontroller⟩ := (podStage_default_iff hs hpod).1 ho.pod
  rw [hcontroller]
  exact Service.presentable_standard hshown hs settings c.directory c.service.name _

theorem render_default_congr (hservice : c.service = d.service) (hvalid : c.service.Valid)
    (hpresents : c.Presents defaultTransformer ↔ d.Presents defaultTransformer) :
    c.render .transformer defaultTransformer = d.render .transformer defaultTransformer := by
  by_cases hc : c.Presents defaultTransformer
  · rw [render_default_eq hvalid (isSome_data?_iff.2 hc),
      render_default_eq (hservice ▸ hvalid) (isSome_data?_iff.2 (hpresents.1 hc)),
      fragmentOf, fragmentOf,
      hservice]
  · rw [render_abandoned_iff.2 (.inl hc),
      render_abandoned_iff.2 (.inl fun hd => hc (hpresents.2 hd))]

end Context

/-! ## Services as given or replaced -/

namespace Project

variable {p q r : Project} {settings : Settings} {directory : String}
    {es : List (String × Templates)}

theorem concat_subset {done : List (String × Templates)} {e : String × Templates}
    (hdone : done ++ [e] ⊆ es) (hnames : ((done ++ [e]).map Prod.fst).Nodup) :
    done ⊆ es ∧ e ∈ es ∧ (done.map Prod.fst).Nodup ∧ e.1 ∉ done.map Prod.fst := by
  rw [List.append_subset] at hdone
  rw [List.map_append, List.nodup_append] at hnames
  obtain ⟨hdoneNames, -, hne⟩ := hnames
  exact ⟨hdone.1, hdone.2 List.mem_cons_self, hdoneNames, fun hmem =>
    hne _ hmem _ List.mem_cons_self rfl⟩

section

variable [Markup.Machine]

/-- What may be found of a service while services are being replaced: the service as given, or its
controller. -/
def versions (p : Project) (settings : Settings) (directory : String)
    (es : List (String × Templates)) (s : Service) : List Service :=
  s :: es.filterMap fun e =>
    if e.1 = s.name then ((Context.ofService p directory s e.2).controller settings).toOption
      else none

/-- What templates may find of all services while services are being replaced. -/
def mixtures (p : Project) (settings : Settings) (directory : String)
    (es : List (String × Templates)) : List (List Service) :=
  (p.services.map (p.versions settings directory es)).sections

/-- The templates of some services give the same whatever other services have been replaced. A
template that can be shown one mixture and not another one does not give the same. -/
def Unaware (p : Project) (settings : Settings) (directory : String)
    (es : List (String × Templates)) : Prop :=
  ∀ e ∈ es, ∀ s ∈ p.service? e.1, ∀ ss ∈ p.mixtures settings directory es,
    ∀ layer ∈ Layer.all, ∀ t ∈ e.2.layer layer,
      (Context.mk s ss directory e.2).render layer t =
      (Context.ofService p directory s e.2).render layer t

instance : Decidable (p.Unaware settings directory es) := by
  unfold Unaware
  infer_instance

theorem mem_versions {s t : Service} :
    t ∈ p.versions settings directory es s ↔
      t = s ∨ ∃ e ∈ es, e.1 = s.name ∧
        (Context.ofService p directory s e.2).controller settings = .ok t := by
  simp only [versions, List.mem_cons, List.mem_filterMap, Option.ite_none_right_eq_some,
    toOption_some_iff]

theorem mem_mixtures {ss : List Service} :
    ss ∈ p.mixtures settings directory es ↔
      ss.length = p.services.length ∧
        ∀ (i : Nat) s t, p.services[i]? = some s → ss[i]? = some t →
          t ∈ p.versions settings directory es s := by
  rw [mixtures, List.mem_sections, List.forall₂_map_right_iff, List.forall₂_iff_get]
  refine and_congr_right fun _ => ⟨fun h i s t hs ht => ?_, fun h i ht hs => ?_⟩
  · obtain ⟨hi, rfl⟩ := List.getElem?_eq_some_iff.1 hs
    obtain ⟨hi', rfl⟩ := List.getElem?_eq_some_iff.1 ht
    exact h i hi' hi
  · exact h i _ _ (List.getElem?_eq_getElem hs) (List.getElem?_eq_getElem ht)

theorem mixtures_mono {es' : List (String × Templates)} (h : es ⊆ es') {ss : List Service}
    (hss : ss ∈ p.mixtures settings directory es) : ss ∈ p.mixtures settings directory es' := by
  obtain ⟨hlength, hversions⟩ := mem_mixtures.1 hss
  refine mem_mixtures.2 ⟨hlength, fun i s t hs ht => mem_versions.2 ?_⟩
  rcases mem_versions.1 (hversions i s t hs ht) with heq | ⟨e, he, hname, ht⟩
  · exact .inl heq
  · exact .inr ⟨e, h he, hname, ht⟩

theorem Unaware.perm {es' : List (String × Templates)} (h : p.Unaware settings directory es)
    (hperm : es.Perm es') : p.Unaware settings directory es' :=
  fun e he s hs ss hss => h e (hperm.mem_iff.2 he) s hs ss (mixtures_mono hperm.symm.subset hss)

theorem exists_of_mem_mixture {ss : List Service} (hss : ss ∈ p.mixtures settings directory es)
    {t : Service} (ht : t ∈ ss) : ∃ s ∈ p.services, t ∈ p.versions settings directory es s := by
  obtain ⟨hlength, hversions⟩ := mem_mixtures.1 hss
  obtain ⟨i, ht⟩ := List.mem_iff_getElem?.1 ht
  obtain ⟨hi, -⟩ := List.getElem?_eq_some_iff.1 ht
  have hs : p.services[i]? = some _ := List.getElem?_eq_getElem (hlength ▸ hi)
  exact ⟨_, List.mem_of_getElem? hs, hversions i _ t hs ht⟩

theorem eq_services_of_mixture {ss : List Service} (hss : ss ∈ p.mixtures settings directory es)
    (h : ∀ s ∈ p.services, ∀ e ∈ es, e.1 = s.name → ∀ t,
      (Context.ofService p directory s e.2).controller settings ≠ .ok t) : ss = p.services := by
  obtain ⟨hlength, hversions⟩ := mem_mixtures.1 hss
  refine List.ext_getElem hlength fun i ht hs => ?_
  rcases mem_versions.1 (hversions i _ _ (List.getElem?_eq_getElem hs)
    (List.getElem?_eq_getElem ht)) with
    heq | ⟨e, he, hname, ht⟩
  · exact heq
  · exact absurd ht (h _ (List.getElem_mem hs) e he hname _)

/-- **Services as given can be shown exactly if they can be shown in any mixture**, for templates
that are unaware of others. -/
theorem presentable_mixture_iff (hp : p.Sound) (hunaware : p.Unaware settings directory es)
    {ss : List Service} (hss : ss ∈ p.mixtures settings directory es) :
    (∀ t ∈ ss, t.Presentable) ↔ ∀ s ∈ p.services, s.Presentable := by
  constructor
  · intro hshown
    by_cases h : ∀ s ∈ p.services, ∀ e ∈ es, e.1 = s.name → ∀ t,
        (Context.ofService p directory s e.2).controller settings ≠ .ok t
    · rw [← eq_services_of_mixture hss h]
      exact hshown
    · push Not at h
      obtain ⟨s, -, e, -, -, t, ht⟩ := h
      exact Context.presentable_of_controller ht
  · intro hshown t ht
    obtain ⟨s, hs, hversion⟩ := exists_of_mem_mixture hss ht
    rcases mem_versions.1 hversion with rfl | ⟨e, he, hname, hcontroller⟩
    · exact hshown t hs
    · by_cases hpod : e.2.pod = []
      · exact Context.presentable_of_default (c := Context.ofService p directory s e.2)
          (hp.services s hs).1 (hshown s hs) hpod hcontroller
      · -- A pod template of its own has been rendered, so it is rendered in this mixture, too.
        obtain ⟨u, hu⟩ := List.exists_mem_of_ne_nil _ hpod
        obtain ⟨i, hi⟩ := List.mem_iff_getElem?.1 hs
        have hfound : p.service? e.1 = some s := hname ▸ hp.listed.service?_eq hi
        have hrendered : u ∈ (Context.ofService p directory s e.2).rendered .pod := hu
        obtain ⟨fragment, hfragment⟩ := Context.renders_of_controller hcontroller hrendered
        rw [← hunaware e he s hfound ss hss .pod (by decide) u hu] at hfragment
        exact (Context.presents_of_render hfragment).services t ht

/-- **No controller depends on another one**, where templates are unaware of others. -/
theorem controller_of_mixture (hp : p.Sound) (hunaware : p.Unaware settings directory es)
    {e : String × Templates} (he : e ∈ es) {s : Service} (hs : p.service? e.1 = some s)
    {ss : List Service} (hss : ss ∈ p.mixtures settings directory es) :
    (Context.mk s ss directory e.2).controller settings =
      (Context.ofService p directory s e.2).controller settings := by
  have hdeclared (layer : Layer) : ∀ t ∈ e.2.layer layer,
      (Context.mk s ss directory e.2).render layer t =
      (Context.ofService p directory s e.2).render layer t :=
    hunaware e he s hs ss hss layer (by cases layer <;> decide)
  have hmem : s ∈ p.services := List.mem_of_find?_eq_some hs
  have hdefault := presentable_mixture_iff hp hunaware hss
  have halike : Context.Alike (Context.mk s ss directory e.2)
      (Context.ofService p directory s e.2) := by
    refine ⟨rfl, rfl, rfl, fun layer t ht => ?_⟩
    cases layer with
    | pod | component | copy => exact hdeclared _ t ht
    | transformer =>
      rw [Context.rendered, Controller.transformersOf] at ht
      split at ht
      · obtain rfl := List.mem_singleton.1 ht
        refine Context.render_default_congr rfl (hp.services s hmem).2 ?_
        constructor
        · exact fun h => ⟨h.service, hdefault.1 h.services, h.args⟩
        · exact fun h => ⟨h.service, hdefault.2 h.services, h.args⟩
      · exact hdeclared .transformer t ht
  exact halike.controller_eq settings

/-! ## Runs without an order -/

omit [Markup.Machine] in
theorem ReplacesOnly.getElem?_of_service? {changed : List String} (h : ReplacesOnly changed p q)
    (hp : p.Listed) {i : Nat} {s t : Service} (hs : p.services[i]? = some s)
    (ht : q.service? s.name = some t) :
    q.services[i]? = some t := by
  obtain ⟨j, hj, ht⟩ := service?_iff.1 ht
  have hi : p.index? s.name = some i := hp.index?_iff.2 (by simp [Project.names, hs])
  rw [h.index?_eq, hi] at hj
  obtain rfl := Option.some.inj hj
  exact ht

/-- Some services have been replaced by the controllers that they have in the project as given. -/
structure Replaced (p : Project) (settings : Settings) (directory : String)
    (es : List (String × Templates)) (q : Project) : Prop where
  rest : q = { p with services := q.services }
  others : ReplacesOnly (es.map Prod.fst) p q
  controllers : ∀ e ∈ es, ∃ s t, p.service? e.1 = some s ∧ q.service? e.1 = some t ∧
    (Context.ofService p directory s e.2).controller settings = .ok t

namespace Replaced

theorem perm {es' : List (String × Templates)} (h : p.Replaced settings directory es q)
    (hperm : es.Perm es') : p.Replaced settings directory es' q where
  rest := h.rest
  others := ⟨h.others.names, fun i s hs hname =>
    h.others.kept i s hs fun hmem => hname ((hperm.map Prod.fst).mem_iff.1 hmem)⟩
  controllers e he := h.controllers e (hperm.mem_iff.2 he)

theorem getElem?_cases (h : p.Replaced settings directory es q) (hp : p.Listed) {i : Nat}
    {s : Service} (hs : p.services[i]? = some s) :
    (∃ e ∈ es, e.1 = s.name ∧ ∃ t, q.services[i]? = some t ∧
        (Context.ofService p directory s e.2).controller settings = .ok t) ∨
      s.name ∉ es.map Prod.fst ∧ q.services[i]? = some s := by
  by_cases hname : s.name ∈ es.map Prod.fst
  · obtain ⟨e, he, hename⟩ := List.mem_map.1 hname
    obtain ⟨s', t, hs', ht, hcontroller⟩ := h.controllers e he
    rw [hename] at hs' ht
    obtain rfl : s = s' := Option.some.inj ((hp.service?_eq hs).symm.trans hs')
    exact .inl ⟨e, he, hename, t, h.others.getElem?_of_service? hp hs ht, hcontroller⟩
  · exact .inr ⟨hname, h.others.kept i s hs hname⟩

theorem length_eq (h : p.Replaced settings directory es q) :
    q.services.length = p.services.length := by
  simpa [names] using congrArg List.length h.others.names

theorem unique (h : p.Replaced settings directory es q) (hr : p.Replaced settings directory es r)
    (hp : p.Listed) : q = r := by
  have hservices : q.services = r.services := by
    refine List.ext_getElem? fun i => ?_
    rcases hs : p.services[i]? with _ | s
    · rw [List.getElem?_eq_none_iff] at hs
      rw [List.getElem?_eq_none (h.length_eq ▸ hs), List.getElem?_eq_none (hr.length_eq ▸ hs)]
    · rcases h.getElem?_cases hp hs with ⟨e, he, hname, t, ht, hcontroller⟩ | ⟨hname, hkept⟩
      · obtain ⟨s', t', hs', ht', hcontroller'⟩ := hr.controllers e he
        rw [hname] at hs' ht'
        obtain rfl : s = s' := Option.some.inj ((hp.service?_eq hs).symm.trans hs')
        obtain rfl : t = t' := Except.ok.inj (hcontroller.symm.trans hcontroller')
        rw [ht, hr.others.getElem?_of_service? hp hs ht']
      · rw [hkept, hr.others.kept i s hs hname]
  rw [h.rest, hr.rest, hservices]

theorem mixture (h : p.Replaced settings directory es r) (hp : p.Listed) :
    r.services ∈ p.mixtures settings directory es := by
  refine mem_mixtures.2 ⟨h.length_eq, fun i s t hs ht => mem_versions.2 ?_⟩
  rcases h.getElem?_cases hp hs with ⟨e, he, hname, t', ht', hcontroller⟩ | ⟨-, hkept⟩
  · obtain rfl : t = t' := Option.some.inj (ht.symm.trans ht')
    exact .inr ⟨e, he, hname, hcontroller⟩
  · exact .inl (Option.some.inj (ht.symm.trans hkept))

variable {done : List (String × Templates)} {e : String × Templates}

theorem controller_eq (h : p.Replaced settings directory done r) (hp : p.Sound)
    (hunaware : p.Unaware settings directory es) (hdone : done ⊆ es) (he : e ∈ es) {s : Service}
    (hs : p.service? e.1 = some s) :
    (Context.ofService r directory s e.2).controller settings =
      (Context.ofService p directory s e.2).controller settings :=
  controller_of_mixture hp hunaware he hs (mixtures_mono hdone (h.mixture hp.listed))

theorem step (h : p.Replaced settings directory done r) (hp : p.Sound)
    (hunaware : p.Unaware settings directory es) (hdone : done ⊆ es) (he : e ∈ es)
    (hnew : e.1 ∉ done.map Prod.fst) (hq : r.transform settings directory e.1 e.2 = .ok q) :
    p.Replaced settings directory (done ++ [e]) q := by
  have hothers := replacesOnly_of_transform hq
  obtain ⟨s, t, hs, ht, hcontroller⟩ := service?_of_transform hq
  rw [h.others.service?_eq hnew] at hs
  rw [h.controller_eq hp hunaware hdone he hs] at hcontroller
  refine ⟨?_, ?_, fun e' he' => ?_⟩
  · obtain ⟨i, _, _, -, -, -, -, rfl⟩ := transform_ok_iff.1 hq
    rw [h.rest]
  · rw [List.map_append]
    exact h.others.trans hothers
  · rcases List.mem_append.1 he' with he' | he'
    · obtain ⟨s', t', hs', ht', hcontroller'⟩ := h.controllers e' he'
      have hne : e'.1 ∉ [e.1] := by
        rw [List.mem_singleton]
        exact fun heq => hnew (heq ▸ List.mem_map_of_mem he')
      exact ⟨s', t', hs', (hothers.service?_eq hne).trans ht', hcontroller'⟩
    · obtain rfl := List.mem_singleton.1 he'
      exact ⟨s, t, hs, ht, hcontroller⟩

theorem progress (h : p.Replaced settings directory done r) (hp : p.Sound)
    (hunaware : p.Unaware settings directory es) (hdone : done ⊆ es) (he : e ∈ es)
    (hnew : e.1 ∉ done.map Prod.fst) {s t : Service} (hs : p.service? e.1 = some s)
    (ht : (Context.ofService p directory s e.2).controller settings = .ok t) :
    ∃ q, r.transform settings directory e.1 e.2 = .ok q := by
  have hfound : r.service? e.1 = some s := (h.others.service?_eq hnew).trans hs
  have hcontroller : (Context.ofService r directory s e.2).controller settings = .ok t :=
    (h.controller_eq hp hunaware hdone he hs).trans ht
  obtain ⟨q, hq, -⟩ := exists_transform_of_controller hfound hcontroller
  exact ⟨q, hq⟩

end Replaced

theorem replaced_of_transformAll (hp : p.Sound) (hunaware : p.Unaware settings directory es)
    {done : List (String × Templates)} (hdone : done ⊆ es) (hnames : (done.map Prod.fst).Nodup)
    (hq : p.transformAll settings directory done = .ok q) :
    p.Replaced settings directory done q := by
  induction done using List.reverseRecOn generalizing q with
  | nil =>
    obtain rfl : p = q := pure_ok_iff.1 hq
    exact ⟨rfl, ⟨rfl, fun _ _ hs _ => hs⟩, nofun⟩
  | append_singleton done e ih =>
    obtain ⟨r, hr, hq⟩ := transformAll_append_ok_iff.1 hq
    rw [transformAll_singleton] at hq
    obtain ⟨hbefore, he, hnames, hnew⟩ := concat_subset hdone hnames
    exact (ih hbefore hnames hr).step hp hunaware hbefore he hnew hq

theorem exists_transformAll (hp : p.Sound) (hunaware : p.Unaware settings directory es)
    {done : List (String × Templates)} (hdone : done ⊆ es) (hnames : (done.map Prod.fst).Nodup)
    (h : ∀ e ∈ done, ∃ s t, p.service? e.1 = some s ∧
      (Context.ofService p directory s e.2).controller settings = .ok t) :
    ∃ q, p.transformAll settings directory done = .ok q := by
  induction done using List.reverseRecOn with
  | nil => exact ⟨p, rfl⟩
  | append_singleton done e ih =>
    obtain ⟨hbefore, he, hnames, hnew⟩ := concat_subset hdone hnames
    rw [List.forall_mem_append, List.forall_mem_singleton] at h
    obtain ⟨h, s, t, hs, ht⟩ := h
    obtain ⟨r, hr⟩ := ih hbefore hnames h
    have hreplaced := replaced_of_transformAll hp hunaware hbefore hnames hr
    obtain ⟨q, hq⟩ := hreplaced.progress hp hunaware hbefore he hnew hs ht
    exact ⟨q, transformAll_append_ok_iff.2 ⟨r, hr, (transformAll_singleton _ _ _ _).trans hq⟩⟩

/-- **What a run comes to** does not depend on its order, where templates are unaware of other
services. -/
theorem transformAll_ok_iff (hp : p.Sound) (hunaware : p.Unaware settings directory es)
    (hnames : (es.map Prod.fst).Nodup) :
    p.transformAll settings directory es = .ok q ↔ p.Replaced settings directory es q := by
  refine ⟨replaced_of_transformAll hp hunaware (List.Subset.refl _) hnames, fun h => ?_⟩
  obtain ⟨r, hr⟩ := exists_transformAll hp hunaware (List.Subset.refl _) hnames fun e he => by
    obtain ⟨s, t, hs, -, ht⟩ := h.controllers e he
    exact ⟨s, t, hs, ht⟩
  rw [h.unique (replaced_of_transformAll hp hunaware (List.Subset.refl _) hnames hr) hp.listed]
  exact hr

theorem transformAll_perm (hp : p.Sound) (hunaware : p.Unaware settings directory es)
    (hnames : (es.map Prod.fst).Nodup) {es' : List (String × Templates)} (hperm : es.Perm es')
    (q : Project) : p.transformAll settings directory es = .ok q ↔
      p.transformAll settings directory es' = .ok q := by
  rw [transformAll_ok_iff hp hunaware hnames,
    transformAll_ok_iff hp (hunaware.perm hperm) ((hperm.map Prod.fst).nodup_iff.1 hnames)]
  exact ⟨fun h => h.perm hperm, fun h => h.perm hperm.symm⟩

/-- **Services in any order.** In a project that has been read, two services whose templates are
unaware of others are replaced in the one order exactly if they are in the other order, and give the
same project. So a session of such templates, on the project or on the project without an extension,
gives the same in whatever order its services come. -/
theorem transformAll_order {text : String} {p : Project} (hp : ofText text = .ok p) :
    (∀ (settings : Settings) (directory a b : String) (Ta Tb : Templates), a ≠ b →
        p.Unaware settings directory [(a, Ta), (b, Tb)] →
        ∀ q, (p.transform settings directory a Ta >>= fun r =>
          r.transform settings directory b Tb) = .ok q ↔
          (p.transform settings directory b Tb >>= fun r =>
            r.transform settings directory a Ta) = .ok q) ∧
      ∀ σ : Session, (σ.project = p ∨ ∃ key, σ.project = Session.eraseExtension key p) →
        σ.project.Unaware σ.settings σ.directory σ.configurations.entries →
        ∀ es, es.Perm σ.configurations.entries →
          ∀ q, σ.transformed = .ok q ↔
          σ.project.transformAll σ.settings σ.directory es = .ok q := by
  have hsound : p.Sound := sound_of_read (Document.read_ok_iff.1 hp).1
  constructor
  · intro settings directory a b Ta Tb hne hunaware q
    have hnames : ([(a, Ta), (b, Tb)].map Prod.fst).Nodup := by simpa using hne
    have hpair (a b : String) (Ta Tb : Templates) :
        p.transformAll settings directory [(a, Ta), (b, Tb)] =
          p.transform settings directory a Ta >>= fun r => r.transform settings directory b Tb := by
      simp [transformAll]
    rw [← hpair, ← hpair]
    exact transformAll_perm hsound hunaware hnames (.swap _ _ _) q
  · intro σ hσ hunaware es hes q
    have hproject : σ.project.Sound := by
      rcases hσ with hσ | ⟨key, hσ⟩
      · exact hσ ▸ hsound
      · exact hσ ▸ hsound.eraseExtension key
    exact transformAll_perm hproject hunaware σ.configurations.keys_nodup hes.symm q

end

/-- Two services in both orders, the one with a template that reads the service and the working
directory, the other one without pod templates. -/
theorem transformAll_order_web :
    let text :=
      "services: \x7bapp: \x7bimage: a\x7d, db: \x7bimage: b\x7d, web: \x7bimage: c\x7d\x7d"
    let reading : Templates :=
      { Templates.empty with
        pod := [⟨"pod",
          "a: \x7buser: '\x7b\x7b service.image \x7d\x7d\x7b\x7b project.working_dir \x7d\x7d'\x7d",
          []⟩] }
    let plain : Templates := { Templates.empty with copy := [⟨"none", "", []⟩] }
    ∃ p q : Project, ofText text = .ok p ∧
      p.Unaware .standard "/work" [("app", reading), ("db", plain)] ∧
      (p.transform .standard "/work" "app" reading >>= fun r =>
        r.transform .standard "/work" "db" plain) = .ok q ∧
      (p.transform .standard "/work" "db" plain >>= fun r =>
        r.transform .standard "/work" "app" reading) = .ok q ∧
      p.transformAll .standard "/work" [("db", plain), ("app", reading)] = .ok q ∧
      (q.service? "app").map (fun s => (s.value .user : Option String)) = some (some "a/work") := by
  intro text reading plain
  have hrun : (ofText text).toOption.any (fun p =>
      decide (p.Unaware .standard "/work" [("app", reading), ("db", plain)]) &&
        (p.transformAll .standard "/work" [("app", reading), ("db", plain)]).toOption.any fun q =>
          (q.service? "app").map (fun s => (s.value .user : Option String)) =
            some (some "a/work")) = true := by
    decide +kernel
  obtain ⟨p, hp⟩ : ∃ p, ofText text = .ok p := exists_ok_of_isOk (by decide +kernel)
  rw [hp] at hrun
  simp only [Except.toOption, Option.any_some, Bool.and_eq_true, decide_eq_true_eq] at hrun
  obtain ⟨hunaware, hrun⟩ := hrun
  obtain ⟨q, hq, huser⟩ : ∃ q,
    p.transformAll .standard "/work" [("app", reading), ("db", plain)] = .ok q ∧
      (q.service? "app").map (fun s => (s.value .user : Option String)) = some (some "a/work") := by
    cases h : p.transformAll .standard "/work" [("app", reading), ("db", plain)] with
    | error f => simp [h] at hrun
    | ok q => exact ⟨q, rfl, by simpa [h] using hrun⟩
  have hfirst : (p.transform .standard "/work" "app" reading >>= fun r =>
      r.transform .standard "/work" "db" plain) = .ok q := by
    simpa [transformAll] using hq
  let d : Dict Templates := .ofList [("app", reading), ("db", plain)]
  have hd : d.entries = [("app", reading), ("db", plain)] := by decide +kernel
  have hsecond := ((transformAll_order hp).1 _ _ _ _ _ _ (by decide) hunaware q).1 hfirst
  have hsession := ((transformAll_order hp).2 ⟨p, "/work", d, .standard⟩ (.inl rfl) (hd ▸ hunaware)
    [("db", plain), ("app", reading)] (hd ▸ .swap _ _ _) q).1 (by
      change p.transformAll .standard "/work" d.entries = .ok q
      rw [hd]
      exact hq)
  exact ⟨p, q, hp, hunaware, hfirst, hsecond, hsession, huser⟩

end Project

end ComposePods

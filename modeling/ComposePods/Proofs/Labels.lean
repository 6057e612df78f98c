import ComposePods.Proofs.Entries
import ComposePods.Proofs.Transform
import Mathlib.Data.List.Nodup

/-!
# Labels of a controller

The main component, the side components and the copies are attached to a controller as labels, one
after the other, and a label that is already there ends the run. So the labels of a controller are
those of its own definition together with one label for every output, and no label is lost.

* `Stages`, `Context.Gives`: what the four layers of a service give;
* `Stages.added`, `Stages.groups`: the labels in the order in which they are attached, and the four
  groups of label keys;
* `attachAll_ok_iff`, `attachAll_error_iff`: the two ends of a run of `Controller.attach`;
* `Context.controller_ok_iff`, `Stages.get?_labels`: when there is a controller, and its labels;
* **`Project.transform_labels`**: the labels of the service that a transformation puts into a
  project.
-/

namespace ComposePods

/-! ## Outputs of the layers -/

/-- What the four layers of a service give. -/
structure Stages where
  controller : Service
  main : String × String
  components : Dict String
  copies : Dict String

namespace Stages

/-- The labels of the components and copies, in the order in which they are attached. -/
def added (o : Stages) (settings : Settings) : List (String × String) :=
  (settings.componentLabel o.main.1, o.main.2) ::
    ((o.components.entries.map fun e => (settings.componentLabel e.1, e.2)) ++
      o.copies.entries.map fun e => (settings.copyLabel e.1, e.2))

/-- The keys of the labels: those of the controller's own definition, that of the main component,
those of the side components and those of the copies. -/
def groups (o : Stages) (settings : Settings) : List (List String) :=
  [o.controller.labels.keys, [settings.componentLabel o.main.1],
    o.components.keys.map settings.componentLabel, o.copies.keys.map settings.copyLabel]

theorem flatten_groups (o : Stages) (settings : Settings) :
    (o.groups settings).flatten = o.controller.labels.keys ++ (o.added settings).map Prod.fst := by
  simp [groups, added, Dict.keys, Function.comp_def]

end Stages

/-- The four layers of a service succeed, each by itself. -/
structure Context.Gives [Markup.Machine] (c : Context) (settings : Settings) (o : Stages) :
    Prop where
  pod : c.podStage settings = .ok o.controller
  main : c.mainStage = .ok o.main
  components : c.componentStage = .ok o.components
  copies : c.copyStage = .ok o.copies

/-! ## Prefixes -/

theorem Settings.componentLabel_injective (settings : Settings) :
    Function.Injective settings.componentLabel := fun _ _ h => (String.append_right_inj _).1 h

theorem Settings.copyLabel_injective (settings : Settings) :
    Function.Injective settings.copyLabel := fun _ _ h => (String.append_right_inj _).1 h

theorem Stages.nodup_of_mem_groups {o : Stages} {settings : Settings} :
    ∀ g ∈ o.groups settings, g.Nodup := by
  intro g hg
  simp only [groups, List.mem_cons, List.not_mem_nil, or_false] at hg
  rcases hg with rfl | rfl | rfl | rfl
  · exact Dict.keys_nodup _
  · exact List.nodup_singleton _
  · exact (Dict.keys_nodup _).map settings.componentLabel_injective
  · exact (Dict.keys_nodup _).map settings.copyLabel_injective

/-- **No key comes twice exactly if the groups are disjoint.** -/
theorem Stages.nodup_iff_disjoint (o : Stages) (settings : Settings) :
    (o.controller.labels.keys ++ (o.added settings).map Prod.fst).Nodup ↔
      (o.groups settings).Pairwise List.Disjoint := by
  rw [← flatten_groups, List.nodup_flatten]
  exact and_iff_right nodup_of_mem_groups

/-! ## Attaching labels -/

section Attach

open Controller

variable {service : String}

/-- The service with other labels. -/
def Service.withLabels (s : Service) (d : Dict String) : Service := s.set .labels d

@[simp] theorem Service.labels_withLabels (s : Service) (d : Dict String) :
    (s.withLabels d).labels = d :=
  set_self s .labels d

@[simp] theorem Service.withLabels_labels (s : Service) : s.withLabels s.labels = s := by
  obtain ⟨name, value, extensions⟩ := s
  simp only [withLabels, set, Service.mk.injEq, true_and, and_true]
  funext q
  by_cases h : q = .labels
  · subst h
    simp
  · simp [h]

@[simp] theorem Service.withLabels_withLabels (s : Service) (d d' : Dict String) :
    (s.withLabels d).withLabels d' = s.withLabels d' := by
  simp only [withLabels, set, Service.mk.injEq, true_and, and_true]
  funext q
  by_cases h : q = .labels <;> simp [h]

theorem attach_ok_iff {s t : Service} {l : String × String} :
    attach service s l = .ok t ↔
      l.1 ∉ s.labels.keys ∧ t = s.withLabels (s.labels.insert l.1 l.2) := by
  unfold attach
  rw [← Dict.contains_iff]
  split <;> simp [*, eq_comm, Service.withLabels]

theorem attach_error_iff {s : Service} {l : String × String} {e : PodError} :
    attach service s l = .error e ↔ l.1 ∈ s.labels.keys ∧ e = .labelCollision service l.1 := by
  unfold attach
  rw [← Dict.contains_iff]
  split <;> simp [*, eq_comm]

theorem nodup_attach_iff {d : Dict String} {l : String × String} {ls : List (String × String)}
    (hl : l.1 ∉ d.keys) :
    ((d.insert l.1 l.2).keys ++ ls.map Prod.fst).Nodup ↔
      (d.keys ++ (l :: ls).map Prod.fst).Nodup := by
  have hkeys : (d.insert l.1 l.2).keys.Perm (l.1 :: d.keys) :=
    (Dict.perm_insert l.2 hl).map Prod.fst
  exact ((hkeys.append_right _).trans List.perm_middle.symm).nodup_iff

/-- **Labels can be attached exactly if no key comes twice.** -/
theorem attachAll_ok_iff {ls : List (String × String)} {s t : Service} :
    ls.foldlM (attach service) s = .ok t ↔
      (s.labels.keys ++ ls.map Prod.fst).Nodup ∧ t = s.withLabels (s.labels.insertAll ls) := by
  induction ls generalizing s with
  | nil =>
    have hs : s.withLabels (s.labels.insertAll []) = s := s.withLabels_labels
    rw [List.foldlM_nil, pure_ok_iff, hs]
    simp [Dict.keys_nodup, eq_comm]
  | cons l ls ih =>
    rw [List.foldlM_cons, bind_ok_iff]
    constructor
    · rintro ⟨u, hu, h⟩
      obtain ⟨hl, rfl⟩ := attach_ok_iff.1 hu
      obtain ⟨hnd, rfl⟩ := ih.1 h
      rw [Service.labels_withLabels] at hnd
      refine ⟨(nodup_attach_iff hl).1 hnd, ?_⟩
      rw [Service.withLabels_withLabels, Service.labels_withLabels, Dict.insertAll_cons]
    · rintro ⟨hnd, rfl⟩
      have hl : l.1 ∉ s.labels.keys := fun hl =>
        (List.nodup_append.1 hnd).2.2 _ hl _ List.mem_cons_self rfl
      refine ⟨_, attach_ok_iff.2 ⟨hl, rfl⟩, ih.2 ⟨?_, ?_⟩⟩
      · rw [Service.labels_withLabels]
        exact (nodup_attach_iff hl).2 hnd
      · rw [Service.withLabels_withLabels, Service.labels_withLabels, Dict.insertAll_cons]

/-- **The first label that is already there ends the run.** -/
theorem attachAll_error_iff {ls : List (String × String)} {s : Service} {e : PodError} :
    ls.foldlM (attach service) s = .error e ↔
      ∃ before l after, ls = before ++ l :: after ∧ e = .labelCollision service l.1 ∧
        (s.labels.keys ++ before.map Prod.fst).Nodup ∧
        l.1 ∈ s.labels.keys ++ before.map Prod.fst := by
  induction ls generalizing s with
  | nil => simp [pure, Except.pure]
  | cons l ls ih =>
    rw [List.foldlM_cons]
    constructor
    · intro h
      rcases hl : attach service s l with e' | t
      · obtain ⟨hmem, rfl⟩ := attach_error_iff.1 hl
        rw [hl] at h
        cases h
        exact ⟨[], l, ls, rfl, rfl, by simp [Dict.keys_nodup], by simpa using hmem⟩
      · obtain ⟨hnew, rfl⟩ := attach_ok_iff.1 hl
        rw [hl] at h
        obtain ⟨before, k, after, rfl, rfl, hnd, hk⟩ := ih.1 h
        rw [Service.labels_withLabels] at hnd hk
        refine ⟨l :: before, k, after, rfl, rfl, (nodup_attach_iff hnew).1 hnd, ?_⟩
        simp only [List.mem_append, Dict.mem_keys_insert, List.map_cons, List.mem_cons] at hk ⊢
        tauto
    · rintro ⟨before, k, after, hls, rfl, hnd, hk⟩
      cases before with
      | nil =>
        obtain ⟨rfl, rfl⟩ := List.cons.inj hls
        rw [attach_error_iff.2 ⟨by simpa using hk, rfl⟩]
        rfl
      | cons l' before =>
        obtain ⟨rfl, rfl⟩ := List.cons.inj hls
        have hnew : l.1 ∉ s.labels.keys := fun hl =>
          (List.nodup_append.1 hnd).2.2 _ hl _ List.mem_cons_self rfl
        rw [attach_ok_iff.2 ⟨hnew, rfl⟩]
        refine ih.2 ⟨before, k, after, rfl, rfl, ?_, ?_⟩
        · rw [Service.labels_withLabels]
          exact (nodup_attach_iff hnew).2 hnd
        · rw [Service.labels_withLabels]
          simp only [List.mem_append, Dict.mem_keys_insert, List.map_cons, List.mem_cons] at hk ⊢
          tauto

end Attach

/-! ## Controllers -/

theorem Context.attachAll_append (c : Context) (s : Service) (ls ls' : List (String × String)) :
    c.attachAll s (ls ++ ls') = c.attachAll s ls >>= fun t => c.attachAll t ls' := by
  unfold attachAll
  rw [List.foldlM_append]
  cases ls.foldlM (Controller.attach c.service.name) s <;> rfl

theorem Context.controller_of_gives [Markup.Machine] {c : Context} {settings : Settings}
    {o : Stages} (h : c.Gives settings o) :
    c.controller settings = c.attachAll o.controller (o.added settings) := by
  have hadded : o.added settings =
      [(settings.componentLabel o.main.1, o.main.2)] ++
        ((o.components.entries.map fun e => (settings.componentLabel e.1, e.2)) ++
          o.copies.entries.map fun e => (settings.copyLabel e.1, e.2)) := rfl
  rw [hadded, attachAll_append, controller, h.pod, h.main]
  change c.attachAll o.controller _ >>= _ = _
  congr 1
  funext t
  rw [attachAll_append, h.components]
  change c.attachAll t _ >>= _ = _
  congr 1
  funext u
  rw [h.copies]
  rfl

/-- **A controller is made** exactly if all layers succeed and no two of its labels have the same
key. -/
theorem Context.controller_ok_iff [Markup.Machine] {c : Context} {settings : Settings}
    {t : Service} : c.controller settings = .ok t ↔
      ∃ o, c.Gives settings o ∧
      (o.controller.labels.keys ++ (o.added settings).map Prod.fst).Nodup ∧
        t = o.controller.withLabels (o.controller.labels.insertAll (o.added settings)) := by
  constructor
  · intro h
    have hstages := h
    simp only [controller, bind_ok_iff] at hstages
    obtain ⟨s, hs, main, hmain, -, -, components, hcomponents, -, -, copies, hcopies, -⟩ := hstages
    have ho : c.Gives settings ⟨s, main, components, copies⟩ := ⟨hs, hmain, hcomponents, hcopies⟩
    rw [controller_of_gives ho, attachAll, report, mapError_ok_iff] at h
    exact ⟨_, ho, attachAll_ok_iff.1 h⟩
  · rintro ⟨o, ho, h⟩
    rw [controller_of_gives ho, attachAll, report, mapError_ok_iff]
    exact attachAll_ok_iff.2 h

theorem Stages.get?_labels {o : Stages} {settings : Settings} {l : String × String}
    (hnd : (o.controller.labels.keys ++ (o.added settings).map Prod.fst).Nodup)
    (hl : l ∈ o.controller.labels.entries ++ o.added settings) :
    (o.controller.withLabels (o.controller.labels.insertAll (o.added settings))).labels.get? l.1 =
      some l.2 := by
  rw [Service.labels_withLabels, ← Dict.mem_entries_iff]
  exact (Dict.perm_insertAll hnd).mem_iff.2 hl

/-- **The main component is a label** of every controller that is made, under its own name. -/
theorem Context.get?_main [Markup.Machine] {c : Context} {settings : Settings}
    {main : String × String} {t : Service} (hmain : c.mainStage = .ok main)
    (ht : c.controller settings = .ok t) :
    t.labels.get? (settings.componentLabel main.1) = some main.2 := by
  obtain ⟨o, ho, hnd, rfl⟩ := controller_ok_iff.1 ht
  obtain rfl : main = o.main := Except.ok.inj (hmain.symm.trans ho.main)
  exact Stages.get?_labels hnd (List.mem_append_right _ List.mem_cons_self)

/-- **The labels of a controller.** The service that a transformation puts into a project has the
labels of its own definition and one for every output of the layers; there is such a service exactly
if no two of these labels have the same key, and else the first key that is already there is
told. -/
theorem Project.transform_labels [Markup.Machine] {p : Project} {settings : Settings}
    {directory service : String} {templates : Templates} {i : Nat} {s : Service} {o : Stages}
    (hi : p.index? service = some i) (hs : p.services[i]? = some s)
    (ho : (Context.ofService p directory s templates).Gives settings o) :
    ((∃ q, p.transform settings directory service templates = .ok q) ↔
        (o.groups settings).Pairwise List.Disjoint) ∧
      (∀ q, p.transform settings directory service templates = .ok q →
        ∃ t, q = { p with services := p.services.set i t } ∧
          t.labels.entries.Perm (o.controller.labels.entries ++ o.added settings) ∧
          t.name = o.controller.name ∧ t.extensions = o.controller.extensions ∧
          ∀ k, k ≠ .labels → t.value k = o.controller.value k) ∧
      ∀ f, p.transform settings directory service templates = .error f →
        ∃ before l after, o.added settings = before ++ l :: after ∧
          f = .error (.labelCollision service l.1) ∧
          (o.controller.labels.keys ++ before.map Prod.fst).Nodup ∧
          l.1 ∈ o.controller.labels.keys ++ before.map Prod.fst := by
  obtain ⟨s', hs', hname⟩ := p.index?_spec hi
  obtain rfl : s' = s := Option.some.inj (hs'.symm.trans hs)
  have hrun := transform_of_found settings directory templates hi hs
  rw [Context.controller_of_gives ho] at hrun
  have hservice : (Context.ofService p directory s' templates).service.name = service := hname
  refine ⟨?_, fun q hq => ?_, fun f hf => ?_⟩
  · rw [← o.nodup_iff_disjoint settings]
    constructor
    · rintro ⟨q, hq⟩
      rw [hrun, bind_ok_iff] at hq
      obtain ⟨t, ht, -⟩ := hq
      exact (attachAll_ok_iff.1 (mapError_ok_iff.1 ht)).1
    · intro hnd
      refine ⟨_, hrun.trans
        (bind_ok_iff.2 ⟨_, mapError_ok_iff.2 (attachAll_ok_iff.2 ⟨hnd, rfl⟩), rfl⟩)⟩
  · rw [hrun, bind_ok_iff] at hq
    obtain ⟨t, ht, hq⟩ := hq
    obtain ⟨hnd, rfl⟩ := attachAll_ok_iff.1 (mapError_ok_iff.1 ht)
    refine ⟨_, (Except.ok.inj hq).symm, ?_, rfl, rfl, fun k hk => Service.set_of_ne _ _ hk⟩
    rw [Service.labels_withLabels]
    exact Dict.perm_insertAll hnd
  · rw [hrun] at hf
    rcases ht : (Context.ofService p directory s' templates).attachAll o.controller
      (o.added settings)
      with f' | t
    · rw [ht] at hf
      cases hf
      obtain ⟨e, he, rfl⟩ := mapError_error_iff.1 ht
      obtain ⟨before, l, after, hadded, rfl, hnd, hl⟩ := attachAll_error_iff.1 he
      rw [hservice]
      exact ⟨before, l, after, hadded, rfl, hnd, hl⟩
    · rw [ht] at hf
      cases hf

/-- One side component and one list of copies: the three labels have different keys. -/
theorem Project.transform_labels_web :
    let p := { Project.empty with services := [Service.empty "web"] }
    let templates : Templates :=
      { Templates.empty with
        component := [⟨"side", "log: ", []⟩]
        copy := [⟨"files", "web: /a:/b", []⟩] }
    ∃ o, (Context.ofService p "/work" (Service.empty "web") templates).Gives .standard o ∧
      ((∃ q, p.transform .standard "/work" "web" templates = .ok q) ↔
        (o.groups .standard).Pairwise List.Disjoint) := by
  intro p templates
  let c := Context.ofService p "/work" (Service.empty "web") templates
  obtain ⟨P, hP⟩ : ∃ P, c.podStage .standard = .ok P := exists_ok_of_isOk (by decide +kernel)
  obtain ⟨m, hm⟩ : ∃ m, c.mainStage = .ok m := exists_ok_of_isOk (by decide +kernel)
  obtain ⟨C, hC⟩ : ∃ C, c.componentStage = .ok C := exists_ok_of_isOk (by decide +kernel)
  obtain ⟨K, hK⟩ : ∃ K, c.copyStage = .ok K := exists_ok_of_isOk (by decide +kernel)
  have ho : c.Gives .standard ⟨P, m, C, K⟩ := ⟨hP, hm, hC, hK⟩
  have hi : p.index? "web" = some 0 := by decide +kernel
  exact ⟨_, ho, (transform_labels hi rfl ho).1⟩

end ComposePods

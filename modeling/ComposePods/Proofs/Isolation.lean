import ComposePods.Proofs.Entries
import ComposePods.Proofs.Run

/-!
# What one service sees of the others

A controller depends on the other services only through what its templates give. In a session the
services are replaced one after the other, so the templates of a service see the controllers of the
services that come before it and the definitions of all others as they were given.

* `Context.Alike`, **`Alike.controller_eq`**: contexts whose templates give the same have the same
  controller;
* `Context.AlikeIn`: the same for one layer;
* `Project.transformAll`, `Project.replacesOnly_of_transformAll`: what a run keeps;
* `Session.restrict`: the session with some of its templates only;
* `Session.seen`: the services that the templates of a service see;
* **`Session.transformed_entry`**: the entry of a service in the transformed project.
-/

namespace ComposePods

/-! ## Contexts that look alike -/

namespace Context

open Controller

/-- The templates that are rendered in a layer. -/
def rendered (c : Context) : Layer → List Template
  | .transformer => transformersOf c.templates
  | layer => c.templates.layer layer

variable [Markup.Machine]

/-- The same service, directory and templates, and every template gives the same. -/
structure Alike (c d : Context) : Prop where
  service : c.service = d.service
  directory : c.directory = d.directory
  templates : c.templates = d.templates
  render : ∀ layer, ∀ t ∈ c.rendered layer, c.render layer t = d.render layer t

/-- The same service and directory, and the same templates in a layer, every one of which gives the
same. -/
structure AlikeIn (layer : Layer) (c d : Context) : Prop where
  service : c.service = d.service
  directory : c.directory = d.directory
  rendered : c.rendered layer = d.rendered layer
  render : ∀ t ∈ c.rendered layer, c.render layer t = d.render layer t

namespace AlikeIn

variable {c d : Context} {layer : Layer}

theorem renderRooted_eq (h : AlikeIn layer c d) :
    (c.rendered layer).mapM (c.renderRooted layer) =
    (d.rendered layer).mapM (d.renderRooted layer) := by
  rw [← h.rendered]
  refine mapM_congr fun t ht => ?_
  rw [Context.renderRooted, Context.renderRooted, h.render t ht, h.service]

theorem definitions_eq (h : AlikeIn layer c d) : c.definitions = d.definitions := by
  funext layer tree
  rw [definitions, definitions, h.service, h.directory]

theorem podStage_eq (h : AlikeIn .pod c d) (settings : Settings) :
    c.podStage settings = d.podStage settings := by
  have hfragments := h.renderRooted_eq
  change c.templates.pod.mapM _ = d.templates.pod.mapM _ at hfragments
  rw [podStage, podStage, hfragments, h.definitions_eq, Context.definition,
    Context.definition, h.service]

theorem mainStage_eq (h : AlikeIn .transformer c d) : c.mainStage = d.mainStage := by
  have hfragments := h.renderRooted_eq
  change (transformersOf c.templates).mapM _ = (transformersOf d.templates).mapM _ at hfragments
  rw [mainStage, mainStage, hfragments, h.definitions_eq, Context.definition,
    Context.definition, h.service]

theorem componentStage_eq (h : AlikeIn .component c d) : c.componentStage = d.componentStage := by
  have hfragments : c.templates.component.mapM (c.render .component) =
      d.templates.component.mapM (d.render .component) := by
    rw [← show c.templates.component = d.templates.component from h.rendered]
    exact mapM_congr h.render
  have htexts : c.componentTexts = d.componentTexts := by
    funext fragments
    rw [componentTexts, componentTexts, h.definitions_eq]
  rw [componentStage, componentStage, hfragments, htexts]

theorem copyStage_eq (h : AlikeIn .copy c d) : c.copyStage = d.copyStage := by
  have hfragments : c.templates.copy.mapM c.renderCopies =
      d.templates.copy.mapM d.renderCopies := by
    rw [← show c.templates.copy = d.templates.copy from h.rendered]
    refine mapM_congr fun t ht => ?_
    rw [renderCopies, renderCopies, h.render t ht, h.service]
  have htexts : c.copyTexts = d.copyTexts := by
    funext fragments
    have hentry : c.copyEntry = d.copyEntry := by
      funext e
      rw [copyEntry, copyEntry, h.service]
    rw [copyTexts, copyTexts, hentry]
  rw [copyStage, copyStage, hfragments, htexts]

end AlikeIn

namespace Alike

variable {c d : Context}

theorem alikeIn (h : Alike c d) (layer : Layer) : AlikeIn layer c d where
  service := h.service
  directory := h.directory
  rendered := by cases layer <;> simp only [rendered, h.templates]
  render := h.render layer

/-- **Contexts whose templates give the same** have the same controller, or fail alike. -/
theorem controller_eq (h : Alike c d) (settings : Settings) :
    c.controller settings = d.controller settings := by
  have hattach : c.attachAll = d.attachAll := by
    funext s labels
    rw [attachAll, attachAll, h.service]
  rw [controller, controller, (h.alikeIn .pod).podStage_eq, (h.alikeIn .transformer).mainStage_eq,
    (h.alikeIn .component).componentStage_eq, (h.alikeIn .copy).copyStage_eq, hattach]

end Alike

end Context

/-! ## Services that stay -/

namespace Project

variable {p q : Project} {settings : Settings} {directory : String}

/-- The names are those of before, and only services of some names have been replaced. -/
structure ReplacesOnly (changed : List String) (p q : Project) : Prop where
  names : q.names = p.names
  kept : ∀ (i : Nat) (s : Service), p.services[i]? = some s → s.name ∉ changed →
    q.services[i]? = some s

theorem ReplacesOnly.trans {changed changed' : List String} {r : Project}
    (h : ReplacesOnly changed p q) (h' : ReplacesOnly changed' q r) :
    ReplacesOnly (changed ++ changed') p r where
  names := h'.names.trans h.names
  kept i s hs hname := by
    rw [List.mem_append, not_or] at hname
    exact h'.kept i s (h.kept i s hs hname.1) hname.2

theorem service?_iff {name : String} {s : Service} :
    p.service? name = some s ↔ ∃ i, p.index? name = some i ∧ p.services[i]? = some s := by
  constructor
  · intro hs
    obtain ⟨hname, i, hi, rfl, hearlier⟩ := List.find?_eq_some_iff_getElem.1 hs
    refine ⟨i, List.findIdx?_eq_some_iff_getElem.2 ⟨hi, hname, fun j hj => ?_⟩,
      List.getElem?_eq_getElem hi⟩
    simpa using hearlier j hj
  · rintro ⟨i, hi, hs⟩
    obtain ⟨hlt, hname, hearlier⟩ := List.findIdx?_eq_some_iff_getElem.1 hi
    obtain ⟨_, rfl⟩ := List.getElem?_eq_some_iff.1 hs
    refine List.find?_eq_some_iff_getElem.2 ⟨hname, i, hlt, rfl, fun j hj => ?_⟩
    simpa using hearlier j hj

namespace ReplacesOnly

variable {changed : List String}

theorem index?_eq (h : ReplacesOnly changed p q) (name : String) :
    q.index? name = p.index? name := by
  have hindex (p : Project) : p.index? name = p.names.findIdx? (· == name) := by
    rw [index?, Project.names, List.findIdx?_map]
    rfl
  rw [hindex, hindex, h.names]

theorem service?_eq (h : ReplacesOnly changed p q) {name : String} (hname : name ∉ changed) :
    q.service? name = p.service? name := by
  refine Option.ext fun s => ?_
  rw [service?_iff, service?_iff, h.index?_eq]
  refine exists_congr fun i => and_congr_right fun hi => ?_
  obtain ⟨s', hs', rfl⟩ := index?_spec hi
  rw [hs', h.kept i s' hs' hname]

end ReplacesOnly

/-! ## Runs over some services -/

variable [Markup.Machine]

/-- The services of a list are replaced by their controllers, one after the other. -/
def transformAll (p : Project) (settings : Settings) (directory : String)
    (es : List (String × Templates)) : Except Failure Project :=
  es.foldlM (fun p e => p.transform settings directory e.1 e.2) p

theorem transformAll_append_ok_iff {es es' : List (String × Templates)} :
    p.transformAll settings directory (es ++ es') = .ok q ↔
      ∃ r, p.transformAll settings directory es = .ok r ∧
      r.transformAll settings directory es' = .ok q := by
  rw [transformAll, List.foldlM_append, bind_ok_iff]
  rfl

theorem transformAll_singleton (p : Project) (settings : Settings) (directory : String)
    (e : String × Templates) :
    p.transformAll settings directory [e] = p.transform settings directory e.1 e.2 := by
  rw [transformAll, List.foldlM_cons]
  exact bind_pure _

theorem replacesOnly_of_transform {name : String} {templates : Templates}
    (h : p.transform settings directory name templates = .ok q) : ReplacesOnly [name] p q := by
  obtain ⟨i, s, t, -, hs, hname, ht, rfl⟩ := transform_ok_iff.1 h
  refine ⟨names_set hs (Context.name_of_controller ht), fun j u hu hother => ?_⟩
  have hne : i ≠ j := by
    rintro rfl
    rw [Option.some.inj (hu.symm.trans hs), hname] at hother
    exact hother List.mem_cons_self
  rw [← hu]
  exact List.getElem?_set_ne hne

/-- **What a run keeps**: the names, and all services that it is not about. -/
theorem replacesOnly_of_transformAll {es : List (String × Templates)}
    (h : p.transformAll settings directory es = .ok q) : ReplacesOnly (es.map Prod.fst) p q := by
  induction es generalizing p with
  | nil =>
    obtain rfl : p = q := pure_ok_iff.1 h
    exact ⟨rfl, fun _ _ hs _ => hs⟩
  | cons e es ih =>
    rw [← List.singleton_append, transformAll_append_ok_iff] at h
    obtain ⟨r, hr, hq⟩ := h
    rw [transformAll_singleton] at hr
    exact (replacesOnly_of_transform hr).trans (ih hq)

theorem service?_of_transform {name : String} {templates : Templates}
    (h : p.transform settings directory name templates = .ok q) :
    ∃ s t, p.service? name = some s ∧ q.service? name = some t ∧
      (Context.ofService p directory s templates).controller settings = .ok t := by
  have hindex := (replacesOnly_of_transform h).index?_eq name
  obtain ⟨i, s, t, hi, hs, -, ht, rfl⟩ := transform_ok_iff.1 h
  refine ⟨s, t, service?_iff.2 ⟨i, hi, hs⟩, service?_iff.2 ⟨i, hindex.trans hi, ?_⟩, ht⟩
  exact List.getElem?_set_self (List.getElem?_eq_some_iff.1 hs).1

theorem exists_transform_of_controller {name : String} {templates : Templates} {s t : Service}
    (hs : p.service? name = some s)
    (ht : (Context.ofService p directory s templates).controller settings = .ok t) :
    ∃ q, p.transform settings directory name templates = .ok q ∧ q.service? name = some t := by
  obtain ⟨i, hi, hget⟩ := service?_iff.1 hs
  have hrun := (transform_of_found settings directory templates hi hget).trans
    (congrArg (· >>= _) ht)
  obtain ⟨s', t', hs', ht', hcontroller⟩ := service?_of_transform hrun
  obtain rfl : s' = s := Option.some.inj (hs'.symm.trans hs)
  obtain rfl : t' = t := Except.ok.inj (hcontroller.symm.trans ht)
  exact ⟨_, hrun, ht'⟩

theorem transform_error_iff_controller {name : String} {templates : Templates} {s : Service}
    {f : Failure} (hs : p.service? name = some s) :
    p.transform settings directory name templates = .error f ↔
      (Context.ofService p directory s templates).controller settings = .error f := by
  obtain ⟨i, hi, hget⟩ := service?_iff.1 hs
  rw [transform_of_found settings directory templates hi hget, bind_error_iff]
  simp only [reduceCtorEq, and_false, exists_false, or_false]

end Project

/-! ## Sessions -/

namespace Session

variable {σ : Session} {q : Project} {name : String} {templates : Templates}

/-- The session with the templates of some services only. -/
def restrict (σ : Session) (keep : String → Bool) : Session :=
  { σ with
    configurations :=
      ⟨σ.configurations.entries.filter (keep ·.1), σ.configurations.ascending.filter _⟩ }

/-- The services that the templates of a service see when `q` is what the session comes to: those
with templates and a smaller name as they end up, all others as they were given. -/
def seen (σ : Session) (q : Project) (name : String) : List Service :=
  List.zipWith (fun s t => if s.name ∈ σ.configurations.keys ∧ s.name < name then t else s)
    σ.project.services q.services

theorem entries_split (he : (name, templates) ∈ σ.configurations.entries) :
    ∃ before after, σ.configurations.entries = before ++ (name, templates) :: after ∧
      (∀ n ∈ before.map Prod.fst, n < name) ∧ ∀ n ∈ after.map Prod.fst, name < n := by
  obtain ⟨before, after, hsplit⟩ := List.append_of_mem he
  have hascending := σ.configurations.ascending
  rw [hsplit, Ascending, List.pairwise_append, List.pairwise_cons] at hascending
  obtain ⟨-, ⟨hafter, -⟩, hbefore⟩ := hascending
  refine ⟨before, after, hsplit, fun n hn => ?_, fun n hn => ?_⟩
  · obtain ⟨e, he, rfl⟩ := List.mem_map.1 hn
    exact compareOfLessAndEq_eq_lt.1 (hbefore e he _ List.mem_cons_self)
  · obtain ⟨e, he, rfl⟩ := List.mem_map.1 hn
    exact compareOfLessAndEq_eq_lt.1 (hafter e he)

theorem seen_eq {before after : List (String × Templates)} {r : Project}
    (hsplit : σ.configurations.entries = before ++ (name, templates) :: after)
    (hbefore : ∀ n ∈ before.map Prod.fst, n < name) (hafter : ∀ n ∈ after.map Prod.fst, name < n)
    (hr : Project.ReplacesOnly (before.map Prod.fst) σ.project r)
    (hq : Project.ReplacesOnly (name :: after.map Prod.fst) r q) : σ.seen q name = r.services := by
  have hkeys (n : String) : n ∈ σ.configurations.keys ∧ n < name ↔ n ∈ before.map Prod.fst := by
    rw [Dict.keys, hsplit, List.map_append, List.mem_append, List.map_cons, List.mem_cons]
    constructor
    · rintro ⟨hn | rfl | hn, hlt⟩
      · exact hn
      · exact absurd hlt (String.lt_irrefl _)
      · exact absurd hlt (String.lt_asymm (hafter n hn))
    · exact fun hn => ⟨.inl hn, hbefore n hn⟩
  have hlength : σ.project.services.length = r.services.length := by
    simpa [Project.names] using (congrArg List.length hr.names).symm
  have hlength' : r.services.length = q.services.length := by
    simpa [Project.names] using (congrArg List.length hq.names).symm
  refine List.ext_getElem ?_ fun i hi hir => ?_
  · rw [seen, List.length_zipWith]
    omega
  · simp only [seen, List.getElem_zipWith, hkeys]
    have hs := List.getElem?_eq_getElem (l := σ.project.services) (i := i) (by omega)
    have hu := List.getElem?_eq_getElem (l := r.services) hir
    split
    · rename_i hname
      have hsame : r.services[i].name = σ.project.services[i].name := by
        have h := congrArg (·[i]?) hr.names
        simpa [Project.names, hs, hu] using h
      have hother : r.services[i].name ∉ name :: after.map Prod.fst := by
        rw [hsame, List.mem_cons, not_or]
        have hlt := hbefore _ hname
        exact ⟨fun h => String.lt_irrefl _ (h ▸ hlt), fun h => String.lt_asymm hlt (hafter _ h)⟩
      obtain ⟨_, hfinal⟩ := List.getElem?_eq_some_iff.1 (hq.kept i _ hu hother)
      exact hfinal
    · rename_i hname
      exact Option.some.inj ((hr.kept i _ hs hname).symm.trans hu)

theorem transformed_split [Markup.Machine] (hq : σ.transformed = .ok q)
    (he : (name, templates) ∈ σ.configurations.entries) :
    ∃ before after r r', σ.configurations.entries = before ++ (name, templates) :: after ∧
      (∀ n ∈ before.map Prod.fst, n < name) ∧ (∀ n ∈ after.map Prod.fst, name < n) ∧
      σ.project.transformAll σ.settings σ.directory before = .ok r ∧
      r.transform σ.settings σ.directory name templates = .ok r' ∧
      r'.transformAll σ.settings σ.directory after = .ok q := by
  obtain ⟨before, after, hsplit, hbefore, hafter⟩ := entries_split he
  change σ.project.transformAll σ.settings σ.directory σ.configurations.entries = .ok q at hq
  rw [hsplit, ← List.singleton_append, Project.transformAll_append_ok_iff] at hq
  obtain ⟨r, hr, hq⟩ := hq
  obtain ⟨r', hr', hq⟩ := Project.transformAll_append_ok_iff.1 hq
  rw [Project.transformAll_singleton] at hr'
  exact ⟨before, after, r, r', hsplit, hbefore, hafter, hr, hr', hq⟩

theorem transformed_restrict [Markup.Machine] (σ : Session) (keep : String → Bool) :
    (σ.restrict keep).transformed =
      σ.project.transformAll σ.settings σ.directory (σ.configurations.entries.filter (keep ·.1)) :=
  rfl

theorem filter_le {before after : List (String × Templates)}
    (hsplit : σ.configurations.entries = before ++ (name, templates) :: after)
    (hbefore : ∀ n ∈ before.map Prod.fst, n < name) (hafter : ∀ n ∈ after.map Prod.fst, name < n) :
    σ.configurations.entries.filter (·.1 ≤ name) = before ++ [(name, templates)] := by
  have hkeep : before.filter (·.1 ≤ name) = before := by
    refine List.filter_eq_self.2 fun e he => decide_eq_true ?_
    exact String.not_lt.1 (String.lt_asymm (hbefore _ (List.mem_map_of_mem he)))
  have hdrop : after.filter (·.1 ≤ name) = [] := by
    refine List.filter_eq_nil_iff.2 fun e he => ?_
    rw [decide_eq_true_eq, String.not_le]
    exact hafter _ (List.mem_map_of_mem he)
  rw [hsplit, List.filter_append, List.filter_cons_of_pos (by simp), hkeep, hdrop]

theorem filter_eq {before after : List (String × Templates)}
    (hsplit : σ.configurations.entries = before ++ (name, templates) :: after)
    (hbefore : ∀ n ∈ before.map Prod.fst, n < name) (hafter : ∀ n ∈ after.map Prod.fst, name < n) :
    σ.configurations.entries.filter (·.1 = name) = [(name, templates)] := by
  have hdrop : before.filter (·.1 = name) = [] := by
    refine List.filter_eq_nil_iff.2 fun e he => ?_
    rw [decide_eq_true_eq]
    exact fun h => String.lt_irrefl _ (h ▸ hbefore _ (List.mem_map_of_mem he))
  have hdrop' : after.filter (·.1 = name) = [] := by
    refine List.filter_eq_nil_iff.2 fun e he => ?_
    rw [decide_eq_true_eq]
    exact fun h => String.lt_irrefl _ (h ▸ hafter _ (List.mem_map_of_mem he))
  rw [hsplit, List.filter_append, List.filter_cons_of_pos (by simp), hdrop, hdrop', List.nil_append]

/-- **The entry of a service in the transformed project.** It is the controller of the service as it
was given, whose templates see the controllers of the services before it and all others as they were
given. Services after it have no influence: without their templates the entry is the same. It is the
same also without the templates of any other service, if there are none before it or if its
templates give the same when they see all services as they were given. -/
theorem transformed_entry [Markup.Machine] (hq : σ.transformed = .ok q)
    (he : (name, templates) ∈ σ.configurations.entries) :
    ∃ s t, σ.project.service? name = some s ∧ q.service? name = some t ∧
      (Context.mk s (σ.seen q name) σ.directory templates).controller σ.settings = .ok t ∧
      (∃ r, (σ.restrict (· ≤ name)).transformed = .ok r ∧ r.service? name = some t) ∧
      ((∀ n ∈ σ.configurations.keys, name ≤ n) ∨
          (Context.mk s (σ.seen q name) σ.directory templates).Alike
            ⟨s, σ.project.services, σ.directory, templates⟩ →
        ∃ r, (σ.restrict (· = name)).transformed = .ok r ∧ r.service? name = some t) := by
  obtain ⟨before, after, r, r', hsplit, hbefore, hafter, hr, hr', hq⟩ := transformed_split hq he
  have hbeforeKept := Project.replacesOnly_of_transformAll hr
  have hturnKept := Project.replacesOnly_of_transform hr'
  have hafterKept := Project.replacesOnly_of_transformAll hq
  have hseen : σ.seen q name = r.services :=
    seen_eq hsplit hbefore hafter hbeforeKept (hturnKept.trans hafterKept)
  have hrestrict : (σ.restrict (· ≤ name)).transformed = .ok r' := by
    rw [transformed_restrict, filter_le hsplit hbefore hafter, Project.transformAll_append_ok_iff]
    exact ⟨r, hr, (Project.transformAll_singleton _ _ _ _).trans hr'⟩
  obtain ⟨s, t, hs, hplaced, ht⟩ := Project.service?_of_transform hr'
  have hgiven : σ.project.service? name = some s := by
    rw [← hs, hbeforeKept.service?_eq fun h => String.lt_irrefl _ (hbefore _ h)]
  have hfinal : q.service? name = some t := by
    rw [← hplaced, hafterKept.service?_eq fun h => String.lt_irrefl _ (hafter _ h)]
  refine ⟨s, t, hgiven, hfinal, ?_, ⟨r', hrestrict, hplaced⟩, fun h => ?_⟩
  · rw [hseen]
    exact ht
  · have halone : (Context.ofService σ.project σ.directory s templates).controller
        σ.settings = .ok t := by
      rcases h with hfirst | halike
      · have hnil : before = [] := by
          refine List.eq_nil_iff_forall_not_mem.2 fun e he => ?_
          refine String.not_lt.2 (hfirst e.1 ?_) (hbefore e.1 (List.mem_map_of_mem he))
          exact List.mem_map_of_mem (hsplit ▸ List.mem_append_left _ he)
        subst hnil
        obtain rfl : σ.project = r := pure_ok_iff.1 hr
        exact ht
      · rw [← ht, Context.ofService, ← halike.controller_eq, hseen]
        rfl
    rw [transformed_restrict, filter_eq hsplit hbefore hafter, Project.transformAll_singleton]
    exact Project.exists_transform_of_controller hgiven halone

/-- The second service is run as a user named like the image of the first one, which has a
controller by then. -/
theorem transformed_entry_second :
    let project : Project :=
      { Project.empty with
        services := [(Service.empty "a").set .image (some "x"), Service.empty "b",
          Service.empty "c"] }
    let plain : Templates := { Templates.empty with copy := [⟨"none", "", []⟩] }
    let reading : Templates :=
      { Templates.empty with
        pod := [⟨"pod", "b: \x7buser: '\x7b\x7b project.services.0.image \x7d\x7d'\x7d", []⟩] }
    let σ : Session :=
      ⟨project, "/work", .ofList [("a", plain), ("b", reading), ("c", plain)], .standard⟩
    ∃ q r t, σ.transformed = .ok q ∧ (σ.restrict (· ≤ "b")).transformed = .ok r ∧
      q.service? "b" = some t ∧ r.service? "b" = some t ∧
      t.value .user = some "rycus86/podlike" := by
  intro project plain reading σ
  obtain ⟨q, hq⟩ : ∃ q, σ.transformed = .ok q := exists_ok_of_isOk (by decide +kernel)
  have he : ("b", reading) ∈ σ.configurations.entries := Dict.mem_entries_iff.2 (by decide +kernel)
  have huser : (σ.transformed.toOption.bind (·.service? "b")).map
      (fun t => (t.value .user : Option String)) = some (some "rycus86/podlike") := by
    decide +kernel
  obtain ⟨s, t, -, ht, -, ⟨r, hr, hrt⟩, -⟩ := transformed_entry hq he
  rw [hq, Except.toOption, Option.bind_some, ht] at huser
  exact ⟨q, r, t, hq, hr, ht, hrt, Option.some.inj huser⟩

/-- A service can look at the controller of one before it: without that one's templates it is
another. -/
theorem transformed_entry_depends :
    let project : Project :=
      { Project.empty with
        services := [(Service.empty "a").set .image (some "x"), Service.empty "b"] }
    let plain : Templates := { Templates.empty with copy := [⟨"none", "", []⟩] }
    let reading : Templates :=
      { Templates.empty with
        pod := [⟨"pod", "b: \x7buser: '\x7b\x7b project.services.0.image \x7d\x7d'\x7d", []⟩] }
    let σ : Session := ⟨project, "/work", .ofList [("a", plain), ("b", reading)], .standard⟩
    "b" ∈ σ.configurations.keys ∧
      ∃ q r t u, σ.transformed = .ok q ∧ (σ.restrict (· = "b")).transformed = .ok r ∧
        q.service? "b" = some t ∧ r.service? "b" = some u ∧
        t.value .user = some "rycus86/podlike" ∧ u.value .user = some "x" ∧ t ≠ u := by
  intro project plain reading σ
  have hboth : (σ.transformed.toOption.bind (·.service? "b")).map
      (fun t => (t.value .user : Option String)) = some (some "rycus86/podlike") := by
    decide +kernel
  have halone : ((σ.restrict (· = "b")).transformed.toOption.bind (·.service? "b")).map
      (fun u => (u.value .user : Option String)) = some (some "x") := by decide +kernel
  obtain ⟨t, ht, htuser⟩ := Option.map_eq_some_iff.1 hboth
  obtain ⟨u, hu, huuser⟩ := Option.map_eq_some_iff.1 halone
  obtain ⟨q, hq, hqt⟩ := Option.bind_eq_some_iff.1 ht
  obtain ⟨r, hr, hru⟩ := Option.bind_eq_some_iff.1 hu
  refine ⟨by decide +kernel, q, r, t, u, toOption_some_iff.1 hq, toOption_some_iff.1 hr,
    hqt, hru, htuser, huuser, ?_⟩
  rintro rfl
  rw [htuser] at huuser
  exact absurd huuser (by decide)

end Session

end ComposePods

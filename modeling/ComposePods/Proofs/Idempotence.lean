import ComposePods.Proofs.Bodies
import ComposePods.Proofs.Isolation
import ComposePods.Proofs.Sessions

/-!
# Manifests transformed again

The extension that declares templates is taken out of a project before its services are replaced,
and nothing that makes a controller brings it back: it is no property that is carried over, and the
settings set others. Only the bodies of pod templates could have it. Without it a manifest declares
nothing, so it is written as it has been read. So a manifest that has been transformed stays the
same when it is transformed again.

* `Fragment.sets`: a fragment has a key in a body;
* `Context.extensions_of_controller`: the extensions of a controller are those of its pod templates;
* `Project.Lacks`, `Session.PodsLack`: an extension that is nowhere, and pod templates that do not
  set it;
* `Project.Lacks.transform`, `Session.lacks_of_transformed`: what is nowhere stays so, in one step
  and in a run;
* `Session.ofProject_of_lacks`, `Project.transformText_of_lacks`: manifests that declare nothing;
* **`Project.transformText_idempotent`**: the two together.
-/

namespace ComposePods

open Mapping

/-! ## Extensions of controllers -/

/-- A body in the fragment has the key, whatever the tags around the key. -/
def Fragment.sets (key : String) (f : Mapping) : Bool :=
  f.any fun e => (e.2.mapping?.getD []).any fun b => b.1.untagged = .string key

theorem Service.exists_of_mem_extensions {m : Mapping} {s : Service}
    (h : Service.read (Value.mapping m) = .ok s) {name : String}
    (hname : name ∈ s.extensions.keys) : ∃ e ∈ m, e.1.untagged = .string name := by
  obtain ⟨es, final, hes, hfinal, -, rfl⟩ := read_ok_iff.1 h
  obtain rfl : m = es := Except.ok.inj hes
  have hfurther : ∀ f ∈ final.further, ∃ e ∈ m, e.1.untagged = .string f.1 := by
    refine foldlM_preserves
      (P := fun d : Draft => ∀ f ∈ d.further, ∃ e ∈ m, e.1.untagged = .string f.1)
      (fun d e he next hd hnext => ?_) (List.forall_mem_nil _) hfinal
    obtain ⟨n, hn, ⟨-, -, -, -, -, rfl⟩ | ⟨v, -, -, rfl⟩⟩ := readEntry_ok_iff.1 hnext
    · exact hd
    · refine List.forall_mem_append.2 ⟨hd, List.forall_mem_singleton.2 ⟨e, he, ?_⟩⟩
      change e.1.readName = .ok n at hn
      unfold Value.readName at hn
      split at hn
      · rename_i text htext
        rw [htext, Except.ok.inj hn]
      · cases hn
  obtain ⟨f, hf, rfl⟩ := List.mem_map.1 (Dict.mem_keys_ofList.1 hname)
  exact hfurther f hf

namespace Controller

open Fragment

variable {k : Value} {bodies : List Mapping}

theorem mem_keys_fill {given target : Mapping} {keys' : List String}
    (h : k ∈ keys (keys'.foldl (fillKey given) target)) :
    k ∈ keys target ∨ k ∈ keys'.map .string := by
  induction keys' generalizing target with
  | nil => exact .inl h
  | cons key keys' ih =>
    rcases ih h with h | h
    · unfold fillKey at h
      split at h
      · exact .inl h
      · split at h
        · refine (mem_keys_insert h).imp_right ?_
          rintro rfl
          exact List.mem_cons_self
        · exact .inl h
    · exact .inr (List.mem_cons_of_mem _ h)

theorem mem_keys_podBody {settings : Settings} {given : Mapping}
    (h : k ∈ keys (podBody settings given bodies)) :
    (∃ body ∈ bodies, k ∈ keys body) ∨ ∃ p : Property, k = .string p.name := by
  rcases mem_keys_merge h with h | h
  · rcases mem_keys_fill h with h | h
    · exact .inl (mem_keys_mergeAll h)
    · obtain ⟨name, hname, rfl⟩ := List.mem_map.1 h
      obtain ⟨p, -, rfl⟩ := List.mem_map.1 hname
      exact .inr ⟨p, rfl⟩
  · have hstandard : k = .string "image" ∨ k = .string "volumes" := by
      simpa [keys, standardProperties] using h
    rcases hstandard with rfl | rfl
    · exact .inr ⟨.image, rfl⟩
    · exact .inr ⟨.volumes, rfl⟩

theorem exists_of_mem_counted {fragments : List Mapping} {body : Mapping}
    (h : body ∈ counted fragments) : ∃ f ∈ fragments, ∃ e ∈ f, e.2 = .mapping body := by
  have hmem : body ∈ (fragments.filterMap body?).filterMap Value.mapping? := by
    unfold counted at h
    dsimp only at h
    split at h
    · exact h
    · cases h
  obtain ⟨v, hv, hbody⟩ := List.mem_filterMap.1 hmem
  obtain ⟨f, hf, hfv⟩ := List.mem_filterMap.1 hv
  obtain ⟨e, he, rfl⟩ := Option.map_eq_some_iff.1 hfv
  exact ⟨f, hf, e, List.mem_of_mem_head? he, Value.mapping?_eq_some_iff.1 hbody⟩

end Controller

namespace Context

open Controller

variable {c : Context} {settings : Settings} {t : Service}

/-- **The extensions of a controller** are set in bodies of its pod templates. -/
theorem extensions_of_controller [Markup.Machine] (h : c.controller settings = .ok t) {key : String}
    (hkey : t.extensions.get? key ≠ none) :
    ∃ u ∈ c.templates.pod, ∃ f, c.render .pod u = .ok f ∧ Fragment.sets key f = true := by
  revert hkey
  refine controller_preserves (P := fun s => s.extensions.get? key ≠ none →
      ∃ u ∈ c.templates.pod, ∃ f, c.render .pod u = .ok f ∧ Fragment.sets key f = true)
    (fun s d hs => hs) (fun s hs hkey => ?_) h
  obtain ⟨fragments, hfragments, hentry⟩ := podStage_counted hs
  obtain ⟨v, hv⟩ := Option.ne_none_iff_exists'.1 hkey
  have hproperty : Property.ofName? key = none :=
    (Definitions.sound_of_ofEntry hentry).1.further _ (Dict.mem_entries_iff.2 hv)
  obtain ⟨-, t, ht, -, rfl⟩ := Definitions.ofEntry_mapping_ok_iff.1 hentry
  obtain ⟨e, he, hname⟩ := Service.exists_of_mem_extensions ht (Dict.mem_keys_iff.2 ⟨v, hv⟩)
  rcases mem_keys_podBody (List.mem_map_of_mem he) with ⟨body, hbody, hmem⟩ | ⟨p, hp⟩
  · obtain ⟨f, hf, e', he', hbody'⟩ := exists_of_mem_counted hbody
    obtain ⟨b, hb, hbe⟩ := List.mem_map.1 hmem
    obtain ⟨u, hu, hrender⟩ := exists_right_of_forall₂ (mapM_ok_iff.1 hfragments).flip f hf
    refine ⟨u, hu, f, hrender, ?_⟩
    rw [Fragment.sets, List.any_eq_true]
    refine ⟨e', he', ?_⟩
    rw [hbody', List.any_eq_true]
    exact ⟨b, hb, by rw [hbe, hname]; exact decide_eq_true rfl⟩
  · rw [hp] at hname
    obtain rfl : p.name = key := Value.string.inj hname
    rw [Service.ofName?_name] at hproperty
    cases hproperty

end Context

/-! ## Projects that lack an extension -/

/-- The extension is nowhere in the project. -/
structure Project.Lacks (p : Project) (key : String) : Prop where
  top : p.extensions.get? key = none
  services : ∀ s ∈ p.services, s.extensions.get? key = none

theorem Dict.erase_of_get?_eq_none {α : Type} {d : Dict α} {key : String} (h : d.get? key = none) :
    d.erase key = d := by
  refine Dict.ext_get? fun k => ?_
  rw [Dict.get?_erase]
  split
  · rename_i hk
    rw [hk, h]
  · rfl

namespace Project

variable {p q : Project} {key : String}

theorem lacks_eraseExtension (key : String) (p : Project) :
    (Session.eraseExtension key p).Lacks key where
  top := by
    rw [Session.eraseExtension, Dict.get?_erase, if_pos rfl]
  services s hs := by
    obtain ⟨t, -, rfl⟩ := List.mem_map.1 hs
    rw [Session.eraseFromService, Dict.get?_erase, if_pos rfl]

theorem Lacks.eraseExtension_eq (hp : p.Lacks key) : Session.eraseExtension key p = p := by
  have hservices : p.services.map (Session.eraseFromService key) = p.services := by
    refine (List.map_congr_left fun s hs => ?_).trans (List.map_id _)
    rw [Session.eraseFromService, Dict.erase_of_get?_eq_none (hp.services s hs)]
    rfl
  rw [Session.eraseExtension, hservices, Dict.erase_of_get?_eq_none hp.top]

/-- **One service replaced**: what is nowhere in the project is nowhere in the next one, unless a
pod template has it in a body. -/
theorem Lacks.transform [Markup.Machine] {settings : Settings} {directory name : String}
    {templates : Templates} (hp : p.Lacks key)
    (h : p.transform settings directory name templates = .ok q)
    (hpods : ∀ s, p.service? name = some s → ∀ u ∈ templates.pod, ∀ f,
      (Context.ofService p directory s templates).render .pod u = .ok f →
        Fragment.sets key f = false) :
    q.Lacks key := by
  obtain ⟨i, s, t, hi, hs, -, ht, rfl⟩ := transform_ok_iff.1 h
  refine ⟨hp.top, fun u hu => ?_⟩
  rcases List.mem_or_eq_of_mem_set hu with hu | rfl
  · exact hp.services u hu
  · by_contra hkey
    obtain ⟨w, hw, f, hf, hsets⟩ := Context.extensions_of_controller ht hkey
    rw [hpods s (service?_iff.2 ⟨i, hi, hs⟩) w hw f hf] at hsets
    cases hsets

end Project

namespace Session

variable [Markup.Machine] {p q : Project} {σ : Session}

/-- No body that a pod template of the session gives, when its turn comes, has the extension key. -/
def PodsLack (σ : Session) : Prop :=
  ∀ before name templates after r s,
    σ.configurations.entries = before ++ (name, templates) :: after →
    σ.project.transformAll σ.settings σ.directory before = .ok r → r.service? name = some s →
    ∀ u ∈ templates.pod, ∀ f, (Context.ofService r σ.directory s templates).render .pod u = .ok f →
      Fragment.sets σ.settings.extensionKey f = false

theorem podsLack_of_single {name : String} {templates : Templates}
    (hone : σ.configurations.entries = [(name, templates)])
    (h : ∀ s, σ.project.service? name = some s → ∀ u ∈ templates.pod, ∀ f,
      (Context.ofService σ.project σ.directory s templates).render .pod u = .ok f →
      Fragment.sets σ.settings.extensionKey f = false) : σ.PodsLack := by
  intro before name' templates' after r s hsplit hr hs
  rw [hone] at hsplit
  cases before with
  | nil =>
    obtain ⟨rfl, rfl⟩ := Prod.mk.inj (List.cons.inj hsplit).1
    obtain rfl : σ.project = r := pure_ok_iff.1 hr
    exact h s hs
  | cons e before => cases before <;> simp at hsplit

/-- **All services replaced.** -/
theorem lacks_of_transformed (hproject : σ.project.Lacks σ.settings.extensionKey)
    (hpods : σ.PodsLack) (h : σ.transformed = .ok q) : q.Lacks σ.settings.extensionKey := by
  -- The induction is on the services to come; those before have left `r`.
  have hrun : ∀ after before r, σ.configurations.entries = before ++ after →
      σ.project.transformAll σ.settings σ.directory before = .ok r →
      r.Lacks σ.settings.extensionKey →
      r.transformAll σ.settings σ.directory after = .ok q → q.Lacks σ.settings.extensionKey := by
    intro after
    induction after with
    | nil =>
      rintro before r - - hr hq
      obtain rfl : r = q := pure_ok_iff.1 hq
      exact hr
    | cons e after ih =>
      intro before r hsplit hbefore hr hq
      rw [← List.singleton_append, Project.transformAll_append_ok_iff] at hq
      obtain ⟨r', hr', hq⟩ := hq
      have hnext : r'.Lacks σ.settings.extensionKey :=
        hr.transform (Project.transformAll_singleton r _ _ e ▸ hr') fun s hs =>
          hpods before e.1 e.2 after r s hsplit hbefore hs
      refine ih (before ++ [e]) r'
        (by rw [hsplit, List.append_assoc, List.singleton_append]) ?_ hnext hq
      exact Project.transformAll_append_ok_iff.2 ⟨r, hbefore, hr'⟩
  exact hrun σ.configurations.entries [] σ.project rfl rfl hproject h

/-! ## Manifests that declare nothing -/

omit [Markup.Machine] in
theorem ofProject_of_lacks {settings : Settings} (files : Files) (directory : String)
    (hp : p.Lacks settings.extensionKey) (hcheck : settings.check = .ok ()) :
    ofProject files p directory settings = .ok (new p directory settings) := by
  have hservices : p.services.foldlM (readOwn settings.extensionKey) Dict.empty = .ok .empty := by
    have hall := hp.services
    generalize p.services = ss at hall
    induction ss with
    | nil => rfl
    | cons s ss ih =>
      obtain ⟨hs, hall⟩ := List.forall_mem_cons.1 hall
      have hown : readOwn settings.extensionKey .empty s = .ok .empty := by rw [readOwn, hs]
      rw [List.foldlM_cons, hown]
      exact ih hall
  have hdeclarations : declarations settings.extensionKey p = .ok .empty := by
    rw [declarations, ofExtension, hp.top]
    exact hservices
  refine ofProject_ok_iff_reads.2 ⟨hcheck, .empty, hdeclarations, ?_⟩
  rw [hp.eraseExtension_eq]
  rfl

end Session

namespace Project

variable {p : Project} {settings : Settings} {text : String}

/-- **A manifest that declares nothing** is written as it has been read. -/
theorem transformText_of_lacks [Markup.Machine] (files : Files) (directory : String)
    (htext : ofText text = .ok p) (hp : p.Lacks settings.extensionKey)
    (hcheck : settings.check = .ok ()) :
    transformText files text directory settings = p.written := by
  have hnone : (Session.new p directory settings).transformed = .ok p := rfl
  have hsession : (Session.new p directory settings).transform = p.written := by
    rw [Session.transform_eq, hnone]
    rfl
  rw [← hsession]
  simp only [transformText, htext, Session.ofProject_of_lacks files directory hp hcheck,
    Except.mapError, bind, Except.bind]

/-- **Transforming again changes nothing.** Let a manifest be transformed, and let no pod template
have the extension key in its body. Then the extension is nowhere in the project that is written
and, if the project survives writing and reading, its text is transformed into itself, whatever the
files, the directory and the settings, as long as these are acceptable and have the same extension
key. A manifest that lacks the extension in the first place is written as it has been read. -/
theorem transformText_idempotent [Markup.Machine] (files : Files) (text directory : String)
    (settings : Settings) : (∀ out, transformText files text directory settings = .ok out →
        ∃ p σ q, ofText text = .ok p ∧ Session.ofProject files p directory settings = .ok σ ∧
          σ.transformed = .ok q ∧ q.text? = some out ∧
          (σ.PodsLack → q.Lacks settings.extensionKey ∧
            (Yaml.Survives (.mapping q.definition) → ∀ files' directory' settings',
              settings'.check = .ok () → settings'.extensionKey = settings.extensionKey →
              transformText files' out directory' settings' = .ok out))) ∧
      ∀ p : Project, ofText text = .ok p → p.Lacks settings.extensionKey → settings.check = .ok () →
        transformText files text directory settings = p.written := by
  refine ⟨fun out h => ?_, fun p htext hp hcheck =>
    transformText_of_lacks files directory htext hp hcheck⟩
  obtain ⟨p, σ, q, hp, hσ, hq, hout⟩ := transformText_ok_iff.1 h
  refine ⟨p, σ, q, hp, hσ, hq, hout, fun hpods => ?_⟩
  have hsound : p.Sound := sound_of_read (Document.read_ok_iff.1 hp).1
  have hcollected := Session.collected_of_ofProject hsound.toKeysDistinct hσ
  have hstart : σ.project.Lacks σ.settings.extensionKey := by
    rw [hcollected.settings, hcollected.project.eq]
    exact lacks_eraseExtension _ _
  have hlacks : q.Lacks settings.extensionKey := by
    have hend := Session.lacks_of_transformed hstart hpods hq
    rwa [hcollected.settings] at hend
  refine ⟨hlacks, fun hsurvives files' directory' settings' hcheck hkey => ?_⟩
  have hqsound : q.Sound := sound_of_transformed (sound_of_ofProject hsound hσ) hq
  obtain ⟨out', hout', hread⟩ := hqsound.readBack.text hsurvives
  obtain rfl : out = out' := Option.some.inj (hout.symm.trans hout')
  rw [transformText_of_lacks files' directory' hread (hkey ▸ hlacks) hcheck, written_ok_iff]
  exact hout

/-- The pod template of a service that declares one, beside a service that declares nothing. The
text comes out again with other settings and in another directory; a manifest without declarations
is written as it is. -/
theorem transformText_idempotent_web :
    let text := "services: \x7bdb: \x7b\x7d, " ++
      "web: \x7bx-podlike: \x7bpod: \x7binline: 'a: \x7buser: u\x7d'\x7d\x7d\x7d\x7d"
    let plain := "services: \x7bdb: \x7bimage: pg\x7d\x7d"
    let settings : Settings :=
      { Settings.standard with controllerImage := "c", controllerVolumes := [] }
    let other : Settings := { settings with controllerImage := "d" }
    (∃ (out : String) (σ : Session) (q : Project),
      transformText ⟨[]⟩ text "/work" settings = .ok out ∧
      σ.transformed = .ok q ∧ q.text? = some out ∧ σ.configurations.keys = ["web"] ∧ σ.PodsLack ∧
      q.Lacks "x-podlike" ∧ Yaml.Survives (.mapping q.definition) ∧
      transformText ⟨[]⟩ out "/elsewhere" other = .ok out) ∧
      ∃ p : Project, ofText plain = .ok p ∧ p.Lacks "x-podlike" ∧
        transformText ⟨[]⟩ plain "/work" other = p.written := by
  intro text plain settings other
  have hother : other.check = .ok () := toOption_some_iff.1 (by decide +kernel)
  constructor
  · obtain ⟨out, hout⟩ : ∃ out, transformText ⟨[]⟩ text "/work" settings = .ok out :=
      exists_ok_of_isOk (by decide +kernel)
    obtain ⟨p, σ, q, hp, hσ, hq, htext, hagain⟩ :=
      (transformText_idempotent ⟨[]⟩ text "/work" settings).1 out hout
    let web : Service := Service.empty "web"
    let start : Project := { Project.empty with services := [Service.empty "db", web] }
    let template : Template := ⟨"web.pod[0]", "a: \x7buser: u\x7d", []⟩
    let declared : List (String × Templates) := [("web", ⟨[template], [], [], [], []⟩)]
    let controller : Mapping :=
      [(.string "image", .string "c"),
        (.string "labels", .mapping [(.string "pod.component.web", .string "\x7b\x7d\n")]),
        (.string "user", .string "u")]
    let manifest : Mapping :=
      [(.string "services", .mapping
        [(.string "db", .mapping []), (.string "web", .mapping controller)])]
    have hsession : σ = ⟨start, "/work", Dict.ofList declared, settings⟩ := by
      have hrun : (ofText text).toOption.bind (fun p =>
          (Session.ofProject ⟨[]⟩ p "/work" settings).toOption.map fun σ =>
            (σ.project, σ.directory, σ.configurations, σ.settings)) =
          some (start, "/work", Dict.ofList declared, settings) := by
        decide +kernel
      obtain ⟨p', hp', hrun⟩ := Option.bind_eq_some_iff.1 hrun
      obtain rfl : p = p' := Except.ok.inj (hp.symm.trans (toOption_some_iff.1 hp'))
      obtain ⟨σ', hσ', hrun⟩ := Option.map_eq_some_iff.1 hrun
      obtain rfl : σ = σ' := Except.ok.inj (hσ.symm.trans (toOption_some_iff.1 hσ'))
      obtain ⟨hproject, hrest⟩ := Prod.mk.inj hrun
      obtain ⟨hdirectory, hrest⟩ := Prod.mk.inj hrest
      obtain ⟨hconfigurations, hsettings⟩ := Prod.mk.inj hrest
      rw [← hproject, ← hdirectory, ← hconfigurations, ← hsettings]
    subst hsession
    have hdefinition : q.definition = manifest := by
      have hrun : (start.transformAll settings "/work" (Dict.ofList declared).entries).toOption.map
          (·.definition) = some manifest := by decide +kernel
      obtain ⟨q', hq', hrun⟩ := Option.map_eq_some_iff.1 hrun
      obtain rfl : q = q' := Except.ok.inj (hq.symm.trans (toOption_some_iff.1 hq'))
      exact hrun
    have hpods : Session.PodsLack ⟨start, "/work", Dict.ofList declared, settings⟩ := by
      refine Session.podsLack_of_single rfl fun s hs u hu f hf => ?_
      have hweb : start.service? "web" = some web := by decide +kernel
      obtain rfl : web = s := Option.some.inj (hweb.symm.trans hs)
      obtain rfl := List.mem_singleton.1 hu
      have hsets : ((Context.ofService start "/work" web ⟨[template], [], [], [], []⟩).render .pod
          template).toOption.map (Fragment.sets "x-podlike") = some false := by decide +kernel
      obtain ⟨f', hf', hsets⟩ := Option.map_eq_some_iff.1 hsets
      obtain rfl : f = f' := Except.ok.inj (hf.symm.trans (toOption_some_iff.1 hf'))
      exact hsets
    have hsurvives : Yaml.Survives (.mapping q.definition) := by
      rw [hdefinition]
      exact Yaml.survives_of_any (by decide +kernel)
    obtain ⟨hlacks, hsame⟩ := hagain hpods
    exact ⟨out, _, q, hout, hq, htext, by decide +kernel, hpods, hlacks, hsurvives,
      hsame hsurvives ⟨[]⟩ "/elsewhere" other hother rfl⟩
  · have hrun : (ofText plain).toOption = some
        { Project.empty with services := [(Service.empty "db").set .image (some "pg")] } := by
      decide +kernel
    have hp := toOption_some_iff.1 hrun
    have hlacks : Lacks
        { Project.empty with services := [(Service.empty "db").set .image (some "pg")] }
        other.extensionKey := ⟨rfl, List.forall_mem_singleton.2 rfl⟩
    exact ⟨_, hp, hlacks, (transformText_idempotent ⟨[]⟩ plain "/work" other).2 _ hp hlacks hother⟩

end Project

end ComposePods

import ComposePods.Proofs.Nodes
import ComposePods.Proofs.Projects

/-!
# Manifests read back

A project that has been read is written as a manifest from which the same project is read, however
many of its services have been replaced by their controllers before. So is every service that a tree
defines, without its name. Of the text of a manifest it is assumed that document values survive
writing and reading.

* `Yaml.Survives`: a document value that can be written and is read back;
* `Context.sound_of_controller`, `Project.Sound.call`, `Project.Sound.eraseExtension`: controllers
  and what becomes of a project are sound;
* `Project.ReadBack`, `Service.ReadBack`: read back from a mapping and from a text;
* **`Project.read_back`**: every manifest and every definition is read back.
-/

namespace ComposePods

/-- The value can be written, and its text stands for it: no tag in the text is of the format's own
schema, and no zero has a minus sign. -/
def Yaml.Survives (v : Value) : Prop :=
  ∃ text, Yaml.write? v = some text ∧ Yaml.read text = .ok v ∧
    (Document.ofText text).root.isOrdinary = true

theorem Yaml.survives_of_any {v : Value} (h : (Yaml.write? v).any (fun text =>
    (Yaml.read text).toOption = some v ∧ (Document.ofText text).root.isOrdinary = true) = true) :
    Yaml.Survives v := by
  obtain ⟨text, hwrite, htried⟩ := (Option.any_eq_true _ _).1 h
  obtain ⟨hread, hordinary⟩ := of_decide_eq_true htried
  exact ⟨text, hwrite, toOption_some_iff.1 hread, hordinary⟩

theorem Yaml.Survives.read {β : Type} {v : Value} (h : Yaml.Survives v)
    {reader : Node → Except TypeError β} {b : β}
    (hreader : ∀ n : Node, n.Shows v → reader n = .ok b) :
    ∃ text, Yaml.write? v = some text ∧ (Document.ofText text).read reader = .ok b := by
  obtain ⟨text, hwrite, hread, hordinary⟩ := h
  obtain ⟨hvalue, hsound⟩ := Document.read_ok_iff.1 hread
  exact ⟨text, hwrite, Document.read_ok_iff.2 ⟨hreader _ ⟨hordinary, hvalue⟩, hsound⟩⟩

/-! ## Definitions and controllers -/

namespace Definitions

variable {directory service : String} {layer : Layer}

theorem sound_of_ofEntry {e : Value × Value} {s : Service}
    (h : ofEntry directory service layer e = .ok s) : s.Sound ∧ s.unsupported = [] := by
  obtain ⟨name, body, t, -, -, -, ht, hunsupported, rfl⟩ := ofEntry_ok_iff.1 h
  exact ⟨((Service.sound_of_read ht).withName name).locate directory, hunsupported⟩

theorem sound_of_ofTree {tree : Mapping} {ss : List Service}
    (h : ofTree directory service layer tree = .ok ss) : ∀ s ∈ ss, s.Sound := by
  intro s hs
  obtain ⟨e, -, he⟩ := mem_ofTree h hs
  exact (sound_of_ofEntry he).1

end Definitions

/-- **A controller is such as services that have been read are.** -/
theorem Context.sound_of_controller [Markup.Machine] {c : Context} {settings : Settings}
    {t : Service} (h : c.controller settings = .ok t) : t.Sound ∧ t.unsupported = [] := by
  refine controller_preserves (P := fun s => s.Sound ∧ s.unsupported = []) (fun s d hs => ?_)
    (fun s hs => ?_) h
  · exact ⟨hs.1.set (p := .labels) (v := d) trivial, hs.2⟩
  · obtain ⟨fragments, e, -, he⟩ := ofEntry_of_podStage hs
    exact Definitions.sound_of_ofEntry he

namespace Project

variable {p q : Project}

/-! ## What becomes of a project -/

theorem names_eraseExtension (p : Project) (key : String) :
    (Session.eraseExtension key p).names = p.names := by
  simp only [names, Session.eraseExtension, List.map_map]
  rfl

namespace Sound

theorem replace (hp : p.Sound) {i : Nat} {s t : Service} (hs : p.services[i]? = some s)
    (hname : t.name = s.name) (ht : t.Sound ∧ t.unsupported = []) :
    ({ p with services := p.services.set i t } : Project).Sound := by
  refine { hp with listed := ?_, services := fun u hu => ?_ }
  · rw [Listed, names_set hs hname]
    exact hp.listed
  · rcases List.mem_or_eq_of_mem_set hu with hu | rfl
    · exact hp.services u hu
    · exact ht

theorem call [Markup.Machine] (hp : p.Sound) (c : Call) : (p.call c).2.Sound := by
  rcases transformService_cases p c.settings c.directory c.service c.templates with
    ⟨i, s, t, -, hs, -, ht, h⟩ | ⟨f, h⟩
  · rw [Project.call, h]
    exact hp.replace hs (Context.name_of_controller ht) (Context.sound_of_controller ht)
  · rw [Project.call, h]
    exact hp

theorem after [Markup.Machine] (hp : p.Sound) (calls : List Call) : (p.after calls).Sound := by
  induction calls generalizing p with
  | nil => exact hp
  | cons c cs ih => exact ih (hp.call c)

theorem eraseExtension (hp : p.Sound) (key : String) : (Session.eraseExtension key p).Sound where
  listed := by
    rw [Listed, names_eraseExtension]
    exact hp.listed
  services := by
    intro t ht
    obtain ⟨s, hs, rfl⟩ := List.mem_map.1 ht
    obtain ⟨hsound, hunsupported⟩ := hp.services s hs
    refine ⟨hsound.erase key, ?_⟩
    rw [Service.unsupported, List.filter_eq_nil_iff] at hunsupported ⊢
    intro name hname
    obtain ⟨e, he, rfl⟩ := List.mem_map.1 hname
    exact hunsupported e.1 (List.mem_map_of_mem (List.mem_of_mem_filter he))
  networks := hp.networks
  volumes := hp.volumes
  secrets := hp.secrets
  configs := hp.configs
  further e he := hp.further e (List.mem_of_mem_filter he)
  hasTag e he := hp.hasTag e (List.mem_of_mem_filter he)
  keysDistinct e he := hp.keysDistinct e (List.mem_of_mem_filter he)

theorem transform [Markup.Machine] (hp : p.Sound) {settings : Settings} {directory service : String}
    {templates : Templates} (h : p.transform settings directory service templates = .ok q) :
    q.Sound := by
  obtain ⟨i, s, t, -, hs, -, ht, rfl⟩ := transform_ok_iff.1 h
  exact hp.replace hs (Context.name_of_controller ht) (Context.sound_of_controller ht)

end Sound

theorem sound_of_ofProject {files : Files} {directory : String} {settings : Settings} {σ : Session}
    (hp : p.Sound) (h : Session.ofProject files p directory settings = .ok σ) :
    σ.project.Sound := by
  unfold Session.ofProject at h
  split at h
  · cases h
  · simp only [bind_ok_iff] at h
    obtain ⟨d, -, h⟩ := h
    refine foldlM_preserves (P := fun σ : Session => σ.project.Sound) (fun u e _ v hu hv => ?_)
      (hp.eraseExtension _) h
    obtain ⟨t, -, hv⟩ := bind_ok_iff.1 hv
    obtain rfl := pure_ok_iff.1 hv
    unfold Session.withTemplates
    split <;> exact hu

theorem sound_of_transformed [Markup.Machine] {σ : Session} (hσ : σ.project.Sound)
    (h : σ.transformed = .ok q) : q.Sound :=
  foldlM_preserves (fun _ _ _ _ hu hv => hu.transform hv) hσ h

/-- **The project that a text becomes** when all its services with templates are replaced is
sound. -/
theorem sound_of_transformText [Markup.Machine] {files : Files} {text directory out : String}
    {settings : Settings} (h : transformText files text directory settings = .ok out) :
    ∃ q : Project, q.text? = some out ∧ q.Sound := by
  obtain ⟨p, σ, q, hp, hσ, hq, hout⟩ := transformText_ok_iff.1 h
  have hread : p.Sound := sound_of_read (Document.read_ok_iff.1 hp).1
  exact ⟨q, hout, sound_of_transformed (sound_of_ofProject hread hσ) hq⟩

/-! ## Reading back -/

/-- The project is read from the mapping as which it is written, and from its text if the mapping
survives. -/
structure ReadBack (p : Project) : Prop where
  mapping : Project.read (Value.mapping p.definition) = .ok p
  text : Yaml.Survives (.mapping p.definition) → ∃ out, p.text? = some out ∧ ofText out = .ok p

theorem Sound.readBack (hp : p.Sound) : p.ReadBack where
  mapping := read_of_shows hp rfl
  text h := h.read fun n hn => read_of_shows (x := n) hp hn

end Project

/-- The service is read without its name from the mapping as which it is written, and from its text
if the mapping survives. -/
structure Service.ReadBack (s : Service) : Prop where
  mapping : Service.read (Value.mapping s.definition) = .ok { s with name := "" }
  text : Yaml.Survives (.mapping s.definition) →
    ∃ out, Controller.serviceText s = .ok out ∧ Service.ofText out = .ok { s with name := "" }

theorem Service.Sound.readBack {s : Service} (hs : s.Sound) : s.ReadBack where
  mapping := Service.read_of_shows hs rfl
  text h := by
    obtain ⟨out, hwrite, hread⟩ := h.read fun n hn => Service.read_of_shows (x := n) hs hn
    refine ⟨out, ?_, hread⟩
    rw [Controller.serviceText, Controller.textOf, hwrite]

/-- **Every manifest and every definition is read back**: the project of a text after any run of
calls, the manifest that a text is transformed into, and the services that a tree defines. -/
theorem Project.read_back [Markup.Machine] :
    (∀ text p, ofText text = .ok p → ∀ calls, (p.after calls).ReadBack) ∧
      (∀ files text directory settings out, transformText files text directory settings = .ok out →
        ∃ q : Project, q.text? = some out ∧ q.ReadBack) ∧
      ∀ directory service layer tree ss, Definitions.ofTree directory service layer tree = .ok ss →
        ∀ s ∈ ss, s.ReadBack := by
  refine ⟨fun text p hp calls => ?_, fun files text directory settings out h => ?_,
    fun directory service layer tree ss h s hs => ?_⟩
  · exact ((sound_of_read (Document.read_ok_iff.1 hp).1).after calls).readBack
  · obtain ⟨q, hout, hq⟩ := sound_of_transformText h
    exact ⟨q, hout, hq.readBack⟩
  · exact (Definitions.sound_of_ofTree h s hs).readBack

/-- A service with ports in both forms, replaced by its controller, and a definition with a
number. -/
theorem Project.read_back_web :
    let text := "services: \x7bweb: \x7bports: [80, \x7btarget: 53\x7d]\x7d\x7d"
    let settings : Settings :=
      { Settings.standard with controllerImage := "c", controllerVolumes := [] }
    let calls : List Call := [⟨settings, "/work", "web", .empty⟩]
    let tree : Mapping := [(.string "log", .mapping [(.string "shm_size", .ofNat 64)])]
    (∃ p, ofText text = .ok p ∧ (p.after calls).ReadBack ∧
      Yaml.Survives (.mapping (p.after calls).definition) ∧
      ∃ out, (p.after calls).text? = some out ∧ ofText out = .ok (p.after calls)) ∧
      (∃ out, transformText ⟨[]⟩ text "/work" settings = .ok out ∧
        ∃ q : Project, q.text? = some out ∧ q.ReadBack) ∧
      ∃ ss, Definitions.ofTree "/work" "web" .component tree = .ok ss ∧ ∀ s ∈ ss, s.ReadBack := by
  intro text settings calls tree
  obtain ⟨p, hp⟩ : ∃ p, ofText text = .ok p := exists_ok_of_isOk (by decide +kernel)
  obtain ⟨out, hout⟩ : ∃ out, transformText ⟨[]⟩ text "/work" settings = .ok out :=
    exists_ok_of_isOk (by decide +kernel)
  obtain ⟨ss, hss⟩ : ∃ ss, Definitions.ofTree "/work" "web" .component tree = .ok ss :=
    exists_ok_of_isOk (by decide +kernel)
  obtain ⟨hproject, hmanifest, hservice⟩ := read_back
  let web : Mapping :=
    [(.string "image", .string "c"),
      (.string "labels", .mapping [(.string "pod.component.web", .string "\x7b\x7d\n")]),
      (.string "ports", .sequence [.ofNat 80, .mapping [(.string "target", .ofNat 53)]])]
  let manifest : Mapping := [(.string "services", .mapping [(.string "web", .mapping web)])]
  have hdefinition : (p.after calls).definition = manifest := by
    have hrun : (ofText text).toOption.map (fun p => (p.after calls).definition) =
        some manifest := by
      decide +kernel
    rw [hp] at hrun
    exact Option.some.inj hrun
  have hsurvives : Yaml.Survives (.mapping (p.after calls).definition) := by
    have hcheck : (Yaml.write? (.mapping manifest)).any (fun out =>
        (Yaml.read out).toOption = some (.mapping manifest) ∧
          (Document.ofText out).root.isOrdinary = true) = true := by decide +kernel
    obtain ⟨out, hwrite, hcheck⟩ := (Option.any_eq_true _ _).1 hcheck
    obtain ⟨hread, hordinary⟩ := of_decide_eq_true hcheck
    rw [hdefinition]
    exact ⟨out, hwrite, toOption_some_iff.1 hread, hordinary⟩
  have hback := hproject text p hp calls
  exact ⟨⟨p, hp, hback, hsurvives, hback.text hsurvives⟩, ⟨out, hout, hmanifest _ _ _ _ _ hout⟩,
    ss, hss, hservice _ _ _ _ _ hss⟩

end ComposePods

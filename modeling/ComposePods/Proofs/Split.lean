import ComposePods.Proofs.DefaultTransformer
import ComposePods.Proofs.Isolation
import ComposePods.Proofs.Manifests
import ComposePods.Proofs.Provenance

/-!
# The default split

Without pod and transformer templates a service is split in two: the controller takes over one set
of its properties, the main component another one, and what is in neither set is left out. Every
property comes out as it was, although it is written as a document value, carried over by its name
and read again.

* `Service.get?_definition`: a property is found under its name in the definition;
* `Service.only`, `Service.standard`: what is taken over, `Fragment.fill_definition`: by its names;
* `Service.read_only`, `Service.read_standard`: what is taken over is read again as it was;
* `Property.locate`, `Service.value_locate`: host paths are resolved property by property;
* `Context.podStage_default_iff`, `Context.mainStage_default_iff`: the two stages without templates;
* `Service.SplitsInto`, `Service.SplitsInto.definition_main`: what becomes of the properties;
* **`Project.transform_splits`**: a service is split into the controller and the main component.
-/

namespace ComposePods

open Mapping Source Source.Showing

/-! ## Properties in a definition -/

theorem Property.name_injective : Function.Injective Property.name := fun p q h =>
  Option.some.inj ((Service.ofName?_name p).symm.trans (h ▸ Service.ofName?_name q))

namespace Service

variable {s t : Service}

theorem get?_filterMap_entry? (s : Service) (ps : List Property) (p : Property) :
    get? (ps.filterMap s.entry?) (.string p.name) =
      if p ∈ ps then p.kind.write (s.value p) else none := by
  induction ps with
  | nil => rfl
  | cons q ps ih =>
    rcases hw : q.kind.write (s.value q) with _ | w
    · rw [List.filterMap_cons_none (by unfold entry?; rw [hw]; rfl), ih]
      by_cases hp : p = q
      · subst hp
        simp [hw]
      · simp [hp]
    · rw [List.filterMap_cons_some (by unfold entry?; rw [hw]; rfl), get?, ih]
      by_cases hp : p = q
      · subst hp
        simp [hw, Value.same_self]
      · have hne : (Value.string q.name).same (.string p.name) = false := by
          rw [Bool.eq_false_iff, ne_eq, Value.same_string_iff, Value.string.injEq]
          exact fun h => hp (Property.name_injective h).symm
        simp [hne, hp]

/-- **A property is found under its name**, since no extension has its name. -/
theorem get?_definition (hs : s.Sound) (p : Property) :
    get? s.definition (.string p.name) = p.kind.write (s.value p) := by
  have hfurther : get? (s.extensions.entries.map fun e => (Value.string e.1, e.2))
      (.string p.name) = none := by
    have hcontains : ¬contains (s.extensions.entries.map fun e => (Value.string e.1, e.2))
        (.string p.name) = true := by
      rw [contains_iff]
      rintro ⟨e, he, hsame⟩
      obtain ⟨x, hx, rfl⟩ := List.mem_map.1 he
      rw [Value.same_string_iff, Value.string.injEq] at hsame
      have hname := hs.further x hx
      rw [hsame, ofName?_name] at hname
      cases hname
    simpa [contains] using hcontains
  rw [definition, get?_append, get?_filterMap_entry?, if_pos (Property.mem_all p), hfurther,
    Option.or_none]

end Service

/-! ## Properties that are carried over -/

namespace Fragment

theorem fill_eq_append {given target : Mapping} {keys : List String} (hkeys : keys.Nodup)
    (hnew : ∀ key ∈ keys, contains target (.string key) = false) :
    keys.foldl (fillKey given) target =
      target ++ keys.filterMap fun key => (get? given (.string key)).map fun v =>
        (.string key, v) := by
  induction keys generalizing target with
  | nil => simp
  | cons key keys ih =>
    rw [List.nodup_cons] at hkeys
    rw [List.forall_mem_cons] at hnew
    rw [List.foldl_cons, fillKey, if_neg (by rw [hnew.1]; exact Bool.false_ne_true)]
    rcases hv : get? given (.string key) with _ | v
    · rw [ih hkeys.2 hnew.2, List.filterMap_cons_none (by rw [hv]; rfl)]
    · have hrest : ∀ l ∈ keys, contains (insert target (.string key) v) (.string l) = false := by
        intro l hl
        have hne : (Value.string key).same (.string l) = false := by
          rw [Bool.eq_false_iff, ne_eq, Value.same_string_iff, Value.string.injEq]
          rintro rfl
          exact hkeys.1 hl
        rw [contains, get?_insert_of_ne _ _ hne]
        exact hnew.2 l hl
      rw [ih hkeys.2 hrest, insert_of_not_contains hnew.1,
        List.filterMap_cons_some (by rw [hv]; rfl), List.append_assoc]
      rfl

theorem fill_definition {s : Service} (hs : s.Sound) {ps : List Property} (hps : ps.Nodup) :
    (ps.map (·.name)).foldl (fillKey s.definition) [] = ps.filterMap s.entry? := by
  rw [fill_eq_append (hps.map Property.name_injective) fun _ _ => rfl, List.nil_append,
    List.filterMap_map]
  refine List.filterMap_congr fun p _ => ?_
  rw [Function.comp_apply, Service.get?_definition hs, Service.entry?]

end Fragment

namespace Service

variable {s t : Service}

/-- A service without a name that has some of the properties and no extensions. -/
def only (s : Service) (ps : List Property) : Service where
  name := ""
  value p := if p ∈ ps then s.value p else p.kind.unset
  extensions := .empty

/-- What the controller takes over of a service, and what the settings say of its image and its
volumes. -/
def standard (s : Service) (settings : Settings) : Service :=
  ((s.only KeySet.pod.properties).set .image (some settings.controllerImage)).set .volumes
    (settings.controllerVolumes.map .short)

theorem value_standard (s : Service) (settings : Settings) {p : Property} (himage : p ≠ .image)
    (hvolumes : p ≠ .volumes) :
    (s.standard settings).value p = if p ∈ KeySet.pod.properties then s.value p else p.kind.unset :=
  calc (s.standard settings).value p
    _ = ((s.only KeySet.pod.properties).set .image (some settings.controllerImage)).value p :=
      set_of_ne _ (p := .volumes) _ hvolumes
    _ = (s.only KeySet.pod.properties).value p := set_of_ne _ (p := .image) _ himage

theorem read_of_runs {fields : List (String × Option Value)} {d : Draft}
    (h : Runs (α := Value) readEntry fields ⟨empty "", [], []⟩ d) (hfurther : d.further = []) :
    Service.read (Value.record fields) = .ok { d.service with extensions := .empty } := by
  obtain ⟨ys, hys, hfold⟩ := foldlM_of_shows (x := Value.record fields) "struct ServiceConfig" rfl h
  refine read_ok_iff.2 ⟨ys, d, hys, hfold, by rw [hfurther]; exact nofun, ?_⟩
  rw [hfurther]
  rfl

theorem filterMap_entry?_eq_record (s : Service) (ps : List Property) :
    Value.mapping (ps.filterMap s.entry?) =
      .record (ps.map fun p => (p.name, p.kind.write (s.value p))) := by
  rw [Value.record, List.filterMap_map]
  rfl

theorem runs_only (hs : s.Sound) {ps : List Property} (hps : ps.Nodup) :
    ∃ d : Draft, Runs (α := Value) readEntry (ps.map fun p => (p.name, p.kind.write (s.value p)))
        ⟨empty "", [], []⟩ d ∧
      d.further = [] ∧ (∀ p ∈ d.met, p ∈ ps) ∧
      ({ d.service with extensions := .empty } : Service) = s.only ps := by
  obtain ⟨d, hruns, hfurther, hname, hmet, hvalue⟩ :=
    @runs_properties s Value _ _ hs ps ⟨empty "", [], []⟩ hps
    (fun _ _ => List.not_mem_nil) fun _ _ => rfl
  have hsame : d.service.value = (s.only ps).value := funext hvalue
  have hnamed : d.service.name = "" := hname
  refine ⟨d, hruns, hfurther, fun p hp => (hmet p hp).resolve_right List.not_mem_nil, ?_⟩
  simp only [hnamed, hsame, only]

/-- **Properties that are carried over are read again as they were.** -/
theorem read_only (hs : s.Sound) {ps : List Property} (hps : ps.Nodup) :
    Service.read (Value.mapping (ps.filterMap s.entry?)) = .ok (s.only ps) := by
  obtain ⟨d, hruns, hfurther, -, hd⟩ := runs_only hs hps
  rw [filterMap_entry?_eq_record, read_of_runs hruns hfurther, hd]

theorem runs_standard (settings : Settings) {d : Draft} (himage : .image ∉ d.met)
    (hvolumes : .volumes ∉ d.met) : ∃ e : Draft, Runs (α := Value) readEntry
        [("image", some (.string settings.controllerImage)),
          ("volumes", some (Value.strings settings.controllerVolumes))] d e ∧
      e.further = d.further ∧
      e.service = (d.service.set .image (some settings.controllerImage)).set .volumes
        (settings.controllerVolumes.map .short) := by
  let imaged : Draft :=
    { d with
      service := d.service.set .image (some settings.controllerImage)
      met := .image :: d.met }
  let mounted : Draft :=
    { imaged with
      service := imaged.service.set .volumes (settings.controllerVolumes.map .short)
      met := .volumes :: imaged.met }
  have hshort : Value.strings settings.controllerVolumes =
      .sequence ((settings.controllerVolumes.map Volume.short).map Volume.toValue) := by
    rw [List.map_map]
    rfl
  refine ⟨mounted, ⟨imaged, fun y hname hv => ?_, mounted, fun y hname hv => ?_, rfl⟩, rfl, rfl⟩
  · exact readEntry_ok_iff.2 ⟨_, name_of_shows hname,
      .inl ⟨.image, _, by decide, himage, optional_text_of_shows hv, rfl⟩⟩
  · rw [hshort] at hv
    have hread : Property.volumes.kind.read y.2 = .ok (settings.controllerVolumes.map .short) :=
      listOf_of_shows hv fun v hv' y hy => by
        obtain ⟨text, -, rfl⟩ := List.mem_map.1 hv'
        exact readForm_of_shows hy (Volume.hasTag_toValue trivial) (Volume.read?_toValue trivial)
    have hmounted : Property.volumes ∉ imaged.met := by
      rw [List.mem_cons, not_or]
      exact ⟨by decide, hvolumes⟩
    exact readEntry_ok_iff.2 ⟨_, name_of_shows hname,
      .inl ⟨.volumes, _, by decide, hmounted, hread, rfl⟩⟩

/-- **What the controller takes over is read again** with what the settings say behind it. -/
theorem read_standard (hs : s.Sound) (settings : Settings) :
    Service.read (Value.mapping
        (KeySet.pod.properties.filterMap s.entry? ++ Controller.standardProperties settings)) =
      .ok (s.standard settings) := by
  have hnodup : KeySet.pod.properties.Nodup := by decide
  obtain ⟨d, hruns, hfurther, hmet, hd⟩ := runs_only hs hnodup
  obtain ⟨e, hstandard, hfurther', he⟩ := runs_standard settings
    (fun h => absurd (hmet _ h) (by decide)) (fun h => absurd (hmet _ h) (by decide))
  have hrecord : Value.mapping
      (KeySet.pod.properties.filterMap s.entry? ++ Controller.standardProperties settings) =
      .record ((KeySet.pod.properties.map fun p => (p.name, p.kind.write (s.value p))) ++
        [("image", some (.string settings.controllerImage)),
          ("volumes", some (Value.strings settings.controllerVolumes))]) := by
    rw [Value.record, List.filterMap_append, List.filterMap_map]
    rfl
  rw [hrecord, read_of_runs (hruns.append hstandard) (hfurther'.trans hfurther), he, standard, ← hd]
  rfl

end Service

/-! ## Host paths -/

/-- A property with its host paths resolved: only volumes, environment files and the build have
any. -/
def Property.locate (directory : String) : (p : Property) → p.Carrier → p.Carrier
  | .volumes, vs => vs.map (Volume.locate directory)
  | .envFile, files => files.map (·.map (Path.resolve directory))
  | .build, b => b.map (Build.locate directory)
  | _, v => v

namespace Property

variable (directory : String)

theorem locate_unset (p : Property) : p.locate directory p.kind.unset = p.kind.unset := by
  cases p <;> rfl

theorem locate_of_mem_pod {p : Property} (hp : p ∈ KeySet.pod.properties) (v : p.Carrier) :
    p.locate directory v = v := by
  have hne : ∀ q ∈ KeySet.pod.properties, q ≠ .volumes ∧ q ≠ .envFile ∧ q ≠ .build := by decide
  cases p with
  | volumes => exact absurd rfl (hne _ hp).1
  | envFile => exact absurd rfl (hne _ hp).2.1
  | build => exact absurd rfl (hne _ hp).2.2
  | _ => rfl

end Property

/-- **Host paths are resolved property by property.** -/
theorem Service.value_locate (s : Service) (directory : String) (p : Property) :
    (s.locate directory).value p = p.locate directory (s.value p) := by
  cases p <;> rfl

/-! ## Stages without templates -/

namespace Controller

variable {s : Service}

theorem podBody_nil (hs : s.Sound) (settings : Settings) :
    podBody settings s.definition [] =
      KeySet.pod.properties.filterMap s.entry? ++ standardProperties settings := by
  have hfill : KeySet.pod.keys.foldl (Fragment.fillKey s.definition) (mergeAll []) =
      KeySet.pod.properties.filterMap s.entry? := Fragment.fill_definition hs (by decide)
  have hnew (p : Property) (hp : p ∉ KeySet.pod.properties) :
      contains (KeySet.pod.properties.filterMap s.entry?) (.string p.name) = false := by
    rw [contains, s.get?_filterMap_entry?, if_neg hp]
    rfl
  have himage : contains (KeySet.pod.properties.filterMap s.entry?) (.string "image") = false :=
    hnew .image (by decide)
  have hvolumes : contains (KeySet.pod.properties.filterMap s.entry? ++
      [(.string "image", .string settings.controllerImage)]) (.string "volumes") = false := by
    rw [contains, get?_append, Option.isSome_or, Bool.or_eq_false_iff]
    exact ⟨hnew .volumes (by decide), rfl⟩
  rw [podBody, hfill, standardProperties, merge_cons_of_plain himage fun _ => Value.noConfusion,
    merge_cons_of_plain hvolumes fun _ => Value.noConfusion, merge, List.append_assoc]
  rfl

theorem mainBody_empty (hs : s.Sound) :
    mainBody s.definition [[]] = KeySet.transformer.properties.filterMap s.entry? :=
  Fragment.fill_definition hs (by decide)

end Controller

namespace Context

open Controller

variable [Markup.Machine] {c : Context} {settings : Settings}

/-- **The controller without pod templates** is made of a service with a name. It has what it takes
over and what the settings say. -/
theorem podStage_default_iff {t : Service} (hs : c.service.Sound) (hpod : c.templates.pod = []) :
    c.podStage settings = .ok t ↔ Service.isName c.service.name = true ∧
      t = .locate c.directory { c.service.standard settings with name := c.service.name } := by
  have hnone : c.templates.pod.mapM (c.render .pod) =
      .ok (([] : List (Value × Mapping)).map fun r => rooted r.1 r.2) := by
    rw [hpod]
    rfl
  have hread := Service.read_standard hs settings
  rw [← podBody_nil hs] at hread
  rw [podStage_of_scalars settings hnone (List.forall_mem_nil _), report, mapError_ok_iff, rooted,
    single_definitions, Definitions.ofEntry_mapping_ok_iff]
  constructor
  · rintro ⟨hname, u, hu, -, rfl⟩
    obtain rfl := Except.ok.inj (hread.symm.trans hu)
    exact ⟨hname, rfl⟩
  · rintro ⟨hname, rfl⟩
    exact ⟨hname, _, hread, rfl, rfl⟩

omit [Markup.Machine] in
theorem transformersOf_nil (htransformer : c.templates.transformer = []) :
    transformersOf c.templates = [defaultTransformer] := by
  rw [transformersOf, htransformer]
  rfl

theorem render_of_mainStage {main : String × String} (hvalid : c.service.Valid)
    (hname : Service.isName c.service.name = true) (htransformer : c.templates.transformer = [])
    (h : c.mainStage = .ok main) :
    c.render .transformer defaultTransformer = .ok (rooted (.string c.service.name) []) := by
  simp only [mainStage, transformersOf_nil htransformer, bind_ok_iff, mapM_ok_iff] at h
  obtain ⟨fragments, hfragments, -⟩ := h
  obtain ⟨f, -, hf, -, -⟩ := List.forall₂_cons_left_iff.1 hfragments
  obtain ⟨fragment, hfragment, -⟩ := bind_ok_iff.1 hf
  rcases hdata : c.data? defaultTransformer with _ | data
  · rw [render, hdata] at hfragment
    cases hfragment
  · rw [render_default hname hvalid hdata] at hfragment ⊢
    split at hfragment
    · rename_i hreach
      rw [if_pos hreach]
    · cases hfragment

/-- **The main component of the default transformer** is named like the service and has what it
takes over. -/
theorem mainStage_default_iff {main : String × String} (hs : c.service.Sound)
    (hname : Service.isName c.service.name = true) (htransformer : c.templates.transformer = [])
    (hrender : c.render .transformer defaultTransformer =
      .ok (rooted (.string c.service.name) [])) :
    c.mainStage = .ok main ↔ main.1 = c.service.name ∧
      serviceText ((c.service.only KeySet.transformer.properties).locate c.directory) =
        .ok main.2 := by
  have hroots : (transformersOf c.templates).mapM (c.render .transformer) =
      .ok ([(.string c.service.name, [])].map fun r => rooted r.1 r.2) := by
    rw [transformersOf_nil htransformer, mapM_ok_iff]
    exact .cons hrender .nil
  obtain ⟨component, hcomponent, hstage⟩ :=
    mainStage_of_scalars hroots (List.forall_mem_cons.2 ⟨⟨_, rfl⟩, List.forall_mem_nil _⟩)
  obtain rfl : c.service.name = component := Except.ok.inj hcomponent
  have hnodup : KeySet.transformer.properties.Nodup := by decide
  have hread := Service.read_only hs hnodup
  rw [← mainBody_empty hs] at hread
  rw [hstage]
  refine component_ok_iff.trans ?_
  simp only [Definitions.ofEntry_mapping_ok_iff]
  constructor
  · rintro ⟨s, ⟨-, u, hu, -, rfl⟩, hmain, htext⟩
    obtain rfl := Except.ok.inj (hread.symm.trans hu)
    exact ⟨hmain, htext⟩
  · rintro ⟨hmain, htext⟩
    exact ⟨_, ⟨hname, _, hread, rfl, rfl⟩, hmain, htext⟩

end Context

/-! ## The split -/

/-- What becomes of the properties of a service that is split into a controller and a main
component. -/
structure Service.SplitsInto (s c m : Service) (settings : Settings) (directory : String) :
    Prop where
  /-- What the controller takes over is as it was, but for labels that are attached. -/
  pod : ∀ p ∈ KeySet.pod.properties, (p ≠ .labels → c.value p = s.value p) ∧
    m.value p = p.kind.unset
  labels : ∀ k v, s.labels.get? k = some v → c.labels.get? k = some v
  /-- What the main component takes over is as it was, but for host paths that are resolved. -/
  transformer : ∀ p ∈ KeySet.transformer.properties, m.value p = (s.locate directory).value p ∧
    (p ≠ .image → p ≠ .volumes → c.value p = p.kind.unset)
  image : c.image = some settings.controllerImage
  volumes : c.volumes = settings.controllerVolumes.map fun v => (Volume.short v).locate directory
  others : ∀ p, p ∉ KeySet.pod.properties → p ∉ KeySet.transformer.properties →
    c.value p = p.kind.unset ∧ m.value p = p.kind.unset
  extensions : c.extensions = .empty ∧ m.extensions = .empty

namespace Service

variable {s : Service}

theorem value_only_locate (s : Service) (ps : List Property) (directory : String) (p : Property) :
    ((s.only ps).locate directory).value p =
      if p ∈ ps then (s.locate directory).value p else p.kind.unset := by
  rw [value_locate, only]
  dsimp only
  split
  · rw [value_locate]
  · exact p.locate_unset directory

theorem value_withLabels (s : Service) (d : Dict String) {p : Property} (hp : p ≠ .labels) :
    (s.withLabels d).value p = s.value p :=
  set_of_ne s (p := .labels) d hp

theorem splitsInto_of_only (s : Service) (settings : Settings) (directory name : String)
    {d : Dict String} (hd : ∀ k v, s.labels.get? k = some v → d.get? k = some v) :
    s.SplitsInto ((Service.locate directory { s.standard settings with name }).withLabels d)
      ((s.only KeySet.transformer.properties).locate directory) settings directory := by
  have hlocated (p : Property) (hlabels : p ≠ .labels) :
      ((Service.locate directory { s.standard settings with name }).withLabels d).value p =
        p.locate directory ((s.standard settings).value p) :=
    (value_withLabels _ d hlabels).trans (value_locate _ directory p)
  have hvalue (p : Property) (hlabels : p ≠ .labels) (himage : p ≠ .image)
    (hvolumes : p ≠ .volumes) :
      ((Service.locate directory { s.standard settings with name }).withLabels d).value p =
        if p ∈ KeySet.pod.properties then s.value p else p.kind.unset := by
    rw [hlocated p hlabels, value_standard s settings himage hvolumes]
    split
    · rename_i hp
      exact p.locate_of_mem_pod directory hp _
    · exact p.locate_unset directory
  -- No property is in both sets, and what the settings say is about properties of the main
  -- component.
  have hpod : ∀ p ∈ KeySet.pod.properties,
      p ∉ KeySet.transformer.properties ∧ p ≠ .image ∧ p ≠ .volumes := by decide
  have htransformer : ∀ p ∈ KeySet.transformer.properties,
      p ∉ KeySet.pod.properties ∧ p ≠ .labels := by decide
  refine ⟨fun p hp => ⟨fun hlabels => ?_, ?_⟩, ?_,
    fun p hp => ⟨?_, fun himage hvolumes => ?_⟩, ?_, ?_, fun p hp hp' => ⟨?_, ?_⟩, rfl, rfl⟩
  · rw [hvalue p hlabels (hpod p hp).2.1 (hpod p hp).2.2, if_pos hp]
  · rw [value_only_locate, if_neg (hpod p hp).1]
  · rw [labels_withLabels]
    exact hd
  · rw [value_only_locate, if_pos hp]
  · rw [hvalue p (htransformer p hp).2 himage hvolumes, if_neg (htransformer p hp).1]
  · exact hlocated .image (by decide)
  · refine (hlocated .volumes (by decide)).trans ?_
    change (settings.controllerVolumes.map Volume.short).map (Volume.locate directory) = _
    rw [List.map_map]
    rfl
  · have hne : p ≠ .labels ∧ p ≠ .image ∧ p ≠ .volumes :=
      ⟨fun h => hp (h ▸ by decide), fun h => hp' (h ▸ by decide), fun h => hp' (h ▸ by decide)⟩
    rw [hvalue p hne.1 hne.2.1 hne.2.2, if_neg hp]
  · rw [value_only_locate, if_neg hp']

theorem SplitsInto.definition_main {c m : Service} {settings : Settings} {directory : String}
    (h : s.SplitsInto c m settings directory) :
    m.definition = ((s.only KeySet.transformer.properties).locate directory).definition := by
  have hpod : ∀ p ∈ KeySet.pod.properties, p ∉ KeySet.transformer.properties := by decide
  have hvalue (p : Property) :
      m.value p = ((s.only KeySet.transformer.properties).locate directory).value p := by
    rw [value_only_locate]
    by_cases htransformer : p ∈ KeySet.transformer.properties
    · rw [if_pos htransformer, (h.transformer p htransformer).1]
    · rw [if_neg htransformer]
      by_cases hp : p ∈ KeySet.pod.properties
      · exact (h.pod p hp).2
      · exact (h.others p hp htransformer).2
  have hentry : m.entry? = Service.entry?
      ((s.only KeySet.transformer.properties).locate directory) := by
    funext p
    unfold entry?
    rw [hvalue]
  rw [definition, definition, hentry, h.extensions.2]
  rfl

end Service

/-- **The default split.** Without pod and transformer templates, a service of a project that has
been read is replaced by a controller with a label for the main component, named like the service.
Its text is read as the main component, if document values survive writing and reading, and every
property of the service is in the one, in the other or in none of both as the sets of properties
say. -/
theorem Project.transform_splits [Markup.Machine] {text : String} {p q : Project} {s : Service}
    {settings : Settings} {directory : String} {templates : Templates} (hp : ofText text = .ok p)
    (hs : s ∈ p.services) (hpod : templates.pod = []) (htransformer : templates.transformer = [])
    (h : p.transform settings directory s.name templates = .ok q) :
    ∃ c m out, q.service? s.name = some c ∧
      c.labels.get? (settings.componentLabel s.name) = some out ∧
      Controller.serviceText m = .ok out ∧
      (Yaml.Survives (.mapping m.definition) → Service.ofText out = .ok m) ∧
      s.SplitsInto c m settings directory := by
  obtain ⟨hsound, hvalid⟩ := (sound_of_read (Document.read_ok_iff.1 hp).1).services s hs
  obtain ⟨i, hi⟩ := List.mem_iff_getElem?.1 hs
  obtain ⟨s', c, hs', hc, hcontroller⟩ := service?_of_transform h
  obtain rfl : s = s' := Option.some.inj (((listed_of_ofText hp).service?_eq hi).symm.trans hs')
  obtain ⟨o, ho, hnd, rfl⟩ := Context.controller_ok_iff.1 hcontroller
  obtain ⟨hname, hpodStage⟩ := (Context.podStage_default_iff hsound hpod).1 ho.pod
  have hrender := Context.render_of_mainStage (show s.Valid from hvalid) hname htransformer ho.main
  obtain ⟨hmain, htext⟩ :=
    (Context.mainStage_default_iff hsound hname htransformer hrender).1 ho.main
  change o.main.1 = s.name at hmain
  have hnodup : KeySet.transformer.properties.Nodup := by decide
  have hread := Service.read_only hsound hnodup
  have hsoundMain := (Service.sound_of_read hread).locate directory
  refine ⟨_, (s.only KeySet.transformer.properties).locate directory, o.main.2, hc, ?_, htext,
    fun hsurvives => ?_, ?_⟩
  · rw [← hmain]
    exact Stages.get?_labels hnd (List.mem_append_right _ List.mem_cons_self)
  · obtain ⟨out, hout, hback⟩ := hsoundMain.readBack.text hsurvives
    obtain rfl : o.main.2 = out := Except.ok.inj (htext.symm.trans hout)
    exact hback
  · have hlabels : ∀ k v, s.labels.get? k = some v →
        (o.controller.labels.insertAll (o.added settings)).get? k = some v := by
      intro k v hk
      rw [← Service.labels_withLabels o.controller
        (o.controller.labels.insertAll (o.added settings))]
      refine Stages.get?_labels (l := (k, v)) hnd (List.mem_append_left _ ?_)
      rw [Dict.mem_entries_iff, hpodStage]
      exact hk
    rw [hpodStage] at hlabels ⊢
    exact s.splitsInto_of_only settings directory _ hlabels

/-- A service with a policy for its controller, an image and a host path for its main component, and
a size that is in neither. -/
theorem Project.transform_splits_web :
    let text :=
      "services: \x7bweb: \x7bimage: nginx, restart: always, shm_size: 64, volumes: ['./d:/d']\x7d\x7d"
    ∃ p q s c m out, ofText text = .ok p ∧ s ∈ p.services ∧
      p.transform .standard "/work" s.name .empty = .ok q ∧ q.service? "web" = some c ∧
      c.labels.get? "pod.component.web" = some out ∧ Service.ofText out = .ok m ∧
      c.value .restart = some "always" ∧ m.value .restart = none ∧
      c.image = some "rycus86/podlike" ∧ m.image = some "nginx" ∧
      c.volumes = [.short "/var/run/docker.sock:/var/run/docker.sock"] ∧
      m.volumes = [.short "/work/d:/d"] ∧
      c.value .shmSize = none ∧ m.value .shmSize = none := by
  intro text
  let web : Service :=
    ((((Service.empty "web").set .image (some "nginx")).set .restart (some "always")).set .shmSize
      (some (.number 64))).set .volumes [.short "./d:/d"]
  have hrun : (ofText text).toOption.map (fun p => (p.services,
      ((p.transform .standard "/work" web.name .empty).toOption.isSome))) = some ([web], true) := by
    decide +kernel
  obtain ⟨p, hp, hrun⟩ := Option.map_eq_some_iff.1 hrun
  obtain ⟨hservices, hrun⟩ := Prod.mk.inj hrun
  obtain ⟨q, hq⟩ := Option.isSome_iff_exists.1 hrun
  have hp := toOption_some_iff.1 hp
  have hq := toOption_some_iff.1 hq
  have hs : web ∈ p.services := hservices ▸ List.mem_singleton_self web
  obtain ⟨c, m, out, hc, hout, -, hback, hsplit⟩ := transform_splits hp hs rfl rfl hq
  have hsurvives : Yaml.Survives (.mapping m.definition) := by
    let main : Mapping :=
      [(.string "image", .string "nginx"), (.string "volumes", .sequence [.string "/work/d:/d"])]
    have hmain : m.definition = main := hsplit.definition_main.trans (by decide +kernel)
    have hcheck : (Yaml.write? (.mapping main)).any (fun out =>
        (Yaml.read out).toOption = some (.mapping main) ∧
          (Document.ofText out).root.isOrdinary = true) = true := by decide +kernel
    obtain ⟨out, hwrite, hcheck⟩ := (Option.any_eq_true _ _).1 hcheck
    obtain ⟨hread, hordinary⟩ := of_decide_eq_true hcheck
    rw [hmain]
    exact ⟨out, hwrite, toOption_some_iff.1 hread, hordinary⟩
  obtain ⟨hpod, -, htransformer, himage, hvolumes, hothers, -⟩ := hsplit
  have hrestart := hpod .restart (by decide)
  have hsize := hothers .shmSize (by decide) (by decide)
  have hmounted : m.volumes = [Volume.short "./d:/d"].map (Volume.locate "/work") :=
    (htransformer .volumes (by decide)).1
  refine ⟨p, q, web, c, m, out, hp, hs, hq, hc, hout, hback hsurvives, hrestart.1 (by decide),
    hrestart.2, himage, (htransformer .image (by decide)).1, hvolumes.trans (by decide +kernel),
    hmounted.trans (by decide +kernel), hsize.1, hsize.2⟩

end ComposePods

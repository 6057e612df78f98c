import ComposePods.Proofs.Run
import ComposePods.Proofs.Services

/-!
# Projects read back

A project is written as a mapping of the properties that are set, of its services under their names,
and of its extensions. What has been written is read back as the same project, if the project is
such as projects that have been read are.

* `Project.Sound`: services, properties and extensions such as they are read;
* **`Project.sound_of_read`**: a project that is read is sound;
* **`Project.read_of_shows`**: a sound project is read back.
-/

namespace ComposePods

namespace Project

open Source Source.Showing

variable {p : Project}

/-- The services, properties and extensions of a project are such as they are read. -/
structure Sound (p : Project) : Prop where
  listed : p.Listed
  services : ∀ s ∈ p.services, s.Sound ∧ s.unsupported = []
  networks : ∀ m ∈ p.networks, m.Distinct
  volumes : ∀ m ∈ p.volumes, m.Distinct
  secrets : ∀ m ∈ p.secrets, m.Distinct
  configs : ∀ m ∈ p.configs, m.Distinct
  further : ∀ e ∈ p.extensions.entries, Service.isExtension e.1 = true
  hasTag : ∀ e ∈ p.extensions.entries, e.2.hasTag = false
  keysDistinct : ∀ e ∈ p.extensions.entries, e.2.keysDistinct = true

variable {α : Type} [Source α] [Showing α] {x : α}

/-! ## Sound projects -/

/-- What has been read of a project is sound. -/
structure Draft.Sound (d : Draft) : Prop where
  services : ∀ e ∈ d.services.entries, ∀ s ∈ e.2, s.Sound
  networks : ∀ m ∈ d.networks, m.Distinct
  volumes : ∀ m ∈ d.volumes, m.Distinct
  secrets : ∀ m ∈ d.secrets, m.Distinct
  configs : ∀ m ∈ d.configs, m.Distinct
  hasTag : ∀ e ∈ d.further, e.2.hasTag = false

theorem exists_read_of_readServices {α : Type} [Source α] {x : α} {d : Dict (Option Service)}
    (h : readServices x = .ok d) : ∀ e ∈ d.entries, ∀ s ∈ e.2, ∃ y : α, Service.read y = .ok s := by
  rw [readServices, bind_ok_iff] at h
  obtain ⟨ys, -, h⟩ := h
  refine foldlM_preserves
    (P := fun d : Dict (Option Service) => ∀ e ∈ d.entries, ∀ s ∈ e.2, ∃ y : α,
      Service.read y = .ok s)
    (fun d y _ next hd hnext => ?_) (fun e he => by cases he) h
  simp only [readServiceEntry, bind_ok_iff, pure_ok_iff] at hnext
  obtain ⟨name, -, o, ho, rfl⟩ := hnext
  intro e he s hs
  rcases Dict.mem_insertEntry he with rfl | he
  · exact ⟨_, of_optional ho s hs⟩
  · exact hd e he s hs

theorem sound_of_readServices {d : Dict (Option Service)} (h : readServices x = .ok d) :
    ∀ e ∈ d.entries, ∀ s ∈ e.2, s.Sound := by
  intro e he s hs
  obtain ⟨y, hy⟩ := exists_read_of_readServices h e he s hs
  exact Service.sound_of_read hy

theorem distinct_of_optional {α : Type} [Source α] {x : α} {o : Option Mapping}
    (h : Source.optional readMapping x = .ok o) : ∀ m ∈ o, Mapping.Distinct m :=
  fun m hm => distinct_of_readMapping (of_optional h m hm)

theorem Draft.Sound.readEntry {d next : Draft} {y : α × α} (hd : d.Sound)
    (h : Project.readEntry d y = .ok next) : next.Sound := by
  simp only [Project.readEntry, bind_ok_iff] at h
  obtain ⟨name, -, h⟩ := h
  split at h
  · simp at h
  · split at h <;> simp only [bind_ok_iff, pure_ok_iff] at h
    · obtain ⟨version, -, rfl⟩ := h
      exact { hd with }
    · obtain ⟨services, hread, rfl⟩ := h
      exact { hd with services := sound_of_readServices hread }
    · obtain ⟨networks, hread, rfl⟩ := h
      exact { hd with networks := distinct_of_optional hread }
    · obtain ⟨volumes, hread, rfl⟩ := h
      exact { hd with volumes := distinct_of_optional hread }
    · obtain ⟨secrets, hread, rfl⟩ := h
      exact { hd with secrets := distinct_of_optional hread }
    · obtain ⟨configs, hread, rfl⟩ := h
      exact { hd with configs := distinct_of_optional hread }
    · obtain ⟨v, hv, rfl⟩ := h
      refine { hd with hasTag := fun e he => ?_ }
      rcases List.mem_append.1 he with he | he
      · exact hd.hasTag e he
      · obtain rfl := List.mem_singleton.1 he
        exact hasTag_of_untaggedValue hv

theorem Draft.sound_empty : Draft.empty.Sound :=
  ⟨nofun, nofun, nofun, nofun, nofun, nofun⟩

theorem sound_of_named {es : List (String × Option Service)} {ss : List Service}
    (h : List.Forall₂ (fun e s => named e = .ok s) es ss) (hes : ∀ e ∈ es, ∀ s ∈ e.2, s.Sound) :
    ∀ s ∈ ss, s.Sound ∧ s.unsupported = [] := by
  induction h with
  | nil => nofun
  | @cons e s es ss he _ ih =>
    rw [List.forall_mem_cons] at hes
    refine List.forall_mem_cons.2 ⟨?_, ih hes.2⟩
    obtain ⟨rfl, hunsupported⟩ := named_ok_iff.1 he
    refine ⟨?_, hunsupported⟩
    obtain ⟨name, o⟩ := e
    cases o with
    | none => exact (Service.sound_empty "").withName name
    | some t => exact (hes.1 t rfl).withName name

/-- **A project that is read is sound.** -/
theorem sound_of_read (h : read x = .ok p) : p.Sound := by
  have hlisted := listed_of_read h
  obtain ⟨es, d, services, -, hd, hdistinct, hnames, hservices, rfl⟩ := read_ok_iff.1 h
  have hsound : d.Sound :=
    foldlM_preserves (fun _ _ _ _ => Draft.Sound.readEntry) Draft.sound_empty hd
  exact {
    listed := hlisted
    services := sound_of_named hservices hsound.services
    networks := hsound.networks
    volumes := hsound.volumes
    secrets := hsound.secrets
    configs := hsound.configs
    further := fun e he => hnames e.1 (List.mem_map_of_mem he)
    hasTag := fun e he => hsound.hasTag e (Dict.mem_entries_ofList he)
    keysDistinct := fun e he => hdistinct e (Dict.mem_entries_ofList he) }

/-! ## Reading back -/

/-- The fields of a project as it is written. -/
def writtenFields (p : Project) : List (String × Option Value) :=
  [("version", p.version.map .string), ("services", some p.servicesValue),
    ("networks", p.networks.map .mapping), ("volumes", p.volumes.map .mapping),
    ("secrets", p.secrets.map .mapping), ("configs", p.configs.map .mapping)] ++
    p.extensions.entries.map fun e => (e.1, some e.2)

theorem definition_eq (p : Project) : Value.mapping p.definition = .record p.writtenFields := by
  have hcons (f : String × Option Value) (fs : List (String × Option Value)) :
      (f :: fs).filterMap (fun f => f.2.map fun v => (Value.string f.1, v)) =
        (f.2.map fun v => (Value.string f.1, v)).toList ++
          fs.filterMap fun f => f.2.map fun v => (Value.string f.1, v) := by
    rcases f with ⟨n, _ | v⟩ <;> rfl
  rw [Value.record, writtenFields, definition]
  simp only [List.cons_append, List.nil_append, hcons, List.append_assoc, List.filterMap_map]
  congr 7
  exact congrFun List.filterMap_eq_map.symm p.extensions.entries

theorem runs_services {ss : List Service} {d : Dict (Option Service)} (hss : ∀ s ∈ ss, s.Sound) :
    Runs (α := α) readServiceEntry (ss.map fun s => (s.name, some (.mapping s.definition))) d
      (d.insertAll (ss.map fun s => (s.name, some { s with name := "" }))) := by
  induction ss generalizing d with
  | nil => rfl
  | cons s ss ih =>
    rw [List.forall_mem_cons] at hss
    refine ⟨d.insert s.name (some { s with name := "" }), fun y hname hv => ?_, ih hss.2⟩
    have hread := optional_of_shows hv nofun (Service.read_of_shows hss.1 hv)
    simp [readServiceEntry, text_of_shows hname, hread]

theorem readServices_of_shows (hp : p.Sound) (h : Shows x p.servicesValue) :
    readServices x =
    .ok (.ofList (p.services.map fun s => (s.name, some { s with name := "" }))) := by
  have hrecord : p.servicesValue =
      .record (p.services.map fun s => (s.name, some (.mapping s.definition))) := by
    rw [hp.listed.servicesValue_eq, Value.record, List.filterMap_map]
    exact congrArg Value.mapping (congrFun List.filterMap_eq_map.symm p.services)
  obtain ⟨ys, hys, hfold⟩ := foldlM_of_shows "a map" (hrecord ▸ h)
    (@runs_services α _ _ p.services .empty fun s hs => (hp.services s hs).1)
  rw [readServices, hys]
  exact hfold

theorem readVersion_of_shows {s : String} (h : Shows x (.string s)) :
    readVersion x = .ok (some s) := by
  rw [readVersion, value_of_shows h]
  rfl

theorem optional_mapping_of_shows {m : Mapping} (hm : m.Distinct) (h : Shows x (.mapping m)) :
    Source.optional readMapping x = .ok (some m) :=
  optional_of_shows h nofun (readMapping_of_shows h hm)

/-- What has been read, with a name that is met if there is something under it. -/
def Draft.meets {β : Type} (d : Draft) (name : String) (o : Option β) : Draft :=
  { d with met := (o.map fun _ => name).toList ++ d.met }

theorem Draft.met_meets {β : Type} {P : String → Prop} {d : Draft} {name : String} (o : Option β)
    (hname : P name) (hd : ∀ n ∈ d.met, P n) : ∀ n ∈ (d.meets name o).met, P n := by
  intro n hn
  rcases List.mem_append.1 hn with hn | hn
  · obtain ⟨_, -, rfl⟩ := Option.map_eq_some_iff.1 (Option.mem_toList.1 hn)
    exact hname
  · exact hd n hn

/-- **The properties of a project** are read one after the other. -/
theorem runs_properties (hp : p.Sound) :
    ∃ d : Draft, (∀ name ∈ d.met, name ∈ fields) ∧ d.further = [] ∧
      Runs (α := α) readEntry
        [("version", p.version.map .string), ("services", some p.servicesValue),
          ("networks", p.networks.map .mapping), ("volumes", p.volumes.map .mapping),
          ("secrets", p.secrets.map .mapping), ("configs", p.configs.map .mapping)] .empty d ∧
      d.services = .ofList (p.services.map fun s => (s.name, some { s with name := "" })) ∧
      d.version = p.version ∧ d.networks = p.networks ∧ d.volumes = p.volumes ∧
      d.secrets = p.secrets ∧ d.configs = p.configs := by
  let services := Dict.ofList (p.services.map fun s => (s.name, some { s with name := "" }))
  let version := fun o => Draft.meets { Draft.empty with version := o } "version" o
  let d : Draft := { version p.version with services, met := "services" :: (version p.version).met }
  let networks := fun o => Draft.meets { d with networks := o } "networks" o
  let volumes := fun o => Draft.meets { networks p.networks with volumes := o } "volumes" o
  let secrets := fun o => Draft.meets { volumes p.volumes with secrets := o } "secrets" o
  let configs := fun o => Draft.meets { secrets p.secrets with configs := o } "configs" o
  refine ⟨configs p.configs, ?_, rfl, ?_, rfl, rfl, rfl, rfl, rfl, rfl⟩
  · have hversion : ∀ n ∈ (version p.version).met, n ∈ fields := Draft.met_meets _ (by decide) nofun
    have hservices : ∀ n ∈ d.met, n ∈ fields := List.forall_mem_cons.2 ⟨by decide, hversion⟩
    have hnetworks : ∀ n ∈ (networks p.networks).met, n ∈ fields :=
      Draft.met_meets _ (by decide) hservices
    have hvolumes : ∀ n ∈ (volumes p.volumes).met, n ∈ fields :=
      Draft.met_meets _ (by decide) hnetworks
    have hsecrets : ∀ n ∈ (secrets p.secrets).met, n ∈ fields :=
      Draft.met_meets _ (by decide) hvolumes
    exact Draft.met_meets _ (by decide) hsecrets
  · refine Runs.field version rfl (fun s _ y hn hy => ?_) ?_
    · simp [readEntry, name_of_shows hn, readVersion_of_shows hy, version, Draft.meets, Draft.empty]
    refine ⟨d, fun y hn hy => ?_, ?_⟩
    · simp [readEntry, name_of_shows hn, readServices_of_shows hp hy, d, version,
        Draft.meets, services, Draft.empty]
    refine Runs.field networks rfl (fun m hm y hn hy => ?_) ?_
    · have hread := optional_mapping_of_shows (hp.networks m hm) hy
      simp [readEntry, name_of_shows hn, hread, networks, d, version, Draft.meets, Draft.empty]
    refine Runs.field volumes rfl (fun m hm y hn hy => ?_) ?_
    · have hread := optional_mapping_of_shows (hp.volumes m hm) hy
      simp [readEntry, name_of_shows hn, hread, volumes, networks, d, version,
        Draft.meets, Draft.empty]
    refine Runs.field secrets rfl (fun m hm y hn hy => ?_) ?_
    · have hread := optional_mapping_of_shows (hp.secrets m hm) hy
      simp [readEntry, name_of_shows hn, hread, secrets, volumes, networks, d, version, Draft.meets,
        Draft.empty]
    refine Runs.field configs rfl (fun m hm y hn hy => ?_) rfl
    have hread := optional_mapping_of_shows (hp.configs m hm) hy
    simp [readEntry, name_of_shows hn, hread, configs, secrets, volumes, networks, d,
      version, Draft.meets, Draft.empty]

theorem runs_further {es : List (String × Value)} {d : Draft}
    (hnames : ∀ e ∈ es, Service.isExtension e.1 = true) (htags : ∀ e ∈ es, e.2.hasTag = false)
    (hmet : ∀ name ∈ d.met, name ∈ fields) :
    Runs (α := α) readEntry (es.map fun e => (e.1, some e.2)) d
      { d with further := d.further ++ es } := by
  -- No property has the name of an extension.
  have hfields : ∀ name ∈ fields, Service.isExtension name = false := by decide
  induction es generalizing d with
  | nil => simp [Runs]
  | cons e es ih =>
    rw [List.forall_mem_cons] at hnames htags
    have hrest := @ih { d with further := d.further ++ [e] } hnames.2 htags.2 hmet
    refine ⟨{ d with further := d.further ++ [e] }, fun y hname hv => ?_, by simpa using hrest⟩
    have hproperty : e.1 ∉ fields := fun hmem => by simp [hfields e.1 hmem] at hnames
    rw [readEntry, name_of_shows hname]
    change (if e.1 ∈ d.met then _ else _) = _
    rw [if_neg fun hmem => hproperty (hmet e.1 hmem)]
    simp only [fields, List.mem_cons, not_or] at hproperty
    split
    · exact absurd ‹_› hproperty.1
    · exact absurd ‹_› hproperty.2.1
    · exact absurd ‹_› hproperty.2.2.1
    · exact absurd ‹_› hproperty.2.2.2.1
    · exact absurd ‹_› hproperty.2.2.2.2.1
    · exact absurd ‹_› hproperty.2.2.2.2.2.1
    · simp [untaggedValue_of_shows hv htags.1]

/-- **A sound project is read back**, from every source in which it is seen. -/
theorem read_of_shows (hp : p.Sound) (h : Shows x (.mapping p.definition)) : read x = .ok p := by
  obtain ⟨d, hmet, hfurther, hruns, hservices, hversion, hnetworks, hvolumes, hsecrets, hconfigs⟩ :=
    runs_properties (α := α) hp
  have hruns := hruns.append (runs_further hp.further hp.hasTag hmet)
  obtain ⟨ys, hys, hfold⟩ := foldlM_of_shows "struct ProjectDocument" (definition_eq p ▸ h) hruns
  rw [hfurther, List.nil_append] at hfold
  refine read_ok_iff.2 ⟨ys, _, p.services, hys, hfold, hp.keysDistinct, ?_, ?_, ?_⟩
  · rw [Dict.ofList_entries]
    intro name hname
    obtain ⟨e, he, rfl⟩ := List.mem_map.1 hname
    exact hp.further e he
  · have hentries := hp.listed.entries_ofList fun s : Service => some { s with name := "" }
    rw [hservices, hentries, List.forall₂_map_left_iff, List.forall₂_same]
    exact fun s hs => named_ok_iff.2 ⟨rfl, (hp.services s hs).2⟩
  · rw [Dict.ofList_entries, hversion, hnetworks, hvolumes, hsecrets, hconfigs]

end Project

end ComposePods

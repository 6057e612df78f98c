import ComposePods.Pod.Transform
import ComposePods.Proofs.Manifests
import ComposePods.Proofs.Rewritings

/-!
# Sessions of projects

The session of a project has the templates that the declarations of its services describe, and the
project without the extension that declares them. There is a session exactly if the settings are
acceptable and the declarations are in their places and in the grammar; it depends on neither the
order in which a declaration is written nor its place.

* `Project.Without`: a project with an extension taken out everywhere;
* `Session.Collected`, **`Session.ofProject_ok_iff`**, **`Session.ofProject_collects`**: the session
  of a project;
* `Session.ofProject_ok_congr`: how and where declarations are written does not matter;
* `Session.Accepts`, **`Session.ofProject_accepts_iff`**: the projects that have a session.
-/

namespace ComposePods

open Mapping

/-! ## Projects without an extension -/

namespace Project

variable {p q : Project} {key : String}

/-- The second project is the first one without an extension, at the top as well as in every
service. -/
structure Without (key : String) (p q : Project) : Prop where
  rest : q = { p with services := q.services, extensions := q.extensions }
  extensions : ∀ k, q.extensions.get? k = if k = key then none else p.extensions.get? k
  services : List.Forall₂ (fun s t : Service => t = { s with extensions := t.extensions } ∧
    ∀ k, t.extensions.get? k = if k = key then none else s.extensions.get? k) p.services q.services

theorem without_eraseExtension (key : String) (p : Project) :
    p.Without key (Session.eraseExtension key p) where
  rest := rfl
  extensions k := p.extensions.get?_erase key k
  services := List.forall₂_map_right_iff.2 <|
    List.forall₂_same.2 fun s _ => ⟨rfl, fun k => s.extensions.get?_erase key k⟩

theorem Without.eq (h : p.Without key q) : q = Session.eraseExtension key p := by
  have herase {a b : Dict Value} (hget : ∀ k, b.get? k = if k = key then none else a.get? k) :
      b = a.erase key := Dict.ext_get? fun k => by rw [hget, Dict.get?_erase]
  have hservices : q.services = p.services.map (Session.eraseFromService key) := by
    have hforall := h.services
    generalize p.services = ss, q.services = ts at hforall
    induction hforall with
    | nil => rfl
    | cons hst _ ih =>
      obtain ⟨ht, hget⟩ := hst
      rw [List.map_cons, ih, ht, herase hget]
      rfl
  rw [h.rest, hservices, herase h.extensions]
  rfl

theorem Sound.toKeysDistinct (hp : p.Sound) : p.KeysDistinct where
  extensions := hp.keysDistinct
  services s hs := (hp.services s hs).1.keysDistinct

end Project

namespace Session

variable {files : Files} {p : Project} {directory : String} {settings : Settings} {σ τ : Session}

/-! ## What a session collects -/

/-- The session is that of the project: the extension is taken out of the project, and every service
has the templates that its declarations describe, if there are any. -/
structure Collected (files : Files) (p : Project) (directory : String) (settings : Settings)
    (σ : Session) : Prop where
  project : p.Without settings.extensionKey σ.project
  configurations : ∀ name, ∃ t,
    Templates.Reads files directory name (p.declared settings.extensionKey name) t ∧
      σ.configurations.get? name = if t.isEmpty then none else some t
  directory : σ.directory = directory
  settings : σ.settings = settings

theorem Collected.unique (hσ : Collected files p directory settings σ)
    (hτ : Collected files p directory settings τ) : σ = τ := by
  obtain ⟨project, directory', configurations, settings'⟩ := σ
  obtain rfl : project = τ.project := hσ.project.eq.trans hτ.project.eq.symm
  obtain rfl : directory' = τ.directory := hσ.directory.trans hτ.directory.symm
  obtain rfl : settings' = τ.settings := hσ.settings.trans hτ.settings.symm
  obtain rfl : configurations = τ.configurations := Dict.ext_get? fun name => by
    obtain ⟨t, ht, hget⟩ := hσ.configurations name
    obtain ⟨u, hu, hget'⟩ := hτ.configurations name
    obtain rfl := ht.unique hu
    exact hget.trans hget'.symm
  rfl

/-- The templates of an entry join those that are there. -/
def readTemplates (files : Files) (directory : String) (σ : Session) (e : String × Mapping) :
    Except DeclarationError Session :=
  return σ.withTemplates e.1 (← Templates.ofDeclaration files directory e.1 e.2)

theorem ofProject_ok_iff_reads : ofProject files p directory settings = .ok σ ↔
    settings.check = .ok () ∧ ∃ d, declarations settings.extensionKey p = .ok d ∧
      d.entries.foldlM (readTemplates files directory)
        (new (eraseExtension settings.extensionKey p) directory settings) = .ok σ := by
  rw [ofProject]
  split
  · rename_i hcheck
    simp [hcheck]
  · rename_i hcheck
    rw [bind_ok_iff]
    simp only [hcheck, true_and]
    rfl

theorem exists_readTemplates_iff (σ : Session) (e : String × Mapping) :
    (∃ τ, readTemplates files directory σ e = .ok τ) ↔
      ∃ t, Templates.ofDeclaration files directory e.1 e.2 = .ok t := by
  simp only [readTemplates, bind_ok_iff, pure_ok_iff]
  constructor
  · rintro ⟨-, t, ht, -⟩
    exact ⟨t, ht⟩
  · rintro ⟨t, ht⟩
    exact ⟨_, t, ht, rfl⟩

theorem get?_withTemplates (σ : Session) (service name : String) (t : Templates) :
    (σ.withTemplates service t).configurations.get? name =
      if name = service then if t.isEmpty then σ.configurations.get? service else some t
      else σ.configurations.get? name := by
  unfold withTemplates
  by_cases hname : name = service
  · subst hname
    rw [if_pos rfl]
    split
    · rfl
    · rw [Dict.get?_insert, if_pos rfl]
  · rw [if_neg hname]
    split
    · rfl
    · rw [Dict.get?_insert, if_neg hname]

/-- All entries have their templates kept under their names, and nothing else changes. -/
structure Gathers (files : Files) (directory : String) (es : List (String × Mapping))
    (σ τ : Session) : Prop where
  rest : τ = { σ with configurations := τ.configurations }
  others : ∀ name ∉ es.map Prod.fst, τ.configurations.get? name = σ.configurations.get? name
  entries : ∀ e ∈ es, ∃ t, Templates.ofDeclaration files directory e.1 e.2 = .ok t ∧
    τ.configurations.get? e.1 = if t.isEmpty then σ.configurations.get? e.1 else some t

theorem gathers_of_foldlM {es : List (String × Mapping)} (hes : (es.map Prod.fst).Nodup)
    (h : es.foldlM (readTemplates files directory) σ = .ok τ) : Gathers files directory es σ τ := by
  induction es generalizing σ with
  | nil =>
    obtain rfl : σ = τ := pure_ok_iff.1 h
    exact ⟨rfl, fun _ _ => rfl, nofun⟩
  | cons e es ih =>
    rw [List.map_cons, List.nodup_cons] at hes
    rw [List.foldlM_cons, bind_ok_iff] at h
    obtain ⟨σ₁, hσ₁, h⟩ := h
    obtain ⟨t, ht, rfl⟩ : ∃ t, Templates.ofDeclaration files directory e.1 e.2 = .ok t ∧
        σ.withTemplates e.1 t = σ₁ := by simpa [readTemplates] using hσ₁
    have ih := ih hes.2 h
    refine ⟨?_, fun name hname => ?_, List.forall_mem_cons.2 ⟨⟨t, ht, ?_⟩, fun f hf => ?_⟩⟩
    · rw [ih.rest]
      unfold withTemplates
      split <;> rfl
    · obtain ⟨hne, hname⟩ := not_or.1 (mt List.mem_cons.2 hname)
      rw [ih.others name hname, get?_withTemplates, if_neg hne]
    · rw [ih.others e.1 hes.1, get?_withTemplates, if_pos rfl]
    · obtain ⟨u, hu, hget⟩ := ih.entries f hf
      have hne : f.1 ≠ e.1 := fun heq => hes.1 (heq ▸ List.mem_map_of_mem hf)
      exact ⟨u, hu, by rw [hget, get?_withTemplates, if_neg hne]⟩

theorem reads_none (files : Files) (directory service : String) :
    Templates.Reads files directory service (fun _ => none) .empty where
  keys := nofun
  args := rfl
  layers l := by cases l <;> exact .nil

theorem ofDeclaration_collected_iff (hp : p.KeysDistinct) {key : String} {d : Dict Mapping}
    (hd : declarations key p = .ok d) {name : String} {m : Mapping} (hm : d.get? name = some m)
    {t : Templates} : Templates.ofDeclaration files directory name m = .ok t ↔
      Templates.Reads files directory name (p.declared key name) t := by
  have hdistinct := keysDistinct_declarations hp hd name
  rw [hm, Option.getD_some] at hdistinct
  have hget : p.declared key name = get? m := by
    rw [← lookIn_declarations hp hd name]
    funext k
    rw [lookIn, hm]
    rfl
  rw [Templates.ofDeclaration_ok_iff hdistinct, hget]

theorem declared_of_get?_eq_none (hp : p.KeysDistinct) {key : String} {d : Dict Mapping}
    (hd : declarations key p = .ok d) {name : String} (hnone : d.get? name = none) :
    p.declared key name = fun _ => none := by
  rw [← lookIn_declarations hp hd name]
  funext k
  rw [lookIn, hnone]
  rfl

theorem collected_of_ofProject (hp : p.KeysDistinct)
    (h : ofProject files p directory settings = .ok σ) :
    Collected files p directory settings σ := by
  obtain ⟨-, d, hd, h⟩ := ofProject_ok_iff_reads.1 h
  have hgathers := gathers_of_foldlM d.keys_nodup h
  rw [hgathers.rest]
  refine ⟨p.without_eraseExtension _, fun name => ?_, rfl, rfl⟩
  cases hm : d.get? name with
  | none =>
    rw [declared_of_get?_eq_none hp hd hm]
    refine ⟨.empty, reads_none .., ?_⟩
    have hname : name ∉ d.entries.map Prod.fst := by
      intro hmem
      obtain ⟨m, hm'⟩ := Dict.mem_keys_iff.1 hmem
      rw [hm] at hm'
      cases hm'
    exact hgathers.others name hname
  | some m =>
    obtain ⟨t, ht, hget⟩ := hgathers.entries _ (Dict.mem_entries_iff.2 hm)
    exact ⟨t, (ofDeclaration_collected_iff hp hd hm).1 ht, hget⟩

theorem exists_ofProject_iff (hp : p.KeysDistinct) :
    (∃ σ, ofProject files p directory settings = .ok σ) ↔
    settings.check = .ok () ∧ p.Placed settings.extensionKey ∧
      ∀ name, ∃ t, Templates.Reads files directory name
        (p.declared settings.extensionKey name) t := by
  simp only [ofProject_ok_iff_reads, exists_and_left, ← exists_declarations_iff]
  refine and_congr_right fun _ => ?_
  constructor
  · rintro ⟨σ, d, hd, h⟩
    have hread := (exists_foldlM_ok_iff exists_readTemplates_iff).1 ⟨σ, h⟩
    refine ⟨⟨d, hd⟩, fun name => ?_⟩
    cases hm : d.get? name with
    | none =>
      rw [declared_of_get?_eq_none hp hd hm]
      exact ⟨_, reads_none ..⟩
    | some m =>
      obtain ⟨t, ht⟩ := hread _ (Dict.mem_entries_iff.2 hm)
      exact ⟨t, (ofDeclaration_collected_iff hp hd hm).1 ht⟩
  · rintro ⟨⟨d, hd⟩, hread⟩
    have hstep : ∀ e ∈ d.entries, ∃ t, Templates.ofDeclaration files directory e.1 e.2 = .ok t := by
      intro e he
      obtain ⟨t, ht⟩ := hread e.1
      exact ⟨t, (ofDeclaration_collected_iff hp hd (Dict.mem_entries_iff.1 he)).2 ht⟩
    obtain ⟨σ, hσ⟩ := (exists_foldlM_ok_iff exists_readTemplates_iff).2 hstep
    exact ⟨σ, d, hd, hσ⟩

/-- **The session of a project** is the one that collects its templates, if settings and places are
right. -/
theorem ofProject_ok_iff (hp : p.KeysDistinct) : ofProject files p directory settings = .ok σ ↔
    settings.check = .ok () ∧ p.Placed settings.extensionKey ∧
    Collected files p directory settings σ := by
  constructor
  · intro h
    obtain ⟨hcheck, hplaced, -⟩ := (exists_ofProject_iff hp).1 ⟨σ, h⟩
    exact ⟨hcheck, hplaced, collected_of_ofProject hp h⟩
  · rintro ⟨hcheck, hplaced, hσ⟩
    have hread (name : String) :
        ∃ t, Templates.Reads files directory name (p.declared settings.extensionKey name) t := by
      obtain ⟨t, ht, -⟩ := hσ.configurations name
      exact ⟨t, ht⟩
    obtain ⟨τ, hτ⟩ := (exists_ofProject_iff hp).2 ⟨hcheck, hplaced, hread⟩
    rw [hσ.unique (collected_of_ofProject hp hτ), hτ]

/-! ## The place and the order of declarations -/

theorem Collected.congr {q : Project} (hσ : Collected files p directory settings σ)
    (h : p.SameDeclarations settings.extensionKey q) : Collected files q directory settings σ where
  project := by
    rw [hσ.project.eq, h.rest]
    exact q.without_eraseExtension _
  configurations name := h.declared name ▸ hσ.configurations name
  directory := hσ.directory
  settings := hσ.settings

theorem ofProject_ok_congr {q : Project} (h : p.Rewritten settings.extensionKey q) :
    ofProject files p directory settings = .ok σ ↔
    ofProject files q directory settings = .ok σ := by
  induction h with
  | rel p q h =>
    obtain ⟨hp, hq, h⟩ := h
    have hsame := h.same hp
    rw [ofProject_ok_iff hp, ofProject_ok_iff hq, hsame.placed]
    refine and_congr_right fun _ => and_congr_right fun _ =>
      ⟨fun hσ => hσ.congr hsame, fun hσ => hσ.congr ?_⟩
    exact ⟨hsame.rest.symm, hsame.placed.symm, fun name => (hsame.declared name).symm⟩
  | refl p => exact Iff.rfl
  | symm p q _ ih => exact ih.symm
  | trans p q r _ _ hpq hqr => exact hpq.trans hqr

theorem declared_of_not_mem {key name : String} (hplaced : p.Placed key) (hname : name ∉ p.names) :
    p.declared key name = fun _ => none := by
  have htop : get? (p.topDeclarations key) (.string name) = none := by
    rw [get?_eq_none_iff]
    intro e he
    obtain ⟨⟨name', hname', heq⟩, -⟩ := hplaced.entries e he
    rw [heq, Value.same_string, decide_eq_false_iff_not]
    rintro rfl
    exact hname hname'
  have hown (s : Service) (hs : s ∈ p.services) (hsname : s.name = name) :
      s.extensions.get? key = none := absurd (List.mem_map.2 ⟨s, hs, hsname⟩) hname
  funext k
  rw [Project.declared, Project.ownDeclared_eq_none hown, Project.topDeclaration, htop]
  rfl

/-- **What the session of a project is.** It has the project without the extension, and the
templates that the declarations of its services describe, a service's own values before those of the
project. How and where they are written does not matter. -/
theorem ofProject_collects (hp : p.KeysDistinct) :
    (∀ s ∈ p.services, (∀ t ∈ p.services, t.name = s.name → t = s) → ∀ key k,
        p.declared key s.name k =
          (get? (s.ownDeclaration key) k).or (get? (p.topDeclaration key s.name) k)) ∧
      (∀ σ, ofProject files p directory settings = .ok σ →
        Collected files p directory settings σ ∧
        ∀ name ∉ p.names, σ.configurations.get? name = none) ∧
      ∀ q, p.Rewritten settings.extensionKey q → ∀ σ,
        ofProject files p directory settings = .ok σ ↔
        ofProject files q directory settings = .ok σ := by
  refine ⟨fun s hs hunique key k => ?_, fun σ h => ?_, fun q hq σ => ofProject_ok_congr hq⟩
  · rw [Project.declared, Project.ownDeclared_of_unique hs hunique]
  · obtain ⟨-, hplaced, hσ⟩ := (ofProject_ok_iff hp).1 h
    refine ⟨hσ, fun name hname => ?_⟩
    obtain ⟨t, ht, hget⟩ := hσ.configurations name
    rw [declared_of_not_mem hplaced hname] at ht
    rw [hget, ht.unique (reads_none ..)]
    rfl

/-- A service that is declared in the extension of the project, and the same service with the
declaration moved into its own extension. -/
theorem ofProject_collects_web :
    let declaration : Mapping :=
      [(.string "pod", .mapping [(.string "inline", .string "web: \x7b\x7d")]),
        (.string "copy", .null)]
    let web : Service := Service.empty "web"
    let p : Project := { Project.empty with
      services := [web]
      extensions := .ofList [("x-podlike", .mapping [(.string "web", .mapping declaration)])] }
    let q : Project := { Project.empty with
      services := [web.declare "x-podlike" (.mapping declaration)]
      extensions := .ofList [("x-podlike", .mapping [])] }
    p.KeysDistinct ∧ ∃ σ, ofProject ⟨[]⟩ p "/work" .standard = .ok σ ∧
      σ.configurations.get? "web" =
      some { Templates.empty with pod := [⟨"web.pod[0]", "web: \x7b\x7d", []⟩] } ∧
      Collected ⟨[]⟩ p "/work" .standard σ ∧ ofProject ⟨[]⟩ q "/work" .standard = .ok σ := by
  intro declaration web p q
  have hp : p.KeysDistinct := ⟨by decide +kernel, by decide +kernel⟩
  have hq : q.KeysDistinct := ⟨by decide +kernel, by decide +kernel⟩
  have hmoved : Project.Rewriting "x-podlike" p q := by
    let moved : Project :=
      { p with services := [] ++ web.declare "x-podlike" (.mapping declaration) :: [] }
    have hmoved : q = moved.declare "x-podlike" (.mapping ([] ++ [])) := by decide +kernel
    rw [hmoved]
    exact .move rfl (by decide +kernel) (by decide +kernel)
  obtain ⟨σ, hσ⟩ : ∃ σ, ofProject ⟨[]⟩ p "/work" .standard = .ok σ :=
    exists_ok_of_isOk (by decide +kernel)
  have hweb : (ofProject ⟨[]⟩ p "/work" .standard).toOption.bind (·.configurations.get? "web") =
      some { Templates.empty with pod := [⟨"web.pod[0]", "web: \x7b\x7d", []⟩] } := by
    decide +kernel
  rw [hσ] at hweb
  obtain ⟨-, hcollects, hrewritten⟩ := @ofProject_collects ⟨[]⟩ p "/work" .standard hp
  exact ⟨hp, σ, hσ, hweb, (hcollects σ hσ).1, (hrewritten q (.rel _ _ ⟨hp, hq, hmoved⟩) σ).1 hσ⟩

/-! ## The language of declarations -/

/-- The settings are acceptable, the declarations are in their places, and those of every service,
where its own values hide those of the project, are in the grammar. -/
structure Accepts (files : Files) (p : Project) (directory : String) (settings : Settings) :
    Prop where
  check : settings.check = .ok ()
  placed : p.Placed settings.extensionKey
  declarations : ∀ s ∈ p.services,
    Templates.IsDeclaration files directory (p.declared settings.extensionKey s.name)

/-- **What is accepted.** A project has a session exactly if its declarations are in the grammar;
where they are not, this is the error that is reported. -/
theorem ofProject_accepts_iff [Markup.Machine] (hp : p.KeysDistinct) :
    ((∃ σ, ofProject files p directory settings = .ok σ) ↔ Accepts files p directory settings) ∧
      (¬ Accepts files p directory settings → ∃ e, ofProject files p directory settings = .error e ∧
        ∀ text, Project.ofText text = .ok p →
          Project.transformText files text directory settings =
            .error (.error (.declaration e))) := by
  have hiff : (∃ σ, ofProject files p directory settings = .ok σ) ↔
      Accepts files p directory settings := by
    rw [exists_ofProject_iff hp]
    constructor
    · rintro ⟨hcheck, hplaced, hreads⟩
      exact ⟨hcheck, hplaced, fun s _ => Templates.exists_reads_iff.1 (hreads s.name)⟩
    · intro h
      refine ⟨h.check, h.placed, fun name => ?_⟩
      by_cases hname : name ∈ p.names
      · obtain ⟨s, hs, rfl⟩ := List.mem_map.1 hname
        exact Templates.exists_reads_iff.2 (h.declarations s hs)
      · rw [declared_of_not_mem h.placed hname]
        exact ⟨_, reads_none ..⟩
  refine ⟨hiff, fun hnot => ?_⟩
  cases h : ofProject files p directory settings with
  | ok σ => exact absurd (hiff.1 ⟨σ, h⟩) hnot
  | error e =>
    refine ⟨e, rfl, fun text htext => ?_⟩
    have hread : (Project.ofText text).mapError (fun e => Failure.error (.reading e)) = .ok p :=
      mapError_ok_iff.2 htext
    have hrefused : (ofProject files p directory settings).mapError
        (fun e => Failure.error (.declaration e)) = .error (.error (.declaration e)) :=
      mapError_error_iff.2 ⟨e, h, rfl⟩
    exact bind_error_iff.2 (.inr ⟨p, hread, bind_error_iff.2 (.inl hrefused)⟩)

/-- A layer of the project's declaration that no grammar allows does not matter where the service
has its own one; where it has none, the project is refused. -/
theorem ofProject_accepts_iff_hidden :
    let top : Value := .mapping [(.string "web", .mapping [(.string "copy", .bool true)])]
    let web : Service := Service.empty "web"
    let own : Service := web.declare "x-podlike" (.mapping [(.string "copy", .null)])
    let p : Project :=
      { Project.empty with services := [own], extensions := .ofList [("x-podlike", top)] }
    let q : Project :=
      { Project.empty with services := [web], extensions := .ofList [("x-podlike", top)] }
    (p.KeysDistinct ∧ Accepts ⟨[]⟩ p "/work" .standard) ∧
      q.KeysDistinct ∧ ¬ Accepts ⟨[]⟩ q "/work" .standard ∧
        ∃ e, ofProject ⟨[]⟩ q "/work" .standard = .error e := by
  intro top web own p q
  have hp : p.KeysDistinct := ⟨by decide +kernel, by decide +kernel⟩
  have hq : q.KeysDistinct := ⟨by decide +kernel, by decide +kernel⟩
  have hrefused : ¬ Accepts ⟨[]⟩ q "/work" .standard := by
    intro h
    obtain ⟨σ, hσ⟩ := (ofProject_accepts_iff hq).1.2 h
    have hfails : (ofProject ⟨[]⟩ q "/work" .standard).isOk = false := by decide +kernel
    rw [hσ] at hfails
    cases hfails
  obtain ⟨e, he, -⟩ := (ofProject_accepts_iff hq).2 hrefused
  exact ⟨⟨hp, (ofProject_accepts_iff hp).1.1 (exists_ok_of_isOk (by decide +kernel))⟩, hq,
    hrefused, e, he⟩

end Session

end ComposePods

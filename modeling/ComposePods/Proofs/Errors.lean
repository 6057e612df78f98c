import ComposePods.Proofs.Isolation
import ComposePods.Proofs.Provenance
import ComposePods.Proofs.Sessions

/-!
# Errors of a run

An error of a controller is about the fragments of one of its layers, about a label that is already
set, or about a text that cannot be written. The two layers that must give one definition cannot
give another number of them, since their trees have one root key each, whatever is rendered. A run
misses a service exactly if the project has no service of that name to begin with, so the session of
a project misses none.

* `PodError.OfFragments`, `PodError.OfSchema`: the errors about the fragments of a layer, and those
  about what a definition or a copy in them is;
* **`Controller.exists_podTree`**, **`Controller.exists_mainTree`**: trees with one root key;
* **`Context.raises_controller`**: all errors of a controller;
* `Project.transformAll_missing_iff`, `Session.transform_missing_iff`: the services that a run
  misses;
* `Session.names_of_ofProject`, `Session.configured`: the services for which there are templates;
* **`Session.unreachable_errors`**: the errors that no run ends with.
-/

namespace ComposePods

/-! ## Errors of steps -/

/-- An error about the fragments of a layer: a template gives none, it has not one root key, or a
definition or a copy in it is not acceptable. -/
inductive PodError.OfFragments (service : String) (layer : Layer) : PodError → Prop
  | render (template : String) (error : Markup.Error) :
      OfFragments service layer (.render service layer template error)
  | malformed (template : String) (error : FragmentError) :
      OfFragments service layer (.malformedFragment service layer template error)
  | rootKey (found : Nat) : OfFragments service layer (.rootKey service layer found)
  | schema (error : SchemaError) : OfFragments service layer (.schema service layer error)

/-- An error about a definition or a copy of a layer that is not acceptable. -/
def PodError.OfSchema (service : String) (layer : Layer) (e : PodError) : Prop :=
  ∃ error, e = .schema service layer error

/-- An error about the fragments of a layer or about a text that they give. -/
def PodError.OfLayer (service : String) (layer : Layer) (e : PodError) : Prop :=
  OfFragments service layer e ∨ e = .unwritable

/-- An error of a controller: about a layer, or about a label. -/
def PodError.OfController (service : String) (e : PodError) : Prop :=
  (∃ layer, OfLayer service layer e) ∨ ∃ key, e = .labelCollision service key

theorem PodError.OfSchema.ofFragments {service : String} {layer : Layer} {e : PodError}
    (h : OfSchema service layer e) : OfFragments service layer e := by
  obtain ⟨error, rfl⟩ := h
  exact .schema error

/-- A run that is given up, or an error of a kind. -/
def Failure.Of (P : PodError → Prop) (f : Failure) : Prop := ∀ e, f = .error e → P e

open PodError

theorem Context.raises_report {α : Type} {P : PodError → Prop} {x : Except PodError α}
    (h : RaisesOnly P x) : RaisesOnly (Failure.Of P) (report x) := by
  refine h.mapError fun e he e' heq => ?_
  cases heq
  exact he

/-! ## Trees with one root key -/

namespace Mapping

theorem eq_singleton {m : Mapping} {root : Value} (hm : Distinct m) (hroot : contains m root = true)
    (hkeys : ∀ k ∈ keys m, k = root) : ∃ body, m = [(root, body)] := by
  match m, hm, hroot, hkeys with
  | [(k, body)], _, _, hkeys =>
    obtain rfl := hkeys k List.mem_cons_self
    exact ⟨body, rfl⟩
  | (k, _) :: (l, _) :: _, hm, _, hkeys =>
    have hne := (List.pairwise_cons.1 hm).1 _ List.mem_cons_self
    rw [hkeys k List.mem_cons_self, hkeys l (List.mem_cons_of_mem _ List.mem_cons_self),
      Value.same_self] at hne
    cases hne

end Mapping

namespace Fragment

open Mapping

variable {tree given : Mapping} {root : String} {keySet : KeySet}

theorem contains_carryOver : contains (carryOver tree root given keySet) (.string root) = true := by
  unfold carryOver
  split
  · simp [contains, get?_insert_self]
  · simp [contains, get?_insert_self]
  · simp [contains, get?_insert_self]
  · rename_i h
    simp [contains, h]

theorem distinct_carryOver (h : Distinct tree) : Distinct (carryOver tree root given keySet) := by
  unfold carryOver
  split
  · exact distinct_insert h _ _
  · exact distinct_insert h _ _
  · exact distinct_insert h _ _
  · exact h

/-- **A definition that fragments of any kind are merged to has one root key**, once its gaps are
filled. -/
theorem exists_carryOver (fragments : List Mapping) (root : String) (given : Mapping)
    (keySet : KeySet) :
    ∃ body, carryOver (mergeAll (fragments.map (renameRoot · root))) root given keySet =
      [(.string root, body)] := by
  refine eq_singleton (distinct_carryOver (distinct_mergeAll _)) contains_carryOver fun k hk => ?_
  rcases mem_keys_carryOver hk with hk | rfl
  · obtain ⟨f, hf, hk⟩ := mem_keys_mergeAll hk
    obtain ⟨g, -, rfl⟩ := List.mem_map.1 hf
    exact mem_keys_renameRoot hk
  · rfl

end Fragment

namespace Controller

/-- **The tree of a controller has one root key**, whatever the fragments are. -/
theorem exists_podTree (settings : Settings) (service : String) (given : Mapping)
    (fragments : List Mapping) :
    ∃ body, podTree settings service given fragments = [(.string service, body)] := by
  obtain ⟨body, hbody⟩ := Fragment.exists_carryOver fragments service given .pod
  have hmerge (v : Value) :
      Mapping.merge [(.string service, body)] [(.string service, v)] =
        [(.string service, Mapping.mergeValue (some body) v)] := by
    simp [Mapping.merge, Mapping.get?, Mapping.adjust]
  exact ⟨_, by rw [podTree, hbody, hmerge]⟩

/-- **The tree of a main component has one root key**, whatever the fragments are. -/
theorem exists_mainTree (component : String) (given : Mapping) (fragments : List Mapping) :
    ∃ body, mainTree component given fragments = [(.string component, body)] :=
  Fragment.exists_carryOver fragments component given .transformer

end Controller

/-! ## Errors of a controller -/

namespace Definitions

variable (directory service : String) (layer : Layer)

theorem raises_ofEntry (e : Value × Value) :
    RaisesOnly (OfSchema service layer) (ofEntry directory service layer e) := by
  refine .bind ?_ fun name => .bind ?_ fun body => ?_
  · unfold nameOf
    split
    · exact .error ⟨_, rfl⟩
    · split
      · exact .ok _
      · exact .error ⟨_, rfl⟩
  · unfold bodyOf
    split
    · exact .ok _
    · exact .ok _
    · exact .error ⟨_, rfl⟩
  · unfold serviceOf
    split
    · exact .error ⟨_, rfl⟩
    · dsimp only
      split
      · exact .ok _
      · exact .error ⟨_, rfl⟩

theorem raises_ofTree (tree : Mapping) :
    RaisesOnly (OfSchema service layer) (ofTree directory service layer tree) :=
  .bind (.mapM fun e _ => raises_ofEntry directory service layer e) fun _ => .ok _

end Definitions

namespace Copies

variable (service : String)

theorem raises_scalar (v : Value) : RaisesOnly (OfSchema service .copy) (scalar service v) := by
  unfold scalar
  split
  · exact .ok _
  · exact .error ⟨_, rfl⟩

theorem raises_normalizeValue (v : Value) :
    RaisesOnly (OfSchema service .copy) (normalizeValue service v) := by
  unfold normalizeValue
  split
  · refine .bind (.mapM fun e _ => ?_) fun _ => .ok _
    exact .bind (raises_scalar service e.1) fun _ =>
      .bind (raises_scalar service e.2) fun _ => .ok _
  · exact .ok _
  · exact .ok _

theorem raises_normalize (fragment : Mapping) :
    RaisesOnly (OfSchema service .copy) (normalize fragment service) :=
  .foldlM fun _ e _ => .bind (raises_normalizeValue service e.2) fun _ => .ok _

theorem raises_pairs (v : Value) : RaisesOnly (OfSchema service .copy) (pairs v service) := by
  unfold pairs
  split
  · exact .mapM fun v _ => raises_scalar service v
  · exact .ok _
  · exact .ok _
  · exact .error ⟨_, rfl⟩

end Copies

namespace Context

open Controller

variable [Markup.Machine] (c : Context) (settings : Settings)

theorem raises_render (layer : Layer) (t : Template) :
    RaisesOnly (Failure.Of (OfFragments c.service.name layer)) (c.render layer t) := by
  unfold render
  split
  · exact .error nofun
  · refine .bind (.of_mapError fun fault => ?_) fun text =>
      raises_report (.of_mapError fun _ => .malformed _ _)
    rcases fault with e | a
    · rintro _ ⟨⟩
      exact .render _ e
    · exact nofun

theorem raises_renderRooted (layer : Layer) (t : Template) :
    RaisesOnly (Failure.Of (OfFragments c.service.name layer)) (c.renderRooted layer t) := by
  refine .bind (c.raises_render layer t) fun fragment => .bind (raises_report ?_) fun key => .ok _
  unfold Fragment.rootKey
  split
  · split
    · exact .ok _
    · exact .error (.schema _)
  · exact .error (.rootKey _)

omit [Markup.Machine] in
theorem raises_textOf (layer : Layer) (v : Value) :
    RaisesOnly (OfLayer c.service.name layer) (textOf v) := by
  unfold textOf
  split
  · exact .ok _
  · exact .error (.inr rfl)

omit [Markup.Machine] in
/-- **The only definition** of a tree with one root key is the one of its entry: no other number of
definitions can be found. -/
theorem raises_single {layer : Layer} {tree : Mapping} (htree : ∃ e, tree = [e]) :
    RaisesOnly (OfFragments c.service.name layer)
      (c.definitions layer tree >>= single c.service.name layer) := by
  obtain ⟨e, rfl⟩ := htree
  rw [single_definitions]
  exact (Definitions.raises_ofEntry _ _ _ _).mono fun _ => OfSchema.ofFragments

theorem raises_podStage : RaisesOnly (Failure.Of (OfFragments c.service.name .pod))
    (c.podStage settings) := by
  refine .bind (.mapM fun t _ => c.raises_renderRooted .pod t) fun fragments => raises_report ?_
  obtain ⟨body, hbody⟩ := exists_podTree settings c.service.name c.definition (fragments.map (·.2))
  exact c.raises_single ⟨_, hbody⟩

theorem raises_mainStage :
    RaisesOnly (Failure.Of (OfLayer c.service.name .transformer)) c.mainStage := by
  refine .bind (.mapM fun t _ => ?_) fun fragments => raises_report ?_
  · exact (c.raises_renderRooted .transformer t).mono fun f hf e he => .inl (hf e he)
  · rw [← bind_assoc]
    refine .bind ?_ fun component => .bind (c.raises_textOf .transformer _) fun _ => .ok _
    obtain ⟨body, hbody⟩ := exists_mainTree ((fragments.head?.map (·.1)).getD "") c.definition
      (fragments.map (·.2))
    exact (c.raises_single ⟨_, hbody⟩).mono fun _ => .inl

theorem raises_componentStage :
    RaisesOnly (Failure.Of (OfLayer c.service.name .component)) c.componentStage := by
  refine .bind (.mapM fun t _ => ?_) fun fragments => raises_report (.bind ?_ fun components => ?_)
  · exact (c.raises_render .component t).mono fun f hf e he => .inl (hf e he)
  · exact (Definitions.raises_ofTree _ _ _ _).mono fun _ he => .inl he.ofFragments
  · refine .bind (.mapM fun s _ => ?_) fun _ => .ok _
    exact .bind (c.raises_textOf .component _) fun _ => .ok _

theorem raises_copyStage : RaisesOnly (Failure.Of (OfLayer c.service.name .copy)) c.copyStage := by
  refine .bind (.mapM fun t _ => .bind ?_ fun fragment => ?_) fun fragments => raises_report ?_
  · exact (c.raises_render .copy t).mono fun f hf e he => .inl (hf e he)
  · exact raises_report ((Copies.raises_normalize c.service.name fragment).mono fun _ he =>
      .inl he.ofFragments)
  · refine .bind (.mapM fun e _ => ?_) fun _ => .ok _
    refine .bind ((Copies.raises_scalar c.service.name e.1).mono fun _ he => .inl he.ofFragments)
      fun target => ?_
    refine .bind ((Copies.raises_pairs c.service.name e.2).mono fun _ he => .inl he.ofFragments)
      fun pairs => ?_
    exact .bind (c.raises_textOf .copy _) fun _ => .ok _

omit [Markup.Machine] in
theorem raises_attachAll (s : Service) (labels : List (String × String)) :
    RaisesOnly (Failure.Of (OfController c.service.name)) (c.attachAll s labels) := by
  refine raises_report (.foldlM fun t l _ => ?_)
  unfold attach
  split
  · exact .error (.inr ⟨_, rfl⟩)
  · exact .ok _

/-- **All errors of a controller** are about the fragments of a layer, about a text that they give,
or about a label that is already set. -/
theorem raises_controller :
    RaisesOnly (Failure.Of (OfController c.service.name)) (c.controller settings) := by
  have hlayer {α : Type} {x : Except Failure α} {layer : Layer}
      (h : RaisesOnly (Failure.Of (OfLayer c.service.name layer)) x) :
      RaisesOnly (Failure.Of (OfController c.service.name)) x :=
    h.mono fun f hf e he => .inl ⟨layer, hf e he⟩
  refine .bind (hlayer ((c.raises_podStage settings).mono fun f hf e he => .inl (hf e he)))
    fun s => ?_
  refine .bind (hlayer c.raises_mainStage) fun main => ?_
  refine .bind (c.raises_attachAll s _) fun s => ?_
  refine .bind (hlayer c.raises_componentStage) fun components => ?_
  refine .bind (c.raises_attachAll s _) fun s => ?_
  exact .bind (hlayer c.raises_copyStage) fun copies => c.raises_attachAll s _

end Context

/-! ## Services that are missing -/

theorem PodError.OfController.ne_serviceNotFound {service name : String} {e : PodError}
    (h : OfController service e) : e ≠ .serviceNotFound name := by
  rintro rfl
  rcases h with ⟨layer, h | h⟩ | ⟨key, h⟩
  · cases h
  · cases h
  · cases h

namespace Project

variable [Markup.Machine] {p q : Project} {settings : Settings} {directory : String}

omit [Markup.Machine] in
theorem index?_eq_none_iff {name : String} : p.index? name = none ↔ name ∉ p.names := by
  simp [index?, names]

theorem transform_error_iff {name : String} {templates : Templates} {f : Failure} :
    p.transform settings directory name templates = .error f ↔
      (p.transformService settings directory name templates).1 = .error f := by
  rw [transform]
  split
  · rename_i h
    simp [h]
  · rename_i h
    simp [h]

/-- **A transformation misses a service** exactly if the project has none of that name. -/
theorem transform_missing_iff {name missing : String} {templates : Templates} :
    p.transform settings directory name templates = .error (.error (.serviceNotFound missing)) ↔
      missing = name ∧ name ∉ p.names := by
  rw [← index?_eq_none_iff]
  rcases hi : p.index? name with _ | i
  · rw [transform_error_iff, transformService, hi]
    simp [eq_comm]
  · obtain ⟨s, hs, -⟩ := index?_spec hi
    rw [transform_error_iff_controller (service?_iff.2 ⟨i, hi, hs⟩)]
    simp only [reduceCtorEq, and_false, iff_false]
    intro h
    exact (Context.raises_controller _ settings _ h _ rfl).ne_serviceNotFound rfl

theorem transformAll_missing_iff {es : List (String × Templates)} {missing : String} :
    p.transformAll settings directory es = .error (.error (.serviceNotFound missing)) ↔
      missing ∉ p.names ∧ ∃ before templates after q, es = before ++ (missing, templates) :: after ∧
        p.transformAll settings directory before = .ok q := by
  rw [transformAll, foldlM_error_iff]
  simp only [transform_missing_iff]
  constructor
  · rintro ⟨before, ⟨name, templates⟩, after, q, hsplit, hq, rfl, hname⟩
    rw [(replacesOnly_of_transformAll hq).names] at hname
    exact ⟨hname, before, templates, after, q, hsplit, hq⟩
  · rintro ⟨hname, before, templates, after, q, hsplit, hq⟩
    refine ⟨before, (missing, templates), after, q, hsplit, hq, rfl, ?_⟩
    rw [(replacesOnly_of_transformAll hq).names]
    exact hname

end Project

namespace Session

open Controller

variable {files : Files} {p : Project} {directory : String} {settings : Settings} {σ : Session}

/-- **A session misses a service** when its turn comes, exactly if its project has none of that
name. -/
theorem transform_missing_iff [Markup.Machine] {missing : String} :
    σ.transform = .error (.error (.serviceNotFound missing)) ↔
      missing ∉ σ.project.names ∧ ∃ before templates after q,
        σ.configurations.entries = before ++ (missing, templates) :: after ∧
        σ.project.transformAll σ.settings σ.directory before = .ok q := by
  rw [← Project.transformAll_missing_iff, transform, bind_error_iff, or_iff_left]
  · rfl
  · rintro ⟨q, -, h⟩
    split at h
    · cases h
    · cases h

/-! ### The services that have templates -/

/-- The session of a project with the templates of some services, set one after the other. -/
def configured (p : Project) (directory : String) (settings : Settings)
    (es : List (String × Templates)) : Session :=
  es.foldl (fun σ e => σ.withTemplates e.1 e.2) (new p directory settings)

theorem mem_keys_withTemplates {service name : String} {t : Templates} :
    name ∈ (σ.withTemplates service t).configurations.keys ↔
      name ∈ σ.configurations.keys ∨ service = name ∧ t.isEmpty = false := by
  unfold withTemplates
  split
  · simp [*]
  · simp [*, Dict.mem_keys_insert, or_comm, eq_comm]

theorem project_configured (p : Project) (directory : String) (settings : Settings)
    (es : List (String × Templates)) : (configured p directory settings es).project = p := by
  have hstep (σ : Session) (e : String × Templates) :
      (σ.withTemplates e.1 e.2).project = σ.project := by
    unfold withTemplates
    split <;> rfl
  exact List.foldlRecOn (motive := fun σ : Session => σ.project = p) es _ rfl fun σ hσ e _ =>
    (hstep σ e).trans hσ

theorem mem_keys_configured {es : List (String × Templates)} {name : String} :
    name ∈ (configured p directory settings es).configurations.keys ↔
      ∃ e ∈ es, e.1 = name ∧ e.2.isEmpty = false := by
  have hfold (σ : Session) :
      name ∈ (es.foldl (fun σ e => σ.withTemplates e.1 e.2) σ).configurations.keys ↔
        name ∈ σ.configurations.keys ∨ ∃ e ∈ es, e.1 = name ∧ e.2.isEmpty = false := by
    induction es generalizing σ with
    | nil => simp
    | cons e es ih =>
      simp only [List.foldl_cons, ih, mem_keys_withTemplates, List.exists_mem_cons_iff, or_assoc]
  rw [configured, hfold]
  simp [new, Dict.keys]

theorem names_of_declarations {key : String} {d : Dict Mapping} (h : declarations key p = .ok d) :
    ∀ name ∈ d.keys, name ∈ p.names := by
  obtain ⟨d₀, hd₀, h⟩ := bind_ok_iff.1 h
  have htop : ∀ name ∈ d₀.keys, name ∈ p.names := by
    rw [ofExtension] at hd₀
    split at hd₀
    · obtain rfl := Except.ok.inj hd₀
      exact List.forall_mem_nil _
    · obtain ⟨m, -, hm⟩ := bind_ok_iff.1 hd₀
      refine foldlM_preserves (P := fun d : Dict Mapping => ∀ name ∈ d.keys, name ∈ p.names)
        (fun d e _ d' hd hd' => ?_) (List.forall_mem_nil _) hm
      obtain ⟨service, hservice, -, m, -, rfl⟩ := readEntry_ok_iff.1 hd'
      intro name hname
      rcases Dict.mem_keys_insert.1 hname with rfl | hname
      · exact hservice
      · exact hd name hname
  refine foldlM_preserves (P := fun d : Dict Mapping => ∀ name ∈ d.keys, name ∈ p.names)
    (fun d s hs d' hd hd' => ?_) htop h
  obtain ⟨-, rfl⟩ := readOwn_ok_iff.1 hd'
  intro name hname
  split at hname
  · exact hd name hname
  · rcases Dict.mem_keys_insert.1 hname with rfl | hname
    · exact List.mem_map_of_mem hs
    · exact hd name hname

/-- **The session of a project has templates for its own services only.** -/
theorem names_of_ofProject (h : ofProject files p directory settings = .ok σ) :
    ∀ name ∈ σ.configurations.keys, name ∈ σ.project.names := by
  obtain ⟨-, d, hd, h⟩ := ofProject_ok_iff_reads.1 h
  have hgathers := gathers_of_foldlM d.keys_nodup h
  intro name hname
  have hproject : σ.project = eraseExtension settings.extensionKey p := by
    rw [hgathers.rest]
    rfl
  rw [hproject, Project.names_eraseExtension]
  refine names_of_declarations hd name ?_
  by_contra hnew
  obtain ⟨t, ht⟩ := Dict.mem_keys_iff.1 hname
  rw [hgathers.others name hnew] at ht
  cases ht

/-- **The errors that no run ends with.** The trees of a controller and of its main component have
one root key, whatever the fragments are, so their definitions are never too many or too few. The
session of a project finds every service when its turn comes. A session whose templates are set by
hand misses a service exactly if templates are set for a name that the project does not have, and
the run comes to it. -/
theorem unreachable_errors [Markup.Machine] (files : Files) (p : Project) (directory : String)
    (settings : Settings) : (∀ (c : Context) (fragments : List Mapping) (component : String),
        (∃ body, podTree settings c.service.name c.definition fragments =
          [(.string c.service.name, body)]) ∧
          ∃ body, mainTree component c.definition fragments = [(.string component, body)]) ∧
      (∀ (c : Context) (service : String) (layer : Layer) (count : Nat),
        c.podStage settings ≠ .error (.error (.definitionCount service layer count)) ∧
          c.mainStage ≠ .error (.error (.definitionCount service layer count))) ∧
      (∀ σ, ofProject files p directory settings = .ok σ →
        (∀ name, σ.transform ≠ .error (.error (.serviceNotFound name))) ∧
          ∀ before name templates after q,
            σ.configurations.entries = before ++ (name, templates) :: after →
            σ.project.transformAll σ.settings σ.directory before = .ok q →
            (∃ s, q.service? name = some s) ∧ ∀ missing,
              (q.transformService σ.settings σ.directory name templates).1 ≠
                .error (.error (.serviceNotFound missing))) ∧
      ∀ es name, (configured p directory settings es).transform =
        .error (.error (.serviceNotFound name)) →
        (∃ e ∈ es, e.1 = name ∧ e.2.isEmpty = false) ∧ name ∉ p.names := by
  refine ⟨fun c fragments component => ⟨exists_podTree .., exists_mainTree ..⟩,
    fun c service layer count => ⟨fun h => ?_, fun h => ?_⟩, fun σ hσ => ⟨fun name h => ?_,
      fun before name templates after q hsplit hq => ?_⟩, fun es name h => ?_⟩
  · cases c.raises_podStage settings _ h _ rfl
  · rcases c.raises_mainStage _ h _ rfl with h | h
    · cases h
    · cases h
  · obtain ⟨hname, before, templates, after, -, hsplit, -⟩ := transform_missing_iff.1 h
    refine hname (names_of_ofProject hσ name ?_)
    rw [Dict.keys, hsplit]
    simp
  · have hname : name ∈ q.names := by
      rw [(Project.replacesOnly_of_transformAll hq).names]
      refine names_of_ofProject hσ name ?_
      rw [Dict.keys, hsplit]
      simp
    refine ⟨Option.isSome_iff_exists.1 (service?_isSome_iff.2 hname), fun missing h => ?_⟩
    exact (Project.transform_missing_iff.1 (Project.transform_error_iff.2 h)).2 hname
  · obtain ⟨hname, before, templates, after, -, hsplit, -⟩ := transform_missing_iff.1 h
    rw [project_configured] at hname
    have hkey : name ∈ (configured p directory settings es).configurations.keys := by
      rw [Dict.keys, hsplit]
      simp
    exact ⟨mem_keys_configured.1 hkey, hname⟩

/-- A session that is read from a project finds the service that it is about, and a session by hand
misses the one that nobody has. -/
theorem unreachable_errors_web :
    let web : Service := Service.empty "web"
    let declaration : Value :=
      .mapping [(.string "pod", .mapping [(.string "inline", .string "web: \x7b\x7d")])]
    let p : Project :=
      { Project.empty with
        services :=
          [{ web with extensions := .ofList [(Settings.standard.extensionKey, declaration)] }] }
    let plain : Templates := { Templates.empty with pod := [⟨"pod", "web: \x7b\x7d", []⟩] }
    ∃ σ, ofProject .none p "/work" .standard = .ok σ ∧ σ.configurations.keys = ["web"] ∧
      (∀ name, σ.transform ≠ .error (.error (.serviceNotFound name))) ∧
      (configured p "/work" .standard [("web", plain), ("ghost", plain)]).transform =
        .error (.error (.serviceNotFound "ghost")) ∧ "ghost" ∉ p.names := by
  intro web declaration p plain
  have hkeys : (ofProject .none p "/work" .standard).toOption.map (·.configurations.keys) =
      some ["web"] := by
    decide +kernel
  obtain ⟨σ, hσ, hkeys⟩ := Option.map_eq_some_iff.1 hkeys
  have hσ := toOption_some_iff.1 hσ
  obtain ⟨-, -, hproject, hby⟩ := unreachable_errors .none p "/work" .standard
  have hghost : (configured p "/work" .standard [("web", plain), ("ghost", plain)]).transform =
      .error (.error (.serviceNotFound "ghost")) := by decide +kernel
  exact ⟨σ, hσ, hkeys, (hproject σ hσ).1, hghost, (hby _ _ hghost).2⟩

end Session

end ComposePods

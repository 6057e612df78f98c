import ComposePods.Project
import ComposePods.Proofs.Entries
import ComposePods.Proofs.Outcome

/-!
# What is read

A service or a project is read entry by entry: the names of properties go to the properties, all
others are kept aside and become the extensions. Here the readers are taken apart.

* `Document.read_ok_iff`: a document;
* `Service.readEntry_ok_iff`, `Service.read_ok_iff`: a service;
* `Service.readEntry_keeps`, `Service.of_mem_entries`: what becomes of an entry;
* `Project.named_ok_iff`, `Project.read_ok_iff`: a project;
* **`Project.names_of_read`**: the services of a project are those of its entries, sorted by name.
-/

namespace ComposePods

theorem Document.read_ok_iff {β : Type} {d : Document} {reader : Node → Except TypeError β}
    {b : β} :
    d.read reader = .ok b ↔ reader d.root = .ok b ∧ d.sound = true := by
  rw [Document.read, bind_ok_iff]
  by_cases h : d.sound <;> simp [h]

variable {α : Type} [Source α] {x : α}

/-! ## Services -/

namespace Service

variable {s : Service}

theorem readEntry_ok_iff {state next : Draft} {e : α × α} :
    readEntry state e = .ok next ↔
      ∃ name, Source.name e.1 = .ok name ∧
        ((∃ p v, Property.ofName? name = some p ∧ p ∉ state.met ∧ p.kind.read e.2 = .ok v ∧
            next = { state with service := state.service.set p v, met := p :: state.met }) ∨
          ∃ v, Property.ofName? name = none ∧ Source.untaggedValue e.2 = .ok v ∧
            next = { state with further := state.further ++ [(name, v)] }) := by
  rw [readEntry, bind_ok_iff]
  refine exists_congr fun name => and_congr_right fun _ => ?_
  rcases hname : Property.ofName? name with _ | p
  · simp [@eq_comm _ next]
  · by_cases hmet : p ∈ state.met
    · simp [hmet]
    · simp [hmet, @eq_comm _ next]

theorem read_ok_iff :
    read x = .ok s ↔
      ∃ es state, Source.entries "struct ServiceConfig" x = .ok es ∧
        es.foldlM readEntry ⟨empty "", [], []⟩ = .ok state ∧
        (∀ e ∈ state.further, e.2.keysDistinct = true) ∧
        s = { state.service with extensions := .ofList state.further } := by
  simp only [read, bind_ok_iff]
  constructor
  · rintro ⟨es, hes, state, hstate, h⟩
    split at h
    · simp at h
    · rename_i hdistinct
      refine ⟨es, state, hes, hstate, ?_, (pure_ok_iff.1 h).symm⟩
      simpa using hdistinct
  · rintro ⟨es, state, hes, hstate, hdistinct, rfl⟩
    refine ⟨es, hes, state, hstate, ?_⟩
    rw [if_neg (by simpa using hdistinct)]
    rfl

theorem readEntry_keeps {d next : Draft} {e : α × α} (h : readEntry d e = .ok next) :
    (∀ p ∈ d.met, p ∈ next.met ∧ next.service.value p = d.service.value p) ∧
    d.further ⊆ next.further := by
  obtain ⟨-, -, ⟨q, c, -, hq, -, rfl⟩ | ⟨w, -, -, rfl⟩⟩ := readEntry_ok_iff.1 h
  · refine ⟨fun p hp => ⟨List.mem_cons_of_mem _ hp, ?_⟩, List.Subset.refl _⟩
    have hne : p ≠ q := by
      rintro rfl
      exact hq hp
    exact set_of_ne _ _ hne
  · exact ⟨fun p hp => ⟨hp, rfl⟩, List.subset_append_left _ _⟩

/-- **What becomes of an entry**: its property is as it has been read, or it is kept aside. -/
theorem of_mem_entries {es : List (α × α)} {state final : Draft}
    (h : es.foldlM readEntry state = .ok final) : ∀ e ∈ es, ∃ name, Source.name e.1 = .ok name ∧
      ((∃ p, Property.ofName? name = some p ∧ p.kind.read e.2 = .ok (final.service.value p)) ∨
        Property.ofName? name = none ∧ ∃ v, (name, v) ∈ final.further) := by
  intro e he
  obtain ⟨a, b, after, hstep, hafter⟩ := exists_step_of_foldlM he h
  obtain ⟨name, hname, hentry⟩ := readEntry_ok_iff.1 hstep
  refine ⟨name, hname, ?_⟩
  rcases hentry with ⟨p, c, hp, -, hc, rfl⟩ | ⟨v, hp, -, rfl⟩
  · have hkept : p ∈ final.met ∧ final.service.value p = c := by
      refine foldlM_preserves (P := fun d : Draft => p ∈ d.met ∧ d.service.value p = c) ?_
        ⟨List.mem_cons_self, set_self ..⟩ hafter
      rintro d e' - next ⟨hmet, hd⟩ hnext
      obtain ⟨hmet, hsame⟩ := (readEntry_keeps hnext).1 p hmet
      exact ⟨hmet, hsame.trans hd⟩
    exact .inl ⟨p, hp, by rw [hkept.2]; exact hc⟩
  · have hkept : (name, v) ∈ final.further :=
      foldlM_preserves (P := fun d : Draft => (name, v) ∈ d.further)
        (fun _ _ _ _ hd hnext => (readEntry_keeps hnext).2 hd) (by simp) hafter
    exact .inr ⟨hp, v, hkept⟩

end Service

/-! ## Projects -/

namespace Project

variable {p : Project} {s : Service}

theorem named_ok_iff {e : String × Option Service} :
    named e = .ok s ↔
      s = { e.2.getD (Service.empty "") with name := e.1 } ∧ s.unsupported = [] := by
  unfold named
  dsimp only
  split
  · rename_i h
    rw [Except.ok.injEq]
    constructor
    · rintro rfl
      exact ⟨rfl, h⟩
    · rintro ⟨rfl, -⟩
      rfl
  · rename_i h
    constructor
    · rintro ⟨⟩
    · rintro ⟨rfl, h'⟩
      exact absurd h' h

theorem names_of_named {es : List (String × Option Service)} {ss : List Service}
    (h : List.Forall₂ (fun e s => named e = .ok s) es ss) : ss.map (·.name) = es.map Prod.fst := by
  induction h with
  | nil => rfl
  | cons he _ ih =>
    have hname := congrArg Service.name (named_ok_iff.1 he).1
    rw [List.map_cons, List.map_cons, ih]
    exact congrArg (· :: _) hname

theorem read_ok_iff :
    read x = .ok p ↔
      ∃ es d services, Source.entries "struct ProjectDocument" x = .ok es ∧
        es.foldlM readEntry .empty = .ok d ∧
        (∀ e ∈ d.further, e.2.keysDistinct = true) ∧
        (∀ name ∈ (Dict.ofList d.further).keys, Service.isExtension name = true) ∧
        List.Forall₂ (fun e s => named e = .ok s) d.services.entries services ∧
        p = ⟨d.version, services, d.networks, d.volumes, d.secrets, d.configs,
          .ofList d.further⟩ := by
  simp only [read, bind_ok_iff]
  constructor
  · rintro ⟨es, hes, d, hd, h⟩
    split at h
    · simp at h
    · rename_i hdistinct
      split at h
      · simp at h
      · rename_i hnames
        simp only [bind_ok_iff, pure_ok_iff] at h
        obtain ⟨services, hservices, rfl⟩ := h
        refine ⟨es, d, services, hes,
          hd, by simpa using hdistinct, ?_, mapM_ok_iff.1 hservices, rfl⟩
        simpa using hnames
  · rintro ⟨es, d, services, hes, hd, hdistinct, hnames, hservices, rfl⟩
    refine ⟨es, hes, d, hd, ?_⟩
    rw [if_neg (by simpa using hdistinct)]
    have hnone : (Dict.ofList d.further).keys.find? (!Service.isExtension ·) = none := by
      simpa using hnames
    rw [hnone]
    exact bind_ok_iff.2 ⟨services, mapM_ok_iff.2 hservices, rfl⟩

/-- **The services of a project come sorted by name**, each name once. -/
theorem names_of_read (h : read x = .ok p) :
    (p.services.map (·.name)).Pairwise fun a b => compare a b = .lt := by
  obtain ⟨es, d, services, -, -, -, -, hservices, rfl⟩ := read_ok_iff.1 h
  rw [names_of_named hservices]
  exact d.services.keys_ascending

end Project

end ComposePods

import ComposePods.Proofs.Controller
import ComposePods.Proofs.Reading
import ComposePods.Proofs.Transform

/-!
# Runs of transformations

A project is transformed call by call, and any of the calls may fail. The services of a project that
has been read are listed by name, each name once; since a controller has the name of the service
that it replaces, and a call that fails changes nothing, this stays so whatever the calls are.

* `Call`, `Project.call`, `Project.after`: calls and the project that they leave;
* `Project.Listed`: the services are listed by name, each name once;
* `Listed.index?_iff`, `Listed.service?_eq`, `Listed.servicesValue_eq`: every service is found and
  written;
* `Project.call_cases`, `Project.names_call`, `Project.names_after`: what a call and what a run
  keeps;
* **`Project.after_keeps`**: the project that a run of calls leaves.
-/

namespace ComposePods

/-- A transformation that is asked for. -/
structure Call where
  settings : Settings
  directory : String
  service : String
  templates : Templates

namespace Project

/-- The outcome of a call, and the project as it is left. -/
def call [Markup.Machine] (p : Project) (c : Call) : Except Failure Unit × Project :=
  p.transformService c.settings c.directory c.service c.templates

/-- The project that some calls leave, one after the other, whether they fail or not. -/
def after [Markup.Machine] (p : Project) (calls : List Call) : Project :=
  calls.foldl (fun q c => (q.call c).2) p

/-- The names of the services. -/
def names (p : Project) : List String := p.services.map (·.name)

/-- The services are listed by name, each name once. -/
def Listed (p : Project) : Prop := p.names.Pairwise (· < ·)

variable {p q : Project}

/-! ## Services listed by name -/

namespace Listed

theorem index?_iff (h : p.Listed) {name : String} {i : Nat} :
    p.index? name = some i ↔ p.names[i]? = some name := by
  unfold index? names
  rw [List.findIdx?_eq_some_iff_getElem, List.getElem?_map, Option.map_eq_some_iff]
  constructor
  · rintro ⟨hi, hname, -⟩
    exact ⟨_, List.getElem?_eq_getElem hi, by simpa using hname⟩
  · rintro ⟨s, hs, rfl⟩
    obtain ⟨hi, rfl⟩ := List.getElem?_eq_some_iff.1 hs
    refine ⟨hi, by simp, fun j hj hsame => ?_⟩
    -- An earlier service of the same name would be a second one.
    have hlt := List.pairwise_iff_getElem.1 h j i (by simp only [names, List.length_map]; omega)
      (by simpa [names] using hi) hj
    simp only [names, List.getElem_map] at hlt
    have hsame : p.services[j].name = p.services[i].name := by simpa using hsame
    rw [hsame] at hlt
    exact String.lt_irrefl _ hlt

theorem service?_eq (h : p.Listed) {i : Nat} {s : Service} (hs : p.services[i]? = some s) :
    p.service? s.name = some s := by
  have hi : p.index? s.name = some i := h.index?_iff.2 (by simp [names, hs])
  obtain ⟨hlt, rfl⟩ := List.getElem?_eq_some_iff.1 hs
  obtain ⟨_, -, hearlier⟩ := List.findIdx?_eq_some_iff_getElem.1 hi
  refine List.find?_eq_some_iff_getElem.2 ⟨by simp, i, hlt, rfl, fun j hj => ?_⟩
  simpa using hearlier j hj

theorem entries_ofList {β : Type} (h : p.Listed) (f : Service → β) :
    (Dict.ofList (p.services.map fun s => (s.name, f s))).entries =
      p.services.map fun s => (s.name, f s) := by
  refine Dict.entries_ofList ?_
  rw [Ascending, List.pairwise_map]
  exact (List.pairwise_map.1 h).imp compareOfLessAndEq_eq_lt.2

theorem servicesValue_eq (h : p.Listed) :
    p.servicesValue = .mapping (p.services.map fun s =>
      (.string s.name, .mapping s.definition)) := by
  rw [servicesValue, Value.ofDict, h.entries_ofList fun s => s, List.map_map]
  rfl

end Listed

theorem listed_of_read {α : Type} [Source α] {x : α} (h : read x = .ok p) : p.Listed :=
  (names_of_read h).imp compareOfLessAndEq_eq_lt.1

theorem listed_of_ofText {text : String} (h : ofText text = .ok p) : p.Listed :=
  listed_of_read (Document.read_ok_iff.1 h).1

/-! ## One call -/

/-- **All that a call can do**: it replaces the service by another one of the same name, or it
leaves the project as it was. -/
theorem call_cases [Markup.Machine] (p : Project) (c : Call) :
    (∃ i s t, p.index? c.service = some i ∧ p.services[i]? = some s ∧ s.name = c.service ∧
        t.name = c.service ∧ p.call c = (.ok (), { p with services := p.services.set i t })) ∨
      ∃ f, p.call c = (.error f, p) := by
  rcases transformService_cases p c.settings c.directory c.service c.templates with
    ⟨i, s, t, hi, hs, hname, ht, h⟩ | ⟨f, h⟩
  · exact .inl ⟨i, s, t, hi, hs, hname, (Context.name_of_controller ht).trans hname, h⟩
  · exact .inr ⟨f, h⟩

theorem names_set {i : Nat} {s t : Service} (hs : p.services[i]? = some s)
    (hname : t.name = s.name) :
    ({ p with services := p.services.set i t } : Project).names = p.names := by
  have hget : p.names[i]? = some t.name := by simp [names, hs, hname]
  obtain ⟨hi, hget⟩ := List.getElem?_eq_some_iff.1 hget
  simp only [names, List.map_set] at hget hi ⊢
  rw [← hget]
  exact List.set_getElem_self hi

theorem names_call [Markup.Machine] (p : Project) (c : Call) : (p.call c).2.names = p.names := by
  rcases p.call_cases c with ⟨i, s, t, -, hs, hsname, htname, h⟩ | ⟨f, h⟩
  · rw [h]
    exact names_set hs (htname.trans hsname.symm)
  · rw [h]

/-! ## Runs of calls -/

/-- **A run keeps the names of the services.** -/
theorem names_after [Markup.Machine] (p : Project) (calls : List Call) :
    (p.after calls).names = p.names := by
  induction calls generalizing p with
  | nil => rfl
  | cons c cs ih => exact (ih (p.call c).2).trans (p.names_call c)

/-- What a run of calls on a project keeps, and what the next call can do. -/
structure Keeps [Markup.Machine] (p q : Project) : Prop where
  names : q.names = p.names
  listed : q.names.Pairwise (· < ·)
  /-- Every service is found at the place that it had. -/
  found : ∀ i name, p.names[i]? = some name →
    q.index? name = some i ∧
      ∃ s, q.services[i]? = some s ∧ q.service? name = some s ∧ s.name = name
  failure : ∀ c f, (q.call c).1 = .error f → (q.call c).2 = q
  /-- Only the service that is asked for is replaced, and by one of its name. -/
  success : ∀ c, (q.call c).1 = .ok () →
    ∃ i s t, p.names[i]? = some c.service ∧ q.services[i]? = some s ∧ s.name = c.service ∧
      t.name = c.service ∧ (q.call c).2 = { q with services := q.services.set i t }
  /-- No service is left out when the project is written. -/
  written : q.servicesValue =
    .mapping (q.services.map fun s => (.string s.name, .mapping s.definition))

/-- **The project that a run of calls leaves**, whatever the calls are and whether they fail or not:
the services are those of the project that was read, each at its place. -/
theorem after_keeps [Markup.Machine] {text : String} (h : ofText text = .ok p) (calls : List Call) :
    p.Keeps (p.after calls) := by
  have hnames := p.names_after calls
  have hlisted : (p.after calls).Listed := by
    rw [Listed, hnames]
    exact listed_of_ofText h
  refine ⟨hnames, hlisted, fun i name hi => ?_, fun c f hf => ?_, fun c hc => ?_,
    hlisted.servicesValue_eq⟩
  · rw [← hnames] at hi
    obtain ⟨s, hs, rfl⟩ := Option.map_eq_some_iff.1 ((List.getElem?_map).symm.trans hi)
    exact ⟨hlisted.index?_iff.2 hi, s, hs, hlisted.service?_eq hs, rfl⟩
  · rcases (p.after calls).call_cases c with ⟨i, s, t, -, -, -, -, he⟩ | ⟨f', he⟩
    · rw [he] at hf
      cases hf
    · rw [he]
  · rcases (p.after calls).call_cases c with ⟨i, s, t, hi, hs, hsname, htname, he⟩ | ⟨f', he⟩
    · rw [← hnames]
      exact ⟨i, s, t, hlisted.index?_iff.1 hi, hs, hsname, htname, by rw [he]⟩
    · rw [he] at hc
      cases hc

/-- A call for a service that is not there, then one for a service that is. -/
theorem after_keeps_db_web :
    let text := "services: \x7bweb: \x7bimage: a\x7d, db: \x7b\x7d\x7d"
    let missing : Call := ⟨.standard, "/work", "app", .empty⟩
    let web : Call := ⟨.standard, "/work", "web", .empty⟩
    ∃ p, ofText text = .ok p ∧
      p.Keeps (p.after [missing, web]) ∧ (p.after [missing, web]).names = ["db", "web"] ∧
      p.after [missing] = p ∧ p.after [missing, web] ≠ p := by
  intro text missing web
  obtain ⟨p, hp⟩ : ∃ p, ofText text = .ok p :=
    exists_ok_of_isOk (by decide +kernel)
  have hrun : (ofText text).toOption.any (fun p =>
      p.names = ["db", "web"] ∧ p.after [missing] = p ∧ p.after [missing, web] ≠ p) = true := by
    decide +kernel
  rw [hp] at hrun
  simp only [Except.toOption, Option.any_some, decide_eq_true_eq] at hrun
  exact ⟨p, hp, after_keeps hp _, (p.names_after _).trans hrun.1, hrun.2⟩

end Project

end ComposePods

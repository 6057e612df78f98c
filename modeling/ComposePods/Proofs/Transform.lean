import ComposePods.Pod.Transform
import ComposePods.Proofs.Outcome

/-!
# One service replaced

A transformation looks a service up by its name, makes its controller, and puts the controller where
the service was. If it fails at any point, the project is left as it was.

* `Project.index?_spec`: the place at which a name is found;
* `Project.transformService_of_found`: a service that is there is replaced by its controller;
* **`Project.transformService_cases`**: all that a transformation can do;
* `Project.transform_ok_iff`: the same for a transformation that succeeds;
* `Project.written`, `Project.transformText_ok_iff`: the text of a run that succeeds.
-/

namespace ComposePods

namespace Project

variable {p q : Project} {service : String}

theorem index?_spec {i : Nat} (h : p.index? service = some i) :
    ∃ s, p.services[i]? = some s ∧ s.name = service := by
  obtain ⟨hi, hname, -⟩ := List.findIdx?_eq_some_iff_getElem.1 h
  exact ⟨p.services[i], List.getElem?_eq_getElem hi, by simpa using hname⟩

theorem put_of_getElem? {i : Nat} {s : Service} (t : Service) (h : p.services[i]? = some s) :
    p.put i t = (.ok (), { p with services := p.services.set i t }) := by
  have hi : i < p.services.length := (List.getElem?_eq_some_iff.1 h).1
  simp [put, replace?, hi]

variable [Markup.Machine]

theorem transformService_of_found (settings : Settings) (directory : String) (templates : Templates)
    {i : Nat} {s : Service} (hi : p.index? service = some i) (hs : p.services[i]? = some s) :
    p.transformService settings directory service templates =
      match (Context.ofService p directory s templates).controller settings with
      | .ok t => (.ok (), { p with services := p.services.set i t })
      | .error f => (.error f, p) := by
  simp only [transformService, hi, hs]
  split
  · rename_i h
    rw [h]
  · rename_i h
    rw [h]
    exact put_of_getElem? _ hs

/-- **All that a transformation can do**: put the controller where the service was, or leave the
project as it was. -/
theorem transformService_cases (p : Project) (settings : Settings) (directory service : String)
    (templates : Templates) :
    (∃ i s t, p.index? service = some i ∧ p.services[i]? = some s ∧ s.name = service ∧
        (Context.ofService p directory s templates).controller settings = .ok t ∧
        p.transformService settings directory service templates =
          (.ok (), { p with services := p.services.set i t })) ∨
      ∃ f, p.transformService settings directory service templates = (.error f, p) := by
  rcases hi : p.index? service with _ | i
  · exact .inr ⟨.error (.serviceNotFound service), by simp [transformService, hi]⟩
  · obtain ⟨s, hs, hname⟩ := index?_spec hi
    have h := transformService_of_found settings directory templates hi hs
    rcases hc : (Context.ofService p directory s templates).controller settings with f | t
    · rw [hc] at h
      exact .inr ⟨f, h⟩
    · rw [hc] at h
      exact .inl ⟨i, s, t, rfl, hs, hname, hc, h⟩

theorem transform_of_found (settings : Settings) (directory : String) (templates : Templates)
    {i : Nat} {s : Service} (hi : p.index? service = some i) (hs : p.services[i]? = some s) :
    p.transform settings directory service templates =
      (Context.ofService p directory s templates).controller settings >>= fun t =>
        .ok { p with services := p.services.set i t } := by
  rw [transform, transformService_of_found settings directory templates hi hs]
  cases (Context.ofService p directory s templates).controller settings <;> rfl

theorem transform_ok_iff {settings : Settings} {directory : String} {templates : Templates} :
    p.transform settings directory service templates = .ok q ↔
      ∃ i s t, p.index? service = some i ∧ p.services[i]? = some s ∧ s.name = service ∧
        (Context.ofService p directory s templates).controller settings = .ok t ∧
        q = { p with services := p.services.set i t } := by
  constructor
  · intro h
    rcases transformService_cases p settings directory service templates with
      ⟨i, s, t, hi, hs, hname, hc, he⟩ | ⟨f, he⟩
    · rw [transform, he] at h
      cases h
      exact ⟨i, s, t, hi, hs, hname, hc, rfl⟩
    · rw [transform, he] at h
      cases h
  · rintro ⟨i, s, t, hi, hs, -, hc, rfl⟩
    rw [transform_of_found settings directory templates hi hs, hc]
    rfl

end Project

/-! ## The texts of runs -/

/-- The text of the project, or the report that it cannot be written. -/
def Project.written (p : Project) : Except Failure String :=
  match p.text? with
  | some out => .ok out
  | none => .error (.error .unwritable)

theorem Project.written_ok_iff {p : Project} {out : String} :
    p.written = .ok out ↔ p.text? = some out := by
  unfold written
  rcases p.text? with _ | text <;> simp

theorem Session.transform_eq [Markup.Machine] (σ : Session) :
    σ.transform = σ.transformed >>= Project.written := by
  rw [Session.transform]
  refine bind_congr fun q => ?_
  unfold Project.written
  rcases q.text? with _ | out <;> rfl

theorem Project.transformText_ok_iff [Markup.Machine] {files : Files} {text directory out : String}
    {settings : Settings} : transformText files text directory settings = .ok out ↔
      ∃ p σ q, Project.ofText text = .ok p ∧ Session.ofProject files p directory settings = .ok σ ∧
        σ.transformed = .ok q ∧ q.text? = some out := by
  simp only [transformText, Session.transform_eq, bind_ok_iff, mapError_ok_iff, written_ok_iff,
    exists_and_left]

end ComposePods

import ComposePods.Proofs.Commuting

/-!
# What templates see of services

Templates see every service of a project behind an entry for its name. No property is called `name`,
and no extension of a service of a manifest or of a controller is; so whatever has been replaced,
nothing of a service can pass for its name.

* `Service.namedDefinition_eq`: the name, then the entries of the definition as they are;
* **`Project.contexts_after`**: the contexts of a project that a run of calls leaves.
-/

namespace ComposePods

open Mapping

namespace Service

variable {s : Service}

theorem name_not_mem_keys (hs : s.Valid) : Value.string "name" ∉ keys s.definition := by
  intro hk
  obtain ⟨t, ht, hne⟩ := keys_definition hs hk
  exact hne (Value.string.inj ht).symm

/-- **The name of a service comes first**, and its definition follows unchanged. -/
theorem namedDefinition_eq (hs : s.Sound) (hvalid : s.Valid) :
    s.namedDefinition = (.string "name", .string s.name) :: s.definition := by
  have hname : ∀ e ∈ s.definition, (Value.string "name").same e.1 = false := by
    intro e he
    obtain ⟨t, ht, hne⟩ := keys_definition hvalid (List.mem_map_of_mem he)
    rw [ht, Value.same_string, decide_eq_false_iff_not]
    exact hne.symm
  exact overlay_of_distinct (List.pairwise_cons.2 ⟨hname, distinct_definition hs⟩)

end Service

namespace Project

variable {p : Project}

/-- **What templates see** in a project that a run of calls leaves: no service has unsupported
properties or an entry called `name`, a service is its name and then its definition, and so is every
service of the project. -/
theorem contexts_after [Markup.Machine] {text : String} (h : ofText text = .ok p)
    (calls : List Call) :
    ∀ s ∈ (p.after calls).services, s.unsupported = [] ∧ Value.string "name" ∉ keys s.definition ∧
      ∀ (directory : String) (templates : Templates),
        let c := Context.ofService (p.after calls) directory s templates
        c.service.namedDefinition = (.string "name", .string s.name) :: s.definition ∧
          c.definition = c.service.namedDefinition.tail ∧
          ∀ i : Nat, c.projectServices[i]? = ((p.after calls).services[i]?).map fun t =>
            .mapping ((.string "name", .string t.name) :: t.definition) := by
  have hsound : (p.after calls).Sound := (sound_of_read (Document.read_ok_iff.1 h).1).after calls
  have hnamed : ∀ t ∈ (p.after calls).services,
      t.namedDefinition = (.string "name", .string t.name) :: t.definition := by
    intro t ht
    obtain ⟨hts, hvalid⟩ := hsound.services t ht
    exact Service.namedDefinition_eq hts hvalid
  intro s hs
  obtain ⟨-, hvalid⟩ := hsound.services s hs
  refine ⟨hvalid, Service.name_not_mem_keys hvalid, fun directory templates =>
    ⟨hnamed s hs, ?_, fun i => ?_⟩⟩
  · change s.definition = s.namedDefinition.tail
    rw [hnamed s hs]
    rfl
  · change ((p.after calls).services.map fun t => Value.mapping t.namedDefinition)[i]? = _
    rw [List.getElem?_map]
    refine Option.map_congr fun t ht => ?_
    rw [hnamed t (List.mem_of_getElem? ht)]

/-- A template that gives a controller a `name` is refused, and one that gives it an extension is
not. -/
theorem contexts_after_forged :
    let text := "services: \x7bweb: \x7bimage: a\x7d, db: \x7b\x7d\x7d"
    let written (body : String) : Call :=
      ⟨.standard, "/work", "web", { Templates.empty with pod := [⟨"pod", body, []⟩] }⟩
    let forged := written "web: \x7bname: db\x7d"
    let extended := written "web: \x7bx-name: db\x7d"
    ∃ p, ofText text = .ok p ∧ p.after [forged] = p ∧
      ∃ s, (p.after [forged, extended]).services[1]? = some s ∧
      s.extensions.keys = ["x-name"] ∧ s.unsupported = [] ∧
      s.namedDefinition = (.string "name", .string "web") :: s.definition := by
  intro text written forged extended
  have hrun : (ofText text).toOption.any (fun p => p.after [forged] = p ∧
      (p.after [forged, extended]).services[1]?.map (fun s => (s.name, s.extensions.keys)) =
        some ("web", ["x-name"])) = true := by
    decide +kernel
  obtain ⟨p, hp, hrun⟩ := (Option.any_eq_true _ _).1 hrun
  obtain ⟨hforged, hextended⟩ := of_decide_eq_true hrun
  obtain ⟨s, hs, hnames⟩ := Option.map_eq_some_iff.1 hextended
  obtain ⟨hname, hkeys⟩ := Prod.mk.inj hnames
  have hp : ofText text = .ok p := toOption_some_iff.1 hp
  obtain ⟨hvalid, -, hcontext⟩ := contexts_after hp [forged, extended] s (List.mem_of_getElem? hs)
  obtain ⟨hnamed, -⟩ := hcontext "/work" .empty
  exact ⟨p, hp, hforged, s, hs, hkeys, hvalid, hname ▸ hnamed⟩

end Project

end ComposePods

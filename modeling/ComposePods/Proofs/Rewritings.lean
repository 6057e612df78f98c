import ComposePods.Proofs.Places
import Mathlib.Logic.Relation

/-!
# Declarations written in another way

The order in which the entries of a declaration are written means nothing, and it does not matter
whether a service is declared in the extension of the project or in its own one.

* `Project.Rewriting`, `Project.Rewritten`: changes of how declarations are written, or of where;
* `Project.SameDeclarations`: projects that declare the same and are equal without the extension;
* **`Project.Rewriting.same`**: no such change declares anything else.
-/

namespace ComposePods

open Mapping

/-- The service with another value of an extension. -/
def Service.declare (key : String) (v : Value) (s : Service) : Service :=
  { s with extensions := s.extensions.insert key v }

theorem Service.name_declare (key : String) (v : Value) (s : Service) :
    (s.declare key v).name = s.name := rfl

theorem Service.get?_declare (key : String) (v : Value) (s : Service) :
    (s.declare key v).extensions.get? key = some v := by
  rw [declare, Dict.get?_insert, if_pos rfl]

namespace Project

variable {key : String} {p q : Project}

/-- The project with another value of an extension. -/
def declare (key : String) (v : Value) (p : Project) : Project :=
  { p with extensions := p.extensions.insert key v }

/-- A change of how the declarations of services are written, or of where. -/
inductive Rewriting (key : String) (p : Project) : Project → Prop where
  /-- The entries of a service's own declaration come in another order. -/
  | own {before after : List Service} {s : Service} {m m' : Mapping} :
      p.services = before ++ s :: after → s.extensions.get? key = some (.mapping m) → m.Perm m' →
      Rewriting key p { p with services := before ++ s.declare key (.mapping m') :: after }
  /-- The entries of a declaration in the extension of the project come in another order. -/
  | entry {before after m m' : Mapping} {name : String} :
      p.extensions.get? key =
      some (.mapping (before ++ (.string name, .mapping m) :: after)) → m.Perm m' →
      Rewriting key p (p.declare key (.mapping (before ++ (.string name, .mapping m') :: after)))
  /-- The declarations in the extension of the project come in another order. -/
  | entries {m m' : Mapping} :
      p.extensions.get? key = some (.mapping m) → m.Perm m' →
      Rewriting key p (p.declare key (.mapping m'))
  /-- A service that is declared in the extension of the project only is declared in its own one
  only. -/
  | move {before after : List Service} {s : Service} {tops tops' : Mapping} {v : Value} :
      p.services = before ++ s :: after →
      (∀ t ∈ p.services, t.name = s.name → t.extensions.get? key = none) →
      p.extensions.get? key = some (.mapping (tops ++ (.string s.name, v) :: tops')) →
      Rewriting key p
        ({ p with services := before ++ s.declare key v :: after }.declare key
          (.mapping (tops ++ tops')))
  /-- The extension of the project is left out, as it has no entries. -/
  | omitted : p.topDeclarations key = [] → Value.MappingOrNull (p.extensions.get? key) →
      Rewriting key p { p with extensions := p.extensions.erase key }

/-- Projects that such changes, in either direction, make from one another. -/
def Rewritten (key : String) : Project → Project → Prop :=
  Relation.EqvGen fun p q => p.KeysDistinct ∧ q.KeysDistinct ∧ Rewriting key p q

/-- Projects that declare the same and are equal without the extension that declares. -/
structure SameDeclarations (key : String) (p q : Project) : Prop where
  rest : Session.eraseExtension key p = Session.eraseExtension key q
  placed : p.Placed key ↔ q.Placed key
  declared : ∀ name, p.declared key name = q.declared key name

/-! ## Parts of a project -/

theorem get?_declare (key : String) (v : Value) (p : Project) :
    (p.declare key v).extensions.get? key = some v := by
  rw [declare, Dict.get?_insert, if_pos rfl]

theorem eraseFromService_declare (key : String) (v : Value) (s : Service) :
    Session.eraseFromService key (s.declare key v) = Session.eraseFromService key s := by
  rw [Session.eraseFromService, Service.declare, Dict.erase_insert]
  rfl

theorem eraseExtension_declare (key : String) (v : Value) (p : Project) :
    Session.eraseExtension key (p.declare key v) = Session.eraseExtension key p := by
  rw [Session.eraseExtension, declare, Dict.erase_insert]
  rfl

theorem topDeclarations_of_get? {m : Mapping} (h : p.extensions.get? key = some (.mapping m)) :
    p.topDeclarations key = m := by
  rw [topDeclarations, h]
  rfl

theorem placed_congr (hnames : q.names = p.names)
    (htop : Value.MappingOrNull (q.extensions.get? key) ↔
      Value.MappingOrNull (p.extensions.get? key))
    (hrest : ((∀ e ∈ q.topDeclarations key, IsTop p.names e) ∧
        ∀ s ∈ q.services, Value.MappingOrNull (s.extensions.get? key)) ↔
      (∀ e ∈ p.topDeclarations key, IsTop p.names e) ∧
        ∀ s ∈ p.services, Value.MappingOrNull (s.extensions.get? key)) :
    p.Placed key ↔ q.Placed key := by
  constructor
  · intro h
    obtain ⟨hentries, hown⟩ := hrest.2 ⟨h.entries, h.own⟩
    exact ⟨htop.2 h.top, hnames ▸ hentries, hown⟩
  · intro h
    obtain ⟨hentries, hown⟩ := hrest.1 ⟨hnames ▸ h.entries, h.own⟩
    exact ⟨htop.1 h.top, hentries, hown⟩

/-! ## Every change declares the same -/

section Services

variable {before after : List Service} {s : Service} {v : Value}

theorem names_services (hp : p.services = before ++ s :: after) :
    (before ++ s.declare key v :: after).map (·.name) = p.names := by
  rw [names, hp, List.map_append, List.map_append]
  rfl

theorem eraseFromService_services (hp : p.services = before ++ s :: after) :
    (before ++ s.declare key v :: after).map (Session.eraseFromService key) =
      p.services.map (Session.eraseFromService key) := by
  rw [hp, List.map_append, List.map_append, List.map_cons, List.map_cons, eraseFromService_declare]

theorem same_of_own (hp : p.KeysDistinct) {m m' : Mapping}
    (hservices : p.services = before ++ s :: after) (hs : s.extensions.get? key = some (.mapping m))
    (hperm : m.Perm m') :
    p.SameDeclarations key
      { p with services := before ++ s.declare key (.mapping m') :: after } where
  rest := by
    rw [Session.eraseExtension, Session.eraseExtension, eraseFromService_services hservices]
  placed := by
    refine placed_congr (names_services hservices) Iff.rfl (and_congr_right fun _ => ?_)
    simp only [hservices, List.forall_mem_append, List.forall_mem_cons, Service.get?_declare, hs,
      Value.mappingOrNull_mapping]
  declared name := by
    have hmem : s ∈ p.services := by rw [hservices]; simp
    have hm := (Value.keysDistinct_mapping_iff.1 (hp.ownDeclaration hmem key)).2
    rw [Service.ownDeclaration, hs] at hm
    funext k
    have hget : get? (s.ownDeclaration key) k =
        get? ((s.declare key (.mapping m')).ownDeclaration key) k := by
      rw [Service.ownDeclaration, Service.ownDeclaration, Service.get?_declare, hs]
      exact get?_perm hm hperm k
    rw [declared, declared, hservices, ownDeclared_split, ownDeclared_split, hget]
    rfl

theorem same_of_move (hp : p.KeysDistinct) {tops tops' : Mapping}
    (hservices : p.services = before ++ s :: after)
    (hnone : ∀ t ∈ p.services, t.name = s.name → t.extensions.get? key = none)
    (htop : p.extensions.get? key = some (.mapping (tops ++ (.string s.name, v) :: tops'))) :
    p.SameDeclarations key
      ({ p with services := before ++ s.declare key v :: after }.declare key
        (.mapping (tops ++ tops'))) where
  rest := by
    rw [eraseExtension_declare, Session.eraseExtension, Session.eraseExtension,
      eraseFromService_services hservices]
  placed := by
    have hs : s ∈ p.services := by rw [hservices]; simp
    have hname : ∃ name ∈ p.names, Value.string s.name = .string name :=
      ⟨s.name, List.mem_map_of_mem hs, rfl⟩
    refine placed_congr (names_services hservices) ?_ ?_
    · simp only [htop, get?_declare, Value.mappingOrNull_mapping]
    · rw [topDeclarations_of_get? htop, topDeclarations_of_get? (get?_declare ..)]
      simp only [declare, hservices, List.forall_mem_append, List.forall_mem_cons,
        Service.get?_declare, hnone s hs rfl, Value.mappingOrNull_none, IsTop, hname]
      tauto
  declared name := by
    have htops := topDeclarations_of_get? htop
    have htops' := topDeclarations_of_get? (get?_declare key (.mapping (tops ++ tops'))
      { p with services := before ++ s.declare key v :: after })
    have hm := (Value.keysDistinct_mapping_iff.1 (hp.topDeclarations key)).2
    rw [htops] at hm
    have habsent : get? (tops ++ tops') (.string s.name) = none :=
      get?_eq_none_of_new (List.pairwise_cons.1 ((distinct_perm List.perm_middle).1 hm)).1
    rw [hservices, List.forall_mem_append, List.forall_mem_cons] at hnone
    obtain ⟨hbefore, hs, hafter⟩ := hnone
    funext k
    rw [declared, declared, hservices, topDeclaration, topDeclaration, htops, htops']
    simp only [declare, ownDeclared_split, Service.ownDeclaration, Service.get?_declare,
      Service.name_declare, hs rfl, Value.orEmpty, Value.orEmpty?_none, Option.getD_some]
    by_cases hname : s.name = name
    · -- The one declaration is seen at either place, and nothing at the other one.
      subst hname
      rw [habsent, ownDeclared_eq_none hbefore, ownDeclared_eq_none hafter]
      rw [get?_append, Option.or_eq_none_iff] at habsent
      rw [get?_append, habsent.1, get?_cons_string]
      simp [get?]
    · rw [get?_append, get?_cons_string, get?_append]
      simp only [if_neg hname]

end Services

/-! ### Changes in the extension of the project -/

section Top

theorem same_of_top (hservices : q.services = p.services)
    (hrest : Session.eraseExtension key p = Session.eraseExtension key q)
    (htop : Value.MappingOrNull (q.extensions.get? key) ↔
      Value.MappingOrNull (p.extensions.get? key))
    (hentries : (∀ e ∈ q.topDeclarations key, IsTop p.names e) ↔
      ∀ e ∈ p.topDeclarations key, IsTop p.names e)
    (hdeclared : ∀ name k, get? (p.topDeclaration key name) k =
      get? (q.topDeclaration key name) k) :
    p.SameDeclarations key q where
  rest := hrest
  placed := placed_congr (by rw [names, names, hservices]) htop (by rw [hentries, hservices])
  declared name := by
    funext k
    rw [declared, declared, hservices, hdeclared]

theorem same_of_entries (hp : p.KeysDistinct) {m m' : Mapping}
    (htop : p.extensions.get? key = some (.mapping m)) (hperm : m.Perm m') :
    p.SameDeclarations key (p.declare key (.mapping m')) := by
  have htops := topDeclarations_of_get? htop
  have htops' := topDeclarations_of_get? (get?_declare key (.mapping m') p)
  have hm := (Value.keysDistinct_mapping_iff.1 (hp.topDeclarations key)).2
  rw [htops] at hm
  refine same_of_top rfl (eraseExtension_declare ..).symm ?_ ?_ fun name k => ?_
  · simp only [htop, get?_declare, Value.mappingOrNull_mapping]
  · rw [htops, htops']
    simp only [hperm.mem_iff]
  · rw [topDeclaration, topDeclaration, htops, htops', get?_perm hm hperm]

theorem same_of_entry (hp : p.KeysDistinct) {before after m m' : Mapping} {name : String}
    (htop : p.extensions.get? key = some (.mapping (before ++ (.string name, .mapping m) :: after)))
    (hperm : m.Perm m') :
    p.SameDeclarations key
    (p.declare key (.mapping (before ++ (.string name, .mapping m') :: after))) := by
  have htops := topDeclarations_of_get? htop
  have htops' := topDeclarations_of_get?
    (get?_declare key (.mapping (before ++ (.string name, .mapping m') :: after)) p)
  have hm : Distinct m := by
    have hentries := (Value.keysDistinct_mapping_iff.1 (hp.topDeclarations key)).1
    rw [htops] at hentries
    exact (Value.keysDistinct_mapping_iff.1 (hentries (.string name, .mapping m) (by simp)).2).2
  refine same_of_top rfl (eraseExtension_declare ..).symm ?_ ?_ fun name' k => ?_
  · simp only [htop, get?_declare, Value.mappingOrNull_mapping]
  · rw [htops, htops']
    simp only [List.forall_mem_append, List.forall_mem_cons, IsTop, Value.mappingOrNull_mapping]
  · rw [topDeclaration, topDeclaration, htops, htops', get?_append, get?_append, get?_cons_string,
      get?_cons_string]
    rcases get? before (.string name') with _ | v
    · by_cases hname : name = name'
      · rw [if_pos hname, if_pos hname]
        exact get?_perm hm hperm k
      · rw [if_neg hname, if_neg hname]
    · rfl

theorem same_of_omitted (hnone : p.topDeclarations key = [])
    (htop : Value.MappingOrNull (p.extensions.get? key)) :
    p.SameDeclarations key { p with extensions := p.extensions.erase key } := by
  have hget : (p.extensions.erase key).get? key = none := by rw [Dict.get?_erase, if_pos rfl]
  have hnone' : ({ p with extensions := p.extensions.erase key } : Project).topDeclarations
      key = [] := by
    rw [topDeclarations, hget]
    rfl
  refine same_of_top rfl ?_ ?_ ?_ fun name k => ?_
  · have herase : (p.extensions.erase key).erase key = p.extensions.erase key := by
      refine Dict.ext_get? fun k => ?_
      rw [Dict.get?_erase]
      split
      · rename_i hk
        rw [hk, hget]
      · rfl
    rw [Session.eraseExtension, Session.eraseExtension, herase]
  · rw [hget]
    exact iff_of_true Value.mappingOrNull_none htop
  · rw [hnone, hnone']
  · rw [topDeclaration, topDeclaration, hnone, hnone']

end Top

/-- **No such change declares anything else.** -/
theorem Rewriting.same (hp : p.KeysDistinct) (h : Rewriting key p q) :
    p.SameDeclarations key q := by
  cases h with
  | own hservices hs hperm => exact same_of_own hp hservices hs hperm
  | entry htop hperm => exact same_of_entry hp htop hperm
  | entries htop hperm => exact same_of_entries hp htop hperm
  | move hservices hnone htop => exact same_of_move hp hservices hnone htop
  | omitted hnone htop => exact same_of_omitted hnone htop

end Project

end ComposePods

import ComposePods.Pod.Session
import ComposePods.Proofs.Declarations
import ComposePods.Proofs.Entries
import ComposePods.Proofs.Run

/-!
# Where declarations stand

The declaration of a service stands in the extension of the project under the name of the service,
or in the extension of the service itself. Where both have a key, the service's own value of it
counts as a whole.

* `Project.KeysDistinct`: what all mappings of documents satisfy;
* `Project.topDeclaration`, `Service.ownDeclaration`: the places where a service is declared;
* `Project.ownDeclared`, `Project.declared`: what the declarations of a service say about a key;
* `Project.Placed`: only services are declared, and each of them by a mapping;
* **`Session.exists_declarations_iff`**: declarations are collected exactly if they are placed;
* **`Session.lookIn_declarations`**: what is collected says the same as the declarations.
-/

namespace ComposePods

open Mapping

/-! ## The declarations of a service -/

/-- The declaration in the extension of the service, without entries if there is none. -/
def Service.ownDeclaration (key : String) (s : Service) : Mapping :=
  Value.orEmpty (s.extensions.get? key)

namespace Project

/-- No mapping in an extension has two entries of the same key. -/
structure KeysDistinct (p : Project) : Prop where
  extensions : ∀ e ∈ p.extensions.entries, e.2.keysDistinct = true
  services : ∀ s ∈ p.services, ∀ e ∈ s.extensions.entries, e.2.keysDistinct = true

/-- The extension of the project under a key: declarations by the names of services. -/
def topDeclarations (p : Project) (key : String) : Mapping := Value.orEmpty (p.extensions.get? key)

/-- The declaration of a service in the extension of the project, without entries if there is
none. -/
def topDeclaration (p : Project) (key name : String) : Mapping :=
  Value.orEmpty (get? (p.topDeclarations key) (.string name))

/-- What the own declarations of services of a name say about a key. They are several only if
services share the name; then the last one with the key counts. -/
def ownDeclared (key name : String) : List Service → Value → Option Value
  | [], _ => none
  | s :: ss, k =>
    (ownDeclared key name ss k).or (if s.name = name then get? (s.ownDeclaration key) k else none)

/-- What the declarations of a service say about a key: its own value of the key or, where it has
none, the one in the project. -/
def declared (p : Project) (key name : String) (k : Value) : Option Value :=
  (ownDeclared key name p.services k).or (get? (p.topDeclaration key name) k)

/-- An entry is a mapping, or null, under one of some names. -/
def IsTop (names : List String) (e : Value × Value) : Prop :=
  (∃ name ∈ names, e.1 = .string name) ∧ Value.MappingOrNull (some e.2)

/-- Extensions are mappings or null, and all entries of that of the project stand under names of
services. -/
structure Placed (p : Project) (key : String) : Prop where
  top : Value.MappingOrNull (p.extensions.get? key)
  entries : ∀ e ∈ p.topDeclarations key, IsTop p.names e
  own : ∀ s ∈ p.services, Value.MappingOrNull (s.extensions.get? key)

variable {p : Project} {key : String}

/-! ### Own declarations -/

theorem ownDeclared_split (before after : List Service) (s : Service) (name : String) (k : Value) :
    ownDeclared key name (before ++ s :: after) k =
      ((ownDeclared key name after k).or (if s.name = name then get? (s.ownDeclaration key) k
        else none)).or (ownDeclared key name before k) := by
  induction before with
  | nil => rw [List.nil_append, ownDeclared, ownDeclared, Option.or_none]
  | cons t before ih => rw [List.cons_append, ownDeclared, ih, ownDeclared, Option.or_assoc]

theorem ownDeclared_eq_none {ss : List Service} {name : String}
    (hss : ∀ s ∈ ss, s.name = name → s.extensions.get? key = none) (k : Value) :
    ownDeclared key name ss k = none := by
  induction ss with
  | nil => rfl
  | cons s ss ih =>
    obtain ⟨hs, hss⟩ := List.forall_mem_cons.1 hss
    rw [ownDeclared, ih hss, Option.none_or]
    split
    · rename_i hname
      rw [Service.ownDeclaration, hs hname]
      rfl
    · rfl

theorem ownDeclared_of_unique {ss : List Service} {s : Service} (hs : s ∈ ss)
    (hunique : ∀ t ∈ ss, t.name = s.name → t = s) (k : Value) :
    ownDeclared key s.name ss k = get? (s.ownDeclaration key) k := by
  induction ss with
  | nil => cases hs
  | cons t ss ih =>
    obtain ⟨ht, hss⟩ := List.forall_mem_cons.1 hunique
    rw [ownDeclared]
    -- The same service may come more than once, and the last one counts.
    by_cases hmem : s ∈ ss
    · rw [ih hmem hss]
      split
      · rename_i hname
        rw [ht hname, Option.or_self]
      · rw [Option.or_none]
    · obtain rfl : s = t := (List.mem_cons.1 hs).resolve_right hmem
      have hothers (t : Service) (ht : t ∈ ss) (hname : t.name = s.name) :
          t.extensions.get? key = none :=
        absurd (hss t ht hname ▸ ht) hmem
      rw [ownDeclared_eq_none hothers, if_pos rfl, Option.none_or]

theorem KeysDistinct.topDeclarations (hp : p.KeysDistinct) (key : String) :
    (Value.mapping (p.topDeclarations key)).keysDistinct = true :=
  Value.keysDistinct_orEmpty fun _ hv => hp.extensions _ (Dict.mem_entries_iff.2 hv)

theorem KeysDistinct.ownDeclaration (hp : p.KeysDistinct) {s : Service} (hs : s ∈ p.services)
    (key : String) : (Value.mapping (s.ownDeclaration key)).keysDistinct = true :=
  Value.keysDistinct_orEmpty fun _ hv => hp.services s hs _ (Dict.mem_entries_iff.2 hv)

end Project

/-! ## Collecting declarations -/

namespace Session

variable {p : Project} {key : String}

/-- What the declaration of a service says about a key, in declarations that are collected. -/
def lookIn (d : Dict Mapping) (name : String) (k : Value) : Option Value :=
  get? ((d.get? name).getD []) k

theorem lookIn_insert (d : Dict Mapping) (name name' : String) (m : Mapping) (k : Value) :
    lookIn (d.insert name m) name' k = if name' = name then get? m k else lookIn d name' k := by
  rw [lookIn, Dict.get?_insert]
  split <;> rfl

/-! ### The extension of the project -/

theorem service?_isSome_iff {name : String} : (p.service? name).isSome = true ↔ name ∈ p.names := by
  rw [Project.service?, List.find?_isSome, Project.names, List.mem_map]
  simp only [beq_iff_eq]

theorem readEntry_ok_iff {d d' : Dict Mapping} {e : Value × Value} :
    readEntry key p d e = .ok d' ↔
      ∃ name ∈ p.names, e.1 = .string name ∧
        ∃ m, Value.orEmpty? (some e.2) = some m ∧ d.insert name m = d' := by
  obtain ⟨k, v⟩ := e
  cases k with
  | string name =>
    have hmap (l : Location) : (l.mapping v).map (d.insert name) = .ok d' ↔
        ∃ m, Value.orEmpty? (some v) = some m ∧ d.insert name m = d' := by
      simp only [← @Value.mapping_ok_iff l]
      exact map_ok_iff
    change (if (p.service? name).isSome = true then
        ((Location.projectEntry key name).mapping v).map (d.insert name)
      else .error (.unknownService key name)) = .ok d' ↔ _
    constructor
    · intro h
      split at h
      · rename_i hs
        exact ⟨name, service?_isSome_iff.1 hs, rfl, (hmap _).1 h⟩
      · cases h
    · rintro ⟨_, hs, ⟨⟩, hm⟩
      rw [if_pos (service?_isSome_iff.2 hs)]
      exact (hmap _).2 hm
  | null | bool | number | sequence | mapping | tagged => simp [readEntry]

theorem exists_readEntry_iff (d : Dict Mapping) (e : Value × Value) :
    (∃ d', readEntry key p d e = .ok d') ↔ Project.IsTop p.names e := by
  simp only [readEntry_ok_iff, Project.IsTop, Value.MappingOrNull]
  constructor
  · rintro ⟨_, name, hname, he, m, hm, -⟩
    exact ⟨⟨name, hname, he⟩, m, hm⟩
  · rintro ⟨⟨name, hname, he⟩, m, hm⟩
    exact ⟨_, name, hname, he, m, hm, rfl⟩

theorem get?_of_foldlM_readEntry {m : Mapping} (hm : Distinct m) {d d' : Dict Mapping}
    (h : m.foldlM (readEntry key p) d = .ok d') (name : String) :
    d'.get? name = ((get? m (.string name)).map fun v => Value.orEmpty (some v)).or
    (d.get? name) := by
  induction m generalizing d with
  | nil =>
    obtain rfl : d = d' := pure_ok_iff.1 h
    rfl
  | cons e m ih =>
    obtain ⟨k, v⟩ := e
    obtain ⟨hnew, hrest⟩ := List.pairwise_cons.1 hm
    rw [List.foldlM_cons, bind_ok_iff] at h
    obtain ⟨d₁, hd₁, h⟩ := h
    obtain ⟨name', -, rfl, n, hn, rfl⟩ := readEntry_ok_iff.1 hd₁
    rw [ih hrest h, Dict.get?_insert, get?_cons_string]
    by_cases hname : name = name'
    · -- No later entry has the name of this one.
      have hnone : get? m (.string name') = none := get?_eq_none_of_new hnew
      subst hname
      rw [if_pos rfl, if_pos rfl, hnone, Option.map_some, Value.orEmpty, hn]
      rfl
    · rw [if_neg hname, if_neg (Ne.symm hname)]

/-- **The declarations in the extension of the project** are found under the names of their
services. -/
theorem getD_ofExtension (hp : p.KeysDistinct) {d : Dict Mapping} (h : ofExtension key p = .ok d)
    (name : String) : (d.get? name).getD [] = p.topDeclaration key name := by
  have hm := (Value.keysDistinct_mapping_iff.1 (hp.topDeclarations key)).2
  rw [Project.topDeclaration, Project.topDeclarations] at *
  rw [ofExtension] at h
  split at h
  · rename_i hnone
    obtain rfl := Except.ok.inj h
    rw [hnone]
    rfl
  · rename_i v hv
    obtain ⟨m, hmapping, h⟩ := bind_ok_iff.1 h
    rw [hv, Value.orEmpty_of_mapping_ok hmapping] at hm ⊢
    rw [get?_of_foldlM_readEntry hm h]
    cases get? m (.string name) <;> rfl

theorem exists_ofExtension_iff :
    (∃ d, ofExtension key p = .ok d) ↔ Value.MappingOrNull (p.extensions.get? key) ∧
      ∀ e ∈ p.topDeclarations key, Project.IsTop p.names e := by
  rw [ofExtension, Project.topDeclarations]
  cases p.extensions.get? key with
  | none => exact ⟨fun _ => ⟨Value.mappingOrNull_none, nofun⟩, fun _ => ⟨_, rfl⟩⟩
  | some v =>
    simp only [bind_ok_iff, Value.mapping_ok_iff, Value.orEmpty, Value.MappingOrNull]
    cases Value.orEmpty? (some v) with
    | none => simp
    | some m =>
      simp only [Option.some.injEq, exists_eq_left', exists_eq', true_and, Option.getD_some]
      exact exists_foldlM_ok_iff exists_readEntry_iff

/-! ### The extensions of services -/

theorem readOwn_ok_iff {d d' : Dict Mapping} {s : Service} :
    readOwn key d s = .ok d' ↔ Value.MappingOrNull (s.extensions.get? key) ∧
      d' = if s.extensions.get? key = none then d
        else d.insert s.name (overlay ((d.get? s.name).getD []) (s.ownDeclaration key)) := by
  rw [readOwn, Service.ownDeclaration]
  cases s.extensions.get? key with
  | none => simp [eq_comm]
  | some v =>
    simp only [bind_ok_iff, pure_ok_iff, Value.mapping_ok_iff, Value.orEmpty, Value.MappingOrNull]
    cases Value.orEmpty? (some v) with
    | none => simp
    | some m => simp [eq_comm]

theorem exists_readOwn_iff (d : Dict Mapping) (s : Service) :
    (∃ d', readOwn key d s = .ok d') ↔ Value.MappingOrNull (s.extensions.get? key) := by
  simp only [readOwn_ok_iff, exists_and_left, exists_eq, and_true]

/-- **Declarations are collected** exactly if they are placed. -/
theorem exists_declarations_iff : (∃ d, declarations key p = .ok d) ↔ p.Placed key := by
  have hown (d : Dict Mapping) : (∃ d', p.services.foldlM (readOwn key) d = .ok d') ↔
      ∀ s ∈ p.services, Value.MappingOrNull (s.extensions.get? key) :=
    exists_foldlM_ok_iff exists_readOwn_iff
  simp only [declarations, bind_ok_iff]
  constructor
  · rintro ⟨d', d, hd, hd'⟩
    obtain ⟨htop, hentries⟩ := exists_ofExtension_iff.1 ⟨d, hd⟩
    exact ⟨htop, hentries, (hown d).1 ⟨d', hd'⟩⟩
  · intro h
    obtain ⟨d, hd⟩ := exists_ofExtension_iff.2 ⟨h.top, h.entries⟩
    obtain ⟨d', hd'⟩ := (hown d).2 h.own
    exact ⟨d', d, hd, hd'⟩

theorem lookIn_of_readOwn {d d' : Dict Mapping} {s : Service} (hs : Distinct (s.ownDeclaration key))
    (h : readOwn key d s = .ok d') (name : String) (k : Value) :
    lookIn d' name k =
      if s.name = name then (get? (s.ownDeclaration key) k).or (lookIn d name k)
        else lookIn d name k := by
  obtain ⟨-, rfl⟩ := readOwn_ok_iff.1 h
  split
  · rename_i hnone
    rw [Service.ownDeclaration, hnone]
    split <;> rfl
  · rw [lookIn_insert]
    by_cases hname : name = s.name
    · subst hname
      rw [if_pos rfl, if_pos rfl, get?_overlay hs]
      rfl
    · rw [if_neg hname, if_neg (Ne.symm hname)]

theorem lookIn_of_foldlM_readOwn {ss : List Service}
    (hss : ∀ s ∈ ss, Distinct (s.ownDeclaration key)) {d d' : Dict Mapping}
    (h : ss.foldlM (readOwn key) d = .ok d') (name : String) (k : Value) :
    lookIn d' name k = (Project.ownDeclared key name ss k).or (lookIn d name k) := by
  induction ss generalizing d with
  | nil =>
    obtain rfl : d = d' := pure_ok_iff.1 h
    rfl
  | cons s ss ih =>
    obtain ⟨hs, hss⟩ := List.forall_mem_cons.1 hss
    rw [List.foldlM_cons, bind_ok_iff] at h
    obtain ⟨d₁, hd₁, h⟩ := h
    rw [ih hss h, lookIn_of_readOwn hs hd₁, Project.ownDeclared, Option.or_assoc]
    split
    · rfl
    · rw [Option.none_or]

/-- **What is collected says the same as the declarations** of a service. -/
theorem lookIn_declarations (hp : p.KeysDistinct) {d : Dict Mapping}
    (h : declarations key p = .ok d) (name : String) : lookIn d name = p.declared key name := by
  obtain ⟨d₀, hd₀, h⟩ := bind_ok_iff.1 h
  funext k
  rw [lookIn_of_foldlM_readOwn
    (fun s hs => (Value.keysDistinct_mapping_iff.1 (hp.ownDeclaration hs key)).2) h, lookIn,
    getD_ofExtension hp hd₀]
  rfl

theorem keysDistinct_declarations (hp : p.KeysDistinct) {d : Dict Mapping}
    (h : declarations key p = .ok d) (name : String) :
    (Value.mapping ((d.get? name).getD [])).keysDistinct = true := by
  obtain ⟨d₀, hd₀, h⟩ := bind_ok_iff.1 h
  refine foldlM_preserves
    (P := fun d => ∀ name, (Value.mapping ((d.get? name).getD [])).keysDistinct = true)
    (fun u s hs v hu hv name => ?_) (fun name => ?_) h name
  · obtain ⟨-, rfl⟩ := readOwn_ok_iff.1 hv
    split
    · exact hu name
    · rw [Dict.get?_insert]
      split
      · exact Value.keysDistinct_overlay (hu s.name) (hp.ownDeclaration hs key)
      · exact hu name
  · rw [getD_ofExtension hp hd₀]
    exact Value.keysDistinct_orEmpty (Value.keysDistinct_of_get? (hp.topDeclarations key))

end Session

end ComposePods

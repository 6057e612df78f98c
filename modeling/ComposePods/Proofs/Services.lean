import ComposePods.Proofs.Properties
import ComposePods.Proofs.Reading
import ComposePods.Service.Location

/-!
# Services read back

A service is written as a mapping of the properties that are set and of its extensions, without its
name. What has been written is read back as the same service without its name, if the service is
such as services that have been read are; and it stays so when host paths are resolved, labels are
set or extensions are taken out.

* `Service.Sound`: properties and extensions such as they are read;
* **`Service.sound_of_read`**, `Service.Sound.set`, `Service.Sound.locate`, `Service.Sound.erase`:
  which services are sound;
* **`Service.read_of_shows`**: a sound service is read back.
-/

namespace ComposePods

namespace Service

open Source Source.Showing

variable {s : Service}

/-- The properties and extensions of a service are such as they are read. -/
structure Sound (s : Service) : Prop where
  value : ∀ p : Property, p.kind.Sound (s.value p)
  /-- No extension has the name of a property. -/
  further : ∀ e ∈ s.extensions.entries, Property.ofName? e.1 = none
  hasTag : ∀ e ∈ s.extensions.entries, e.2.hasTag = false
  keysDistinct : ∀ e ∈ s.extensions.entries, e.2.keysDistinct = true

/-! ## Sound services -/

theorem sound_empty (name : String) : (empty name).Sound where
  value p := p.kind.sound_unset
  further := nofun
  hasTag := nofun
  keysDistinct := nofun

namespace Sound

theorem set (hs : s.Sound) {p : Property} {v : p.Carrier} (hv : p.kind.Sound v) :
    (s.set p v).Sound where
  value q := by
    by_cases h : q = p
    · subst h
      rw [set_self]
      exact hv
    · rw [set_of_ne s v h]
      exact hs.value q
  further := hs.further
  hasTag := hs.hasTag
  keysDistinct := hs.keysDistinct

theorem withName (hs : s.Sound) (name : String) : ({ s with name } : Service).Sound where
  value := hs.value
  further := hs.further
  hasTag := hs.hasTag
  keysDistinct := hs.keysDistinct

theorem locate (hs : s.Sound) (directory : String) : (s.locate directory).Sound := by
  have hvolumes : Kind.Sound .volumes (s.volumes.map (Volume.locate directory)) := by
    intro w hw
    obtain ⟨v, hv, rfl⟩ := List.mem_map.1 hw
    have hsound : v.Sound := hs.value .volumes v hv
    unfold Volume.locate
    split
    · split <;> trivial
    · split <;> exact hsound
  have henv : Kind.Sound .textOrList (s.envFile.map (·.map (Path.resolve directory))) := trivial
  have hbuild : Kind.Sound .build (s.build.map (Build.locate directory)) := trivial
  exact ((hs.set (p := .volumes) hvolumes).set (p := .envFile) henv).set (p := .build) hbuild

theorem erase (hs : s.Sound) (name : String) :
    ({ s with extensions := s.extensions.erase name } : Service).Sound where
  value := hs.value
  further e he := hs.further e (List.mem_of_mem_filter he)
  hasTag e he := hs.hasTag e (List.mem_of_mem_filter he)
  keysDistinct e he := hs.keysDistinct e (List.mem_of_mem_filter he)

end Sound

variable {α : Type} [Source α] [Showing α] {x : α}

/-- **A service that is read is sound.** -/
theorem sound_of_read (h : Service.read x = .ok s) : s.Sound := by
  obtain ⟨es, state, -, hstate, hdistinct, rfl⟩ := read_ok_iff.1 h
  let SoundDraft (d : Draft) : Prop := (∀ p : Property, p.kind.Sound (d.service.value p)) ∧
    ∀ e ∈ d.further, Property.ofName? e.1 = none ∧ e.2.hasTag = false
  have hsound : SoundDraft state := by
    refine foldlM_preserves (fun d e _ next hd hnext => ?_) ?_ hstate
    · obtain ⟨name, -, h⟩ := readEntry_ok_iff.1 hnext
      rcases h with ⟨p, v, -, -, hv, rfl⟩ | ⟨v, hname, hv, rfl⟩
      · refine ⟨fun q => ?_, hd.2⟩
        by_cases hq : q = p
        · subst hq
          change q.kind.Sound ((d.service.set q v).value q)
          rw [set_self]
          exact Kind.sound_of_read hv
        · change q.kind.Sound ((d.service.set p v).value q)
          rw [set_of_ne d.service v hq]
          exact hd.1 q
      · refine ⟨hd.1, fun e he => ?_⟩
        rcases List.mem_append.1 he with he | he
        · exact hd.2 e he
        · obtain rfl := List.mem_singleton.1 he
          exact ⟨hname, hasTag_of_untaggedValue hv⟩
    · exact ⟨(sound_empty "").value, nofun⟩
  exact {
    value := hsound.1
    further := fun e he => (hsound.2 e (Dict.mem_entries_ofList he)).1
    hasTag := fun e he => (hsound.2 e (Dict.mem_entries_ofList he)).2
    keysDistinct := fun e he => hdistinct e (Dict.mem_entries_ofList he) }

/-! ## Reading back -/

/-- The fields of a service as it is written. -/
def fields (s : Service) : List (String × Option Value) :=
  (Property.all.map fun p => (p.name, p.kind.write (s.value p))) ++
    s.extensions.entries.map fun e => (e.1, some e.2)

theorem definition_eq (s : Service) : Value.mapping s.definition = .record s.fields := by
  rw [Value.record, definition, fields, List.filterMap_append, List.filterMap_map,
    List.filterMap_map]
  congr 2
  exact congrFun List.filterMap_eq_map.symm s.extensions.entries

theorem ofName?_name (p : Property) : Property.ofName? p.name = some p := by
  cases p <;> decide

theorem name_of_ofName? {name : String} {p : Property} (h : Property.ofName? name = some p) :
    p.name = name := by
  simpa using List.find?_some h

theorem runs_properties (hs : s.Sound) {ps : List Property} {state : Draft} (hps : ps.Nodup)
    (hmet : ∀ p ∈ ps, p ∉ state.met)
    (hunset : ∀ p ∈ ps, state.service.value p = p.kind.unset) :
    ∃ next : Draft,
      Runs (α := α) readEntry (ps.map fun p => (p.name, p.kind.write (s.value p))) state next ∧
      next.further = state.further ∧ next.service.name = state.service.name ∧
      (∀ p ∈ next.met, p ∈ ps ∨ p ∈ state.met) ∧
      ∀ p, next.service.value p = if p ∈ ps then s.value p else state.service.value p := by
  induction ps generalizing state with
  | nil => exact ⟨state, rfl, rfl, rfl, fun p => .inr, fun p => by simp⟩
  | cons p ps ih =>
    rw [List.nodup_cons] at hps
    rw [List.forall_mem_cons] at hmet hunset
    rcases hw : p.kind.write (s.value p) with _ | w
    · -- What is not written is unset, and so it stays.
      obtain ⟨next, hruns, hfurther, hname, hnext, hvalue⟩ := ih hps.2 hmet.2 hunset.2
      refine ⟨next, by rw [List.map_cons, hw]; exact hruns, hfurther, hname,
        fun q hq => (hnext q hq).imp_left (List.mem_cons_of_mem _), fun q => ?_⟩
      rw [hvalue q]
      by_cases hq : q = p
      · subst hq
        rw [if_neg hps.1, if_pos List.mem_cons_self, hunset.1, Kind.eq_unset_of_write hw]
      · simp [hq]
    · have hne (q : Property) (hq : q ∈ ps) : q ≠ p := fun h => hps.1 (h ▸ hq)
      obtain ⟨next, hruns, hfurther, hname, hnext, hvalue⟩ := @ih
        { state with service := state.service.set p (s.value p), met := p :: state.met } hps.2
        (fun q hq hmem => (List.mem_cons.1 hmem).elim (hne q hq) (hmet.2 q hq))
        (fun q hq => (set_of_ne _ _ (hne q hq)).trans (hunset.2 q hq))
      refine ⟨next, ?_, hfurther, hname, fun q hq => ?_, fun q => ?_⟩
      · rw [List.map_cons, hw]
        refine ⟨_, fun y hname hv => ?_, hruns⟩
        exact readEntry_ok_iff.2 ⟨p.name, name_of_shows hname,
          .inl ⟨p, s.value p, ofName?_name p, hmet.1, Kind.read_of_shows (hs.value p) hw hv, rfl⟩⟩
      · rcases hnext q hq with hq | hq
        · exact .inl (List.mem_cons_of_mem _ hq)
        · rcases List.mem_cons.1 hq with rfl | hq
          · exact .inl List.mem_cons_self
          · exact .inr hq
      · rw [hvalue q]
        by_cases hq : q = p
        · subst hq
          simp [hps.1]
        · by_cases hmem : q ∈ ps
          · simp [hmem]
          · simp [hmem, hq, set_of_ne]

theorem runs_further {es : List (String × Value)} {state : Draft}
    (hnames : ∀ e ∈ es, Property.ofName? e.1 = none) (htags : ∀ e ∈ es, e.2.hasTag = false) :
    Runs (α := α) readEntry (es.map fun e => (e.1, some e.2)) state
      { state with further := state.further ++ es } := by
  induction es generalizing state with
  | nil => simp [Runs]
  | cons e es ih =>
    rw [List.forall_mem_cons] at hnames htags
    have hrest := @ih { state with further := state.further ++ [e] } hnames.2 htags.2
    refine ⟨{ state with further := state.further ++ [e] }, fun y hname hv => ?_,
      by simpa using hrest⟩
    exact readEntry_ok_iff.2 ⟨e.1, name_of_shows hname, .inr ⟨e.2, hnames.1,
      untaggedValue_of_shows hv htags.1, rfl⟩⟩

/-- **A sound service is read back** without its name, from every source in which it is seen. -/
theorem read_of_shows (hs : s.Sound) (h : Shows x (.mapping s.definition)) :
    Service.read x = .ok { s with name := "" } := by
  have hnodup : Property.all.Nodup := by decide
  obtain ⟨next, hruns, hfurther, hname, -, hvalue⟩ := @runs_properties s α _ _ hs
    Property.all ⟨empty "", [], []⟩ hnodup (fun _ _ => List.not_mem_nil) fun _ _ => rfl
  have hruns := hruns.append (runs_further hs.further hs.hasTag)
  obtain ⟨ys, hys, hfold⟩ := foldlM_of_shows "struct ServiceConfig" (definition_eq s ▸ h) hruns
  rw [hfurther, List.nil_append] at hfold
  refine read_ok_iff.2 ⟨ys, _, hys, hfold, hs.keysDistinct, ?_⟩
  have hsame : next.service.value = s.value := by
    funext p
    rw [hvalue p, if_pos (Property.mem_all p)]
  have hnamed : next.service.name = "" := hname
  simp only [Dict.ofList_entries, hsame, hnamed]

end Service

end ComposePods

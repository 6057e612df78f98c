import ComposePods.Compose.Alternatives
import ComposePods.Proofs.Entries
import ComposePods.Proofs.Outcome

/-!
# Records among the forms

A property with several forms may be a record, which is written as a mapping of the fields that are
set and read slot by slot. Here are the facts on records and on single fields that the forms are
built from.

* `Value.hasTagEntries_iff`, `Value.hasTag_record`, `Value.hasTag_ofDict`: values without tags;
* `Value.pairs?_ofPairs`, `Value.labels?_ofLabels`: pairs and labels read back;
* `Form.slots?_record`: **the slots of a record that has been written** hold its fields;
* `Form.hasTag_of_slots?`: the slots of a value without tags have none;
* `Form.field?_map`, `Form.of_field?`: fields that may be left out;
* `Mapping.Tidy`: what a mapping in a field satisfies.
-/

namespace ComposePods

/-! ## Values without tags -/

namespace Value

theorem hasTagItems_iff {vs : List Value} : hasTagItems vs = true ↔ ∃ v ∈ vs, v.hasTag = true := by
  induction vs with
  | nil => simp [hasTagItems]
  | cons v vs ih => simp [hasTagItems, ih]

theorem hasTagEntries_iff {es : Mapping} :
    hasTagEntries es = true ↔ ∃ e ∈ es, e.1.hasTag = true ∨ e.2.hasTag = true := by
  induction es with
  | nil => simp [hasTagEntries]
  | cons e es ih =>
    obtain ⟨k, v⟩ := e
    simp [hasTagEntries, ih]

theorem hasTag_sequence_eq_false {vs : List Value} :
    (Value.sequence vs).hasTag = false ↔ ∀ v ∈ vs, v.hasTag = false := by
  rw [hasTag, Bool.eq_false_iff, ne_eq, hasTagItems_iff]
  simp

theorem hasTag_mapping_eq_false {es : Mapping} :
    (Value.mapping es).hasTag = false ↔ ∀ e ∈ es, e.1.hasTag = false ∧ e.2.hasTag = false := by
  rw [hasTag, Bool.eq_false_iff, ne_eq, hasTagEntries_iff]
  simp

@[simp] theorem hasTag_strings (ss : List String) : (strings ss).hasTag = false := by
  rw [strings, hasTag_sequence_eq_false]
  intro v hv
  obtain ⟨s, -, rfl⟩ := List.mem_map.1 hv
  rfl

theorem hasTag_record {fields : List (String × Option Value)}
    (h : ∀ f ∈ fields, ∀ v ∈ f.2, v.hasTag = false) : (record fields).hasTag = false := by
  rw [record, hasTag_mapping_eq_false]
  intro e he
  obtain ⟨f, hf, hfe⟩ := List.mem_filterMap.1 he
  obtain ⟨v, hv, rfl⟩ := Option.map_eq_some_iff.1 hfe
  exact ⟨rfl, h f hf v hv⟩

theorem hasTag_ofDict {β : Type} {write : β → Value} {d : Dict β}
    (h : ∀ b, (write b).hasTag = false) : (ofDict write d).hasTag = false := by
  rw [ofDict, hasTag_mapping_eq_false]
  intro e he
  obtain ⟨f, -, rfl⟩ := List.mem_map.1 he
  exact ⟨rfl, h f.2⟩

theorem hasTag_ofTextOrNull (o : Option String) : (ofTextOrNull o).hasTag = false := by
  cases o <;> rfl

theorem keysDistinct_ofDict {β : Type} {write : β → Value} {d : Dict β}
    (h : ∀ b, (write b).keysDistinct = true) : (ofDict write d).keysDistinct = true := by
  have hentries (es : List (String × β)) :
      keysDistinctEntries (es.map fun e => (.string e.1, write e.2)) = true := by
    induction es with
    | nil => rfl
    | cons e es ih => simp [keysDistinctEntries, keysDistinct, h, ih]
  have hdistinct : Mapping.Distinct (d.entries.map fun e => (.string e.1, write e.2)) := by
    rw [Mapping.Distinct, List.pairwise_map]
    refine d.ascending.imp fun hlt => ?_
    rw [same_string, decide_eq_false_iff_not]
    exact Std.compare_ne_eq_iff_ne.1 (by rw [hlt]; decide)
  rw [ofDict, keysDistinct, hentries, Bool.true_and]
  exact decide_eq_true hdistinct

theorem hasTag_map {β : Type} {write : β → Value} (o : Option β)
    (h : ∀ b ∈ o, (write b).hasTag = false) : ∀ v ∈ o.map write, v.hasTag = false := by
  intro v hv
  obtain ⟨b, hb, rfl⟩ := Option.map_eq_some_iff.1 hv
  exact h b hb

/-! ## Pairs and labels -/

theorem pairs?_ofDict {β : Type} (write : β → Value) (read : β → Option String) (d : Dict β)
    (hwrite : ∀ key b, pairOfEntry? (.string key, write b) = .ok (key, read b)) :
    (ofDict write d).pairs? = .ok (d.map read) := by
  have hentries : (d.entries.map fun e => (Value.string e.1, write e.2)).mapM pairOfEntry? =
      .ok (d.map read).entries := by
    rw [mapM_ok_iff, Dict.map, List.forall₂_map_left_iff, List.forall₂_map_right_iff,
      List.forall₂_same]
    exact fun e _ => hwrite e.1 e.2
  rw [ofDict, pairs?, hentries]
  exact congrArg Except.ok (Dict.ofList_entries _)

theorem pairs?_ofPairs (d : Dict (Option String)) : (ofPairs d).pairs? = .ok d := by
  rw [ofPairs, pairs?_ofDict ofTextOrNull id d fun key b => by cases b <;> rfl]
  exact congrArg Except.ok (Dict.ext (List.map_id _))

theorem labels?_ofLabels (d : Dict String) : (ofLabels d).labels? = .ok d := by
  rw [labels?, ofLabels, pairs?_ofDict .string some d fun key b => rfl]
  refine congrArg Except.ok (Dict.ext ?_)
  exact List.map_map.trans (List.map_id _)

theorem unlessEmpty_cases {β : Type} (write : Dict β → Value) (d : Dict β) :
    unlessEmpty write d = none ∧ d = .empty ∨ unlessEmpty write d = some (write d) := by
  by_cases h : d.isEmpty = true
  · exact .inl ⟨if_pos h, Dict.ext (List.isEmpty_iff.1 h)⟩
  · exact .inr (if_neg h)

theorem listUnlessEmpty_cases {β : Type} (write : β → Value) (xs : List β) :
    listUnlessEmpty write xs = none ∧ xs = [] ∨
      listUnlessEmpty write xs = some (.sequence (xs.map write)) := by
  by_cases h : xs.isEmpty = true
  · exact .inl ⟨if_pos h, List.isEmpty_iff.1 h⟩
  · exact .inr (if_neg h)

theorem eq_of_unlessEmpty {β : Type} {write : Dict β → Value} {d : Dict β} {v : Value}
    (h : unlessEmpty write d = some v) : v = write d := by
  rcases unlessEmpty_cases write d with ⟨hnone, -⟩ | hsome
  · rw [hnone] at h
    cases h
  · exact Option.some.inj (h.symm.trans hsome)

theorem eq_of_listUnlessEmpty {β : Type} {write : β → Value} {xs : List β} {v : Value}
    (h : listUnlessEmpty write xs = some v) : v = .sequence (xs.map write) := by
  rcases listUnlessEmpty_cases write xs with ⟨hnone, -⟩ | hsome
  · rw [hnone] at h
    cases h
  · exact Option.some.inj (h.symm.trans hsome)

end Value

namespace Form

/-! ## Slots -/

theorem findIdx?_of_nodup {before after : List String} {name : String}
    (h : (before ++ name :: after).Nodup) :
    (before ++ name :: after).findIdx? (· == name) = some before.length := by
  have hnone : before.findIdx? (· == name) = none := by
    rw [List.findIdx?_eq_none_iff]
    intro s hs
    have hne := (List.nodup_append.1 h).2.2 s hs name List.mem_cons_self
    simpa using hne
  rw [List.findIdx?_append, hnone]
  simp [List.findIdx?_cons]

theorem foldlM_fill? {before fields : List (String × Option Value)}
    (h : ((before ++ fields).map Prod.fst).Nodup) :
    (fields.filterMap fun f => f.2.map fun v => (Value.string f.1, v)).foldlM
        (fill? ((before ++ fields).map Prod.fst))
        (before.map Prod.snd ++ fields.map fun _ => none) =
      some ((before ++ fields).map Prod.snd) := by
  induction fields generalizing before with
  | nil => simp
  | cons f fields ih =>
    obtain ⟨n, o⟩ := f
    have hmove : before ++ (n, o) :: fields = before ++ [(n, o)] ++ fields := by simp
    have hrest := ih (hmove ▸ h)
    rw [← hmove] at hrest
    cases o with
    | none => simpa using hrest
    | some v =>
      have hplace : place? ((before ++ (n, some v) :: fields).map Prod.fst) (.string n) =
          some before.length := by
        have hname := findIdx?_of_nodup (by simpa using h)
        simpa [place?] using hname
      have hfill : fill? ((before ++ (n, some v) :: fields).map Prod.fst)
          (before.map Prod.snd ++ ((n, some v) :: fields).map fun _ => none) (.string n, v) =
            some ((before ++ [(n, some v)]).map Prod.snd ++ fields.map fun _ => none) := by
        rw [fill?, hplace]
        simp
      simp only [List.filterMap_cons, Option.map_some, List.foldlM_cons, hfill]
      exact hrest

/-- **The slots of a record that has been written** hold its fields. -/
theorem slots?_record {known : List String} {fields : List (String × Option Value)}
    (hknown : fields.map Prod.fst = known) (hnodup : known.Nodup) :
    slots? known (.record fields) = some (fields.map Prod.snd) := by
  subst hknown
  have h := @foldlM_fill? [] fields hnodup
  rw [Value.record, slots?, List.map_map]
  exact h

theorem hasTag_of_slots? {known : List String} {v : Value} {slots : List (Option Value)}
    (hv : v.hasTag = false) (h : slots? known v = some slots) :
    ∀ o ∈ slots, ∀ w ∈ o, w.hasTag = false := by
  unfold slots? at h
  split at h
  · rename_i es
    rw [Value.hasTag_mapping_eq_false] at hv
    refine foldlM_some_preserves (P := fun slots => ∀ o ∈ slots, ∀ w ∈ o, w.hasTag = false)
      (fun s e he t hs hst => ?_) ?_ h
    · simp only [fill?, Option.bind_eq_bind, Option.bind_eq_some_iff] at hst
      obtain ⟨i, -, hst⟩ := hst
      split at hst
      · cases hst
        intro o ho w hw
        rcases List.mem_or_eq_of_mem_set ho with ho | rfl
        · exact hs o ho w hw
        · obtain rfl := Option.mem_some_iff.1 hw
          exact (hv e he).2
      · cases hst
    · simp
  · rename_i items
    rw [Value.hasTag_sequence_eq_false] at hv
    split at h
    · cases h
      intro o ho w hw
      rcases List.mem_append.1 ho with ho | ho
      · obtain ⟨v, hmem, rfl⟩ := List.mem_map.1 ho
        obtain rfl := Option.mem_some_iff.1 hw
        exact hv v hmem
      · obtain rfl := List.eq_of_mem_replicate ho
        cases hw
    · cases h
  · cases h

/-! ## Fields -/

theorem field?_map {read : Value → Option β} {write : β → Value} {o : Option β}
    (hnull : ∀ b, write b ≠ .null) (hread : ∀ b ∈ o, read (write b) = some b) :
    field? read (o.map write) = some o := by
  cases o with
  | none => rfl
  | some b =>
    change optional? read (write b) = some (some b)
    unfold optional?
    split
    · exact absurd ‹_› (hnull b)
    · rw [hread b rfl]
      rfl

@[simp] theorem field?_text (o : Option String) : field? text? (o.map .string) = some o :=
  field?_map (by rintro _ ⟨⟩) fun _ _ => rfl

@[simp] theorem field?_flag (o : Option Bool) : field? flag? (o.map .bool) = some o :=
  field?_map (by rintro _ ⟨⟩) fun _ _ => rfl

theorem natural?_ofNat {most n : Nat} (h : n ≤ most) : natural? most (.ofNat n) = some n := by
  have hrange : (0 : Int) ≤ n ∧ (n : Int) ≤ most := by omega
  simp [natural?, Value.ofNat, hrange]

theorem le_of_natural? {most n : Nat} {v : Value} (h : natural? most v = some n) : n ≤ most := by
  unfold natural? at h
  split at h
  · rename_i i
    split at h
    · cases h
      omega
    · cases h
  · cases h

theorem field?_natural {most : Nat} {o : Option Nat} (h : ∀ n ∈ o, n ≤ most) :
    field? (natural? most) (o.map .ofNat) = some o :=
  field?_map (by rintro _ ⟨⟩) fun n hn => natural?_ofNat (h n hn)

theorem listOf?_strings (ss : List String) : listOf? text? (Value.strings ss) = some ss := by
  rw [Value.strings, listOf?, mapM_some_iff, List.forall₂_map_left_iff, List.forall₂_same]
  exact fun _ _ => rfl

theorem of_field? {read : Value → Option β} {slot : Option Value} {o : Option β}
    (h : field? read slot = some o) : ∀ b ∈ o, ∃ v ∈ slot, read v = some b := by
  intro b hb
  obtain rfl : o = some b := hb
  cases slot with
  | none => cases h
  | some v =>
    refine ⟨v, rfl, ?_⟩
    change optional? read v = some (some b) at h
    unfold optional? at h
    split at h
    · cases h
    · obtain ⟨c, hc, heq⟩ := Option.map_eq_some_iff.1 h
      cases heq
      exact hc

theorem le_of_field? {most : Nat} {slot : Option Value} {o : Option Nat}
    (h : field? (natural? most) slot = some o) : ∀ n ∈ o, n ≤ most := by
  intro n hn
  obtain ⟨v, -, hv⟩ := of_field? h n hn
  exact le_of_natural? hv

end Form

/-! ## Mappings in fields -/

/-- A mapping without tags and without a repeated key at any depth. -/
structure Mapping.Tidy (m : Mapping) : Prop where
  hasTag : (Value.mapping m).hasTag = false
  keysDistinct : (Value.mapping m).keysDistinct = true

namespace Form

theorem field?_mapping {o : Option Mapping} (h : ∀ m ∈ o, m.Tidy) :
    field? mapping? (o.map .mapping) = some o :=
  field?_map (by rintro _ ⟨⟩) fun m hm => by rw [mapping?, if_pos (h m hm).keysDistinct]

theorem tidy_of_field? {slot : Option Value} {o : Option Mapping}
    (htag : ∀ w ∈ slot, w.hasTag = false) (h : field? mapping? slot = some o) :
    ∀ m ∈ o, m.Tidy := by
  intro m hm
  obtain ⟨v, hslot, hv⟩ := of_field? h m hm
  unfold mapping? at hv
  split at hv
  · split at hv
    · cases hv
      exact ⟨htag _ hslot, ‹_›⟩
    · cases hv
  · cases hv

end Form

end ComposePods

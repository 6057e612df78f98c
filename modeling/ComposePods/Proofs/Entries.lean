import ComposePods.Dict
import Mathlib.Data.List.Dedup

/-!
# Entries of dictionaries

A dictionary is known by its entries. Inserting a new key adds one entry and changes no other;
inserting entries one after the other keeps the last one of every key, and all of them exactly if
their keys are distinct.

* `Dict.get?_insert`, `Dict.perm_insert`: what an insertion changes;
* `Dict.ext_get?`, `Dict.get?_erase`: equality by look-ups, and a key taken out;
* `Dict.get?_ofList`, `Dict.get?_ofList_eq_some_iff`: the last entry of a key counts;
* `Dict.ofList_eq_of_perm`: the order of entries with distinct keys does not;
* `Dict.keys_ofList_perm`: one entry for each key;
* **`Dict.perm_ofList_iff`**: no entry is lost exactly if the keys are distinct;
* `Dict.ofList_entries`: the entries of a dictionary give it back.
-/

namespace ComposePods

namespace Dict

variable {α β : Type}

/-! ## Keys -/

theorem contains_iff {d : Dict α} {k : String} : d.contains k = true ↔ k ∈ d.keys := by
  simp [contains, keys]

theorem keys_nodup (d : Dict α) : d.keys.Nodup := by
  rw [keys, List.Nodup, List.pairwise_map]
  exact d.ascending.imp fun {a b} hab => Std.compare_ne_eq_iff_ne.1 (by rw [hab]; decide)

theorem keys_ascending (d : Dict α) : d.keys.Pairwise fun a b => compare a b = .lt := by
  rw [keys, List.pairwise_map]
  exact d.ascending

theorem lookup_cons (k l : String) (w : α) (rest : List (String × α)) :
    List.lookup k ((l, w) :: rest) = if k = l then some w else rest.lookup k := by
  by_cases h : k = l
  · subst h
    simp
  · rw [List.lookup_cons, beq_false_of_ne h, if_neg h]

theorem lookup_isSome_iff {es : List (String × α)} {k : String} :
    (es.lookup k).isSome = true ↔ k ∈ es.map Prod.fst := by
  simp only [List.lookup_isSome_iff, beq_iff_eq, List.mem_map, @eq_comm _ k]

theorem mem_keys_iff {d : Dict α} {k : String} : k ∈ d.keys ↔ ∃ v, d.get? k = some v := by
  rw [keys, ← lookup_isSome_iff, Option.isSome_iff_exists]
  rfl

theorem mem_entries_iff {d : Dict α} {k : String} {v : α} :
    (k, v) ∈ d.entries ↔ d.get? k = some v := by
  have hkeys : (d.entries.map Prod.fst).Nodup := d.keys_nodup
  rw [get?]
  generalize d.entries = es at hkeys
  induction es with
  | nil => simp
  | cons e rest ih =>
    obtain ⟨l, w⟩ := e
    rw [List.map_cons, List.nodup_cons] at hkeys
    rw [lookup_cons, List.mem_cons, Prod.mk.injEq]
    by_cases h : k = l
    · subst h
      have hrest : (k, v) ∉ rest := fun hmem => hkeys.1 (List.mem_map.2 ⟨(k, v), hmem, rfl⟩)
      simp [hrest, eq_comm]
    · simp [h, ih hkeys.2]

/-! ## One insertion -/

theorem lookup_insertEntry (k k' : String) (v : α) (es : List (String × α)) :
    (insertEntry k v es).lookup k' = if k' = k then some v else es.lookup k' := by
  induction es with
  | nil => rw [insertEntry, lookup_cons]
  | cons e rest ih =>
    obtain ⟨l, w⟩ := e
    unfold insertEntry
    split
    · rw [lookup_cons]
    · rename_i hkl
      obtain rfl : k = l := Std.LawfulEqCmp.eq_of_compare hkl
      rw [lookup_cons, lookup_cons]
      by_cases h : k' = k <;> simp [h]
    · rename_i hkl
      have hne : k ≠ l := Std.compare_ne_eq_iff_ne.1 (by rw [hkl]; decide)
      rw [lookup_cons, lookup_cons, ih]
      by_cases hl : k' = l
      · subst hl
        simp [hne.symm]
      · simp [hl]

theorem get?_insert (d : Dict α) (k k' : String) (v : α) :
    (d.insert k v).get? k' = if k' = k then some v else d.get? k' :=
  lookup_insertEntry k k' v d.entries

theorem mem_keys_insert {d : Dict α} {k k' : String} {v : α} :
    k' ∈ (d.insert k v).keys ↔ k' = k ∨ k' ∈ d.keys := by
  rw [mem_keys_iff, mem_keys_iff, get?_insert]
  by_cases h : k' = k <;> simp [h]

theorem perm_insertEntry {k : String} {v : α} {es : List (String × α)} (hk : k ∉ es.map Prod.fst) :
    (insertEntry k v es).Perm ((k, v) :: es) := by
  induction es with
  | nil => rfl
  | cons e rest ih =>
    obtain ⟨l, w⟩ := e
    simp only [List.map_cons, List.mem_cons, not_or] at hk
    unfold insertEntry
    split
    · rfl
    · rename_i hkl
      exact absurd (Std.LawfulEqCmp.eq_of_compare hkl) hk.1
    · exact ((ih hk.2).cons _).trans (List.Perm.swap _ _ _)

theorem perm_insert {d : Dict α} {k : String} (v : α) (hk : k ∉ d.keys) :
    (d.insert k v).entries.Perm ((k, v) :: d.entries) := perm_insertEntry hk

/-! ## Dictionaries that look up the same -/

theorem ext_get? {a b : Dict α} (h : ∀ k, a.get? k = b.get? k) : a = b := by
  have hnodup (d : Dict α) : d.entries.Nodup := List.Nodup.of_map Prod.fst d.keys_nodup
  have hperm : a.entries.Perm b.entries := by
    rw [List.perm_ext_iff_of_nodup (hnodup a) (hnodup b)]
    rintro ⟨k, v⟩
    rw [mem_entries_iff, mem_entries_iff, h]
  refine ext (hperm.eq_of_pairwise (fun e f _ _ hef hfe => ?_) a.ascending b.ascending)
  rw [Std.OrientedCmp.gt_of_lt hef] at hfe
  cases hfe

theorem get?_erase (d : Dict α) (k k' : String) :
    (d.erase k).get? k' = if k' = k then none else d.get? k' := by
  refine Option.ext fun v => ?_
  rw [← mem_entries_iff, Option.ite_none_left_eq_some, ← mem_entries_iff, erase,
    List.mem_filter, and_comm]
  simp

theorem erase_insert (d : Dict α) (k : String) (v : α) : (d.insert k v).erase k = d.erase k := by
  refine ext_get? fun k' => ?_
  rw [get?_erase, get?_erase, get?_insert]
  split <;> rfl

/-! ## Many insertions -/

/-- Insert entries one after the other. -/
def insertAll (d : Dict α) (es : List (String × α)) : Dict α :=
  es.foldl (fun d e => d.insert e.1 e.2) d

theorem insertAll_cons (d : Dict α) (e : String × α) (es : List (String × α)) :
    d.insertAll (e :: es) = (d.insert e.1 e.2).insertAll es := rfl

theorem ofList_eq (es : List (String × α)) : ofList es = insertAll empty es := rfl

theorem mem_keys_insertAll {d : Dict α} {es : List (String × α)} {k : String} :
    k ∈ (d.insertAll es).keys ↔ k ∈ d.keys ∨ k ∈ es.map Prod.fst := by
  induction es generalizing d with
  | nil => simp [insertAll]
  | cons e es ih =>
    rw [insertAll_cons, ih, mem_keys_insert, List.map_cons, List.mem_cons]
    tauto

/-- **New and distinct keys add their entries to the others.** -/
theorem perm_insertAll {d : Dict α} {es : List (String × α)}
    (h : (d.keys ++ es.map Prod.fst).Nodup) : (d.insertAll es).entries.Perm (d.entries ++ es) := by
  induction es generalizing d with
  | nil => simp [insertAll]
  | cons e es ih =>
    obtain ⟨-, hes, hne⟩ := List.nodup_append.1 h
    have he : e.1 ∉ d.keys := fun hd => hne _ hd _ (by simp) rfl
    have hkeys : (d.insert e.1 e.2).keys.Perm (e.1 :: d.keys) := (perm_insert e.2 he).map Prod.fst
    have hd : ((d.insert e.1 e.2).keys ++ es.map Prod.fst).Nodup := by
      refine ((hkeys.append_right _).trans ?_).nodup_iff.2 h
      exact List.perm_middle.symm
    refine (ih hd).trans (((perm_insert e.2 he).append_right es).trans ?_)
    exact List.perm_middle.symm

/-- **No entry is lost exactly if the keys are distinct.** -/
theorem perm_ofList_iff {es : List (String × α)} :
    (ofList es).entries.Perm es ↔ (es.map Prod.fst).Nodup := by
  constructor
  · intro h
    exact (h.map Prod.fst).nodup_iff.1 (keys_nodup _)
  · intro h
    have hnew : ((empty : Dict α).keys ++ es.map Prod.fst).Nodup := by simpa [keys] using h
    rw [ofList_eq]
    simpa using perm_insertAll hnew

theorem mem_keys_ofList {es : List (String × α)} {k : String} :
    k ∈ (ofList es).keys ↔ k ∈ es.map Prod.fst := by
  rw [ofList_eq, mem_keys_insertAll]
  simp [keys]

theorem mem_entries_ofList {es : List (String × α)} {e : String × α} (h : e ∈ (ofList es).entries) :
    e ∈ es := by
  have hfold (d : Dict α) (h : e ∈ (d.insertAll es).entries) : e ∈ d.entries ∨ e ∈ es := by
    clear * - h
    induction es generalizing d with
    | nil => exact .inl h
    | cons f es ih =>
      rw [insertAll_cons] at h
      rcases ih (d.insert f.1 f.2) h with h | h
      · rcases mem_insertEntry h with rfl | h
        · exact .inr List.mem_cons_self
        · exact .inl h
      · exact .inr (List.mem_cons_of_mem _ h)
  rcases hfold empty h with h | h
  · cases h
  · exact h


theorem keys_ofList_perm (es : List (String × α)) :
    (ofList es).keys.Perm (es.map Prod.fst).dedup := by
  rw [List.perm_ext_iff_of_nodup (keys_nodup _) (List.nodup_dedup _)]
  intro k
  rw [mem_keys_ofList, List.mem_dedup]

theorem get?_insertAll (d : Dict α) (es : List (String × α)) (k : String) :
    (d.insertAll es).get? k =
      (((es.filter fun e => e.1 = k).getLast?).map Prod.snd).or (d.get? k) := by
  induction es generalizing d with
  | nil => simp [insertAll]
  | cons e es ih =>
    rw [insertAll_cons, ih, get?_insert]
    by_cases h : e.1 = k
    · rw [List.filter_cons_of_pos (by simpa using h), if_pos h.symm, List.getLast?_cons]
      cases (es.filter fun e => e.1 = k).getLast? <;> simp
    · rw [List.filter_cons_of_neg (by simpa using h), if_neg (Ne.symm h)]

theorem get?_ofList (es : List (String × α)) (k : String) :
    (ofList es).get? k = ((es.filter fun e => e.1 = k).getLast?).map Prod.snd := by
  rw [ofList_eq, get?_insertAll]
  simp [get?]

theorem get?_ofList_eq_some_iff {es : List (String × α)} {k : String} {v : α} :
    (ofList es).get? k = some v ↔
      ∃ before after, es = before ++ (k, v) :: after ∧ k ∉ after.map Prod.fst := by
  have habsent (as : List (String × α)) :
      (∀ e ∈ as, (!decide (e.1 = k)) = true) ↔ k ∉ as.map Prod.fst := by
    rw [List.mem_map, not_exists]
    exact forall_congr' fun e => by simp
  simp only [get?_ofList, List.getLast?_filter, Option.map_eq_some_iff,
    List.find?_eq_some_iff_append]
  constructor
  · rintro ⟨⟨l, w⟩, ⟨hl, as, bs, hsplit, has⟩, rfl⟩
    obtain rfl : l = k := of_decide_eq_true hl
    refine ⟨bs.reverse, as.reverse, by simpa using List.reverse_eq_iff.1 hsplit, ?_⟩
    simpa using (habsent as).1 has
  · rintro ⟨before, after, rfl, hafter⟩
    refine ⟨(k, v), ⟨decide_eq_true rfl, after.reverse, before.reverse, by simp, ?_⟩, rfl⟩
    exact (habsent _).2 (by simpa using hafter)

theorem ofList_eq_of_perm {es fs : List (String × α)} (h : es.Perm fs)
    (hkeys : (es.map Prod.fst).Nodup) : ofList es = ofList fs := by
  have hes := perm_ofList_iff.2 hkeys
  have hfs := perm_ofList_iff.2 ((h.map Prod.fst).nodup hkeys)
  refine ext_get? fun k => Option.ext fun v => ?_
  rw [← mem_entries_iff, ← mem_entries_iff, hes.mem_iff, hfs.mem_iff, h.mem_iff]

theorem get?_map (f : α → β) (d : Dict α) (k : String) : (d.map f).get? k = (d.get? k).map f := by
  change (d.entries.map fun e => (e.1, f e.2)).lookup k = (d.entries.lookup k).map f
  induction d.entries with
  | nil => rfl
  | cons e es ih =>
    obtain ⟨l, w⟩ := e
    rw [List.map_cons, lookup_cons, lookup_cons, ih]
    by_cases h : k = l <;> simp [h]

/-! ## Entries in their order -/

theorem insertEntry_of_lt {k : String} {v : α} {es : List (String × α)}
    (h : ∀ e ∈ es, compare e.1 k = .lt) : insertEntry k v es = es ++ [(k, v)] := by
  induction es with
  | nil => rfl
  | cons e rest ih =>
    obtain ⟨l, w⟩ := e
    have hl : compare k l = .gt := Std.OrientedCmp.gt_of_lt (h (l, w) List.mem_cons_self)
    rw [insertEntry, hl]
    simp [ih fun e he => h e (List.mem_cons_of_mem _ he)]

theorem entries_insertAll {d : Dict α} {es : List (String × α)} (h : Ascending (d.entries ++ es)) :
    (d.insertAll es).entries = d.entries ++ es := by
  induction es generalizing d with
  | nil => simp [insertAll]
  | cons e es ih =>
    have hd : (d.insert e.1 e.2).entries = d.entries ++ [e] :=
      insertEntry_of_lt fun x hx => (List.pairwise_append.1 h).2.2 x hx e List.mem_cons_self
    rw [insertAll_cons, ih (by rw [hd]; simpa using h), hd, List.append_assoc]
    rfl

theorem entries_ofList {es : List (String × α)} (h : Ascending es) : (ofList es).entries = es := by
  rw [ofList_eq, entries_insertAll (by simpa using h)]
  rfl

theorem ofList_entries (d : Dict α) : ofList d.entries = d := ext (entries_ofList d.ascending)

end Dict

end ComposePods

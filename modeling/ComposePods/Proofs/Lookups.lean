import ComposePods.Mapping
import Mathlib.Data.List.Basic

/-!
# Look-ups in mappings

A mapping is known by what its keys look up. Keys that are the same look up the same; an insertion
or a change in place is seen under its own key and under no other.

* `Value.same_string_iff`: a string is the same key as itself only;
* `Mapping.get?_congr`, `Mapping.get?_insert`, `Mapping.get?_adjust`, `Mapping.get?_overlay`: the
  value of a key;
* `Mapping.contains_iff`, `Mapping.insert_of_not_contains`: whether there is one, and what is new;
* `Mapping.keys_insert`, `Mapping.distinct_insert`, `Mapping.distinct_adjust`: the keys and their
  order;
* `Mapping.get?_perm`, `Mapping.get?_filter`: entries in another order, and some of them;
* `Mapping.pluck_fst`, `Mapping.pluck_snd_perm`: an entry taken out, and what is left.
-/

namespace ComposePods

theorem Value.same_string_iff {v : Value} {s : String} :
    v.same (.string s) = true ↔ v = .string s := by
  constructor
  · intro h
    have hcanonical : v.canonical = .string s := by
      rw [same, decide_eq_true_eq] at h
      exact h
    cases v with
    | string t => exact hcanonical
    | number n => cases n <;> cases hcanonical
    | null | bool | sequence | mapping | tagged => cases hcanonical
  · rintro rfl
    exact same_self _

theorem Value.same_congr_right {k l : Value} (h : k.same l = true) (a : Value) :
    a.same k = a.same l := by
  rw [Bool.eq_iff_iff]
  exact ⟨fun ha => same_trans ha h, fun ha => same_trans ha (same_comm k l ▸ h)⟩

namespace Mapping

open Value

variable {k l : Value} {m : Mapping}

/-! ## The value of a key -/

theorem get?_congr (m : Mapping) (h : k.same l = true) : get? m k = get? m l := by
  induction m with
  | nil => rfl
  | cons e rest ih =>
    obtain ⟨a, v⟩ := e
    rw [get?, get?, ih, same_congr_right h]

theorem get?_insert (m : Mapping) (k l v : Value) :
    get? (insert m k v) l = if k.same l then some v else get? m l := by
  by_cases h : k.same l = true
  · rw [if_pos h, ← get?_congr _ h, get?_insert_self]
  · rw [if_neg h, get?_insert_of_ne m v (Bool.eq_false_iff.2 h)]

theorem get?_adjust (f : Value → Value) (m : Mapping) (k l : Value) :
    get? (adjust f m k) l = if k.same l then (get? m l).map f else get? m l := by
  induction m with
  | nil => simp [adjust, get?]
  | cons e rest ih =>
    obtain ⟨a, v⟩ := e
    by_cases hak : a.same k = true
    · have hal : a.same l = k.same l := by
        rw [same_comm a l, same_comm k l]
        exact same_congr_right hak l
      simp only [adjust, hak, get?, hal, if_true]
      split <;> rfl
    · simp only [adjust, hak, get?, ih, if_false, Bool.false_eq_true]
      by_cases hkl : k.same l = true
      · have hal : a.same l = false := by
          rw [← same_congr_right hkl]
          exact Bool.eq_false_iff.2 hak
        simp [hal]
      · simp [hkl]

theorem adjust_of_get? {v : Value} (h : get? m k = some v) : adjust (fun _ => v) m k = m := by
  induction m with
  | nil => rfl
  | cons e m ih =>
    obtain ⟨a, w⟩ := e
    rw [get?] at h
    rw [adjust]
    split
    · rename_i hak
      rw [if_pos hak] at h
      cases h
      rfl
    · rename_i hak
      rw [if_neg hak] at h
      rw [ih h]

theorem get?_cons_string (a b : String) (v : Value) (m : Mapping) :
    get? ((.string a, v) :: m) (.string b) = if a = b then some v else get? m (.string b) := by
  simp only [get?, same_string, decide_eq_true_eq]

theorem get?_append (m m' : Mapping) (k : Value) :
    get? (m ++ m') k = (get? m k).or (get? m' k) := by
  induction m with
  | nil => rfl
  | cons e rest ih =>
    obtain ⟨l, v⟩ := e
    rw [List.cons_append, get?, get?, ih]
    split <;> rfl

theorem exists_mem_of_get? {v : Value} (h : get? m k = some v) :
    ∃ l, (l, v) ∈ m ∧ l.same k = true := by
  induction m with
  | nil => cases h
  | cons e rest ih =>
    obtain ⟨l, w⟩ := e
    rw [get?] at h
    split at h
    · rename_i hl
      cases h
      exact ⟨l, List.mem_cons_self, hl⟩
    · obtain ⟨l, hl, hsame⟩ := ih h
      exact ⟨l, List.mem_cons_of_mem _ hl, hsame⟩

theorem get?_eq_none_iff : get? m k = none ↔ ∀ e ∈ m, e.1.same k = false := by
  induction m with
  | nil => simp [get?]
  | cons e rest ih =>
    obtain ⟨l, v⟩ := e
    rw [get?, List.forall_mem_cons, ← ih]
    by_cases h : l.same k = true <;> simp [h]

theorem get?_eq_none_of_new (hnew : ∀ e ∈ m, k.same e.1 = false) : get? m k = none :=
  get?_eq_none_iff.2 fun e he => same_comm k e.1 ▸ hnew e he

theorem get?_overlay {own : Mapping} (hown : Distinct own) (base : Mapping) (k : Value) :
    get? (overlay base own) k = (get? own k).or (get? base k) := by
  induction own generalizing base with
  | nil => rfl
  | cons e own ih =>
    obtain ⟨l, v⟩ := e
    obtain ⟨hnew, hown⟩ := List.pairwise_cons.1 hown
    change get? (overlay (insert base l v) own) k = _
    rw [ih hown, get?_insert, get?]
    by_cases hl : l.same k = true
    · rw [if_pos hl, if_pos hl, ← get?_congr own hl, get?_eq_none_of_new hnew]
      rfl
    · rw [if_neg hl, if_neg hl]

/-! ## Whether there is one -/

theorem contains_iff : contains m k = true ↔ ∃ e ∈ m, e.1.same k = true := by
  induction m with
  | nil => simp [contains, get?]
  | cons e rest ih =>
    obtain ⟨l, v⟩ := e
    rw [contains] at ih ⊢
    by_cases h : l.same k = true
    · simp [get?, h]
    · simp [get?, h, ih]

theorem not_contains_of_distinct {m es : Mapping} {e : Value × Value}
    (h : Distinct (m ++ e :: es)) : contains m e.1 = false := by
  rw [Bool.eq_false_iff, ne_eq, contains_iff]
  rintro ⟨f, hf, hsame⟩
  have hne := (List.pairwise_append.1 h).2.2 f hf e List.mem_cons_self
  rw [hne] at hsame
  cases hsame

theorem insert_of_not_contains (h : contains m k = false) (v : Value) :
    insert m k v = m ++ [(k, v)] := by
  induction m with
  | nil => rfl
  | cons e rest ih =>
    obtain ⟨l, w⟩ := e
    by_cases hl : l.same k = true
    · simp [contains, get?, hl] at h
    · have hrest : contains rest k = false := by simpa [contains, get?, hl] using h
      rw [insert, if_neg hl, ih hrest, List.cons_append]

theorem overlay_of_distinct {base own : Mapping} (h : Distinct (base ++ own)) :
    overlay base own = base ++ own := by
  induction own generalizing base with
  | nil => exact (List.append_nil base).symm
  | cons e own ih =>
    have hinsert : insert base e.1 e.2 = base ++ [e] :=
      insert_of_not_contains (not_contains_of_distinct h) e.2
    have hnext : Distinct (base ++ [e] ++ own) := by simpa using h
    change overlay (insert base e.1 e.2) own = _
    rw [hinsert, ih hnext, List.append_assoc, List.singleton_append]

/-! ## Keys in their order -/

theorem distinct_iff : Distinct m ↔ (keys m).Pairwise fun a b => a.same b = false := by
  rw [Distinct, keys, List.pairwise_map]

theorem keys_insert (m : Mapping) (k v : Value) :
    keys (insert m k v) = if contains m k then keys m else keys m ++ [k] := by
  induction m with
  | nil => rfl
  | cons e rest ih =>
    obtain ⟨l, w⟩ := e
    rw [contains] at ih ⊢
    by_cases h : l.same k = true
    · simp [insert, get?, h, keys]
    · simp only [insert, get?, h, keys, List.map_cons, if_false, Bool.false_eq_true] at ih ⊢
      rw [ih]
      split <;> rfl

theorem distinct_concat (hm : Distinct m) (hk : contains m k = false) (v : Value) :
    Distinct (m ++ [(k, v)]) := by
  refine List.pairwise_append.2 ⟨hm, List.pairwise_singleton _ _, fun e he f hf => ?_⟩
  obtain rfl := List.mem_singleton.1 hf
  rw [Bool.eq_false_iff, ne_eq, contains_iff] at hk
  exact Bool.eq_false_iff.2 fun hsame => hk ⟨e, he, hsame⟩

theorem distinct_insert (hm : Distinct m) (k v : Value) : Distinct (insert m k v) := by
  rw [distinct_iff, keys_insert]
  split
  · exact distinct_iff.1 hm
  · rename_i hnew
    have hconcat := distinct_iff.1 (distinct_concat hm (Bool.eq_false_iff.2 hnew) v)
    simpa [keys] using hconcat

theorem distinct_adjust (hm : Distinct m) (f : Value → Value) (k : Value) :
    Distinct (adjust f m k) := by
  rw [distinct_iff] at hm ⊢
  rw [keys_adjust]
  exact hm

/-! ## Entries in any order -/

theorem get?_eq_some_iff (hm : Distinct m) {v : Value} :
    get? m k = some v ↔ ∃ l, (l, v) ∈ m ∧ l.same k = true := by
  refine ⟨exists_mem_of_get?, ?_⟩
  rintro ⟨l, hl, hsame⟩
  induction m with
  | nil => cases hl
  | cons e rest ih =>
    obtain ⟨a, w⟩ := e
    obtain ⟨hnew, hrest⟩ := List.pairwise_cons.1 hm
    rw [get?]
    rcases List.mem_cons.1 hl with heq | hl
    · cases heq
      rw [if_pos hsame]
    · have ha : ¬ a.same k = true := by
        intro ha
        have hal := same_trans ha (same_comm l k ▸ hsame)
        rw [hnew _ hl] at hal
        cases hal
      rw [if_neg ha, ih hrest hl]

theorem distinct_perm (h : m.Perm m') : Distinct m ↔ Distinct m' := by
  refine h.pairwise_iff fun {a b} hab => ?_
  rw [same_comm]
  exact hab

theorem get?_perm (hm : Distinct m) (h : m.Perm m') (k : Value) : get? m k = get? m' k := by
  refine Option.ext fun v => ?_
  rw [get?_eq_some_iff hm, get?_eq_some_iff ((distinct_perm h).1 hm)]
  simp only [h.mem_iff]

theorem get?_filter (hm : Distinct m) (k l : Value) :
    get? (m.filter fun e => !e.1.same k) l = if k.same l then none else get? m l := by
  refine Option.ext fun v => ?_
  rw [get?_eq_some_iff (hm.filter _), Option.ite_none_left_eq_some, get?_eq_some_iff hm]
  simp only [List.mem_filter, Bool.not_eq_true']
  constructor
  · rintro ⟨a, ⟨ha, hak⟩, hal⟩
    refine ⟨fun hkl => ?_, a, ha, hal⟩
    rw [same_congr_right hkl, hal] at hak
    cases hak
  · rintro ⟨hkl, a, ha, hal⟩
    refine ⟨a, ⟨ha, Bool.eq_false_iff.2 fun hak => hkl ?_⟩, hal⟩
    exact same_trans (same_comm a k ▸ hak) hal

/-! ## Entries taken out -/

theorem pluck_fst (m : Mapping) (k : Value) : (pluck m k).1 = get? m k := by
  rw [pluck]
  split
  · rename_i hi
    rw [List.findIdx?_eq_none_iff] at hi
    exact (get?_eq_none_iff.2 hi).symm
  · rename_i i hi
    have hne : m ≠ [] := by
      rintro rfl
      cases hi
    rw [List.getLast?_eq_some_getLast hne]

theorem pluck_snd_perm (hm : Distinct m) (k : Value) :
    (pluck m k).2.Perm (m.filter fun e => !e.1.same k) := by
  rcases hi : m.findIdx? (fun e => e.1.same k) with _ | i
  · rw [List.findIdx?_eq_none_iff] at hi
    rw [pluck, List.findIdx?_eq_none_iff.2 hi,
      List.filter_eq_self.2 fun e he => by rw [hi e he]; rfl]
  · obtain ⟨before, e, after, rfl, rfl, hsame⟩ : ∃ before e after, m = before ++ e :: after ∧
        before.length = i ∧ e.1.same k = true := by
      obtain ⟨hlt, hsame, -⟩ := List.findIdx?_eq_some_iff_getElem.1 hi
      refine ⟨m.take i, m[i], m.drop (i + 1), ?_, List.length_take_of_le (Nat.le_of_lt hlt), hsame⟩
      rw [List.getElem_cons_drop, List.take_append_drop]
    have hothers : ∀ f ∈ before ++ after, f.1.same k = false := by
      intro f hf
      have hfe : f.1.same e.1 = false := by
        have hmiddle := (distinct_perm List.perm_middle).1 hm
        rw [same_comm]
        exact (List.pairwise_cons.1 hmiddle).1 f hf
      rw [← same_congr_right hsame]
      exact hfe
    have hfilter : (before ++ e :: after).filter (fun e => !e.1.same k) = before ++ after := by
      rw [List.forall_mem_append] at hothers
      rw [List.filter_append, List.filter_cons_of_neg (by simp [hsame]),
        List.filter_eq_self.2 fun f hf => by rw [hothers.1 f hf]; rfl,
        List.filter_eq_self.2 fun f hf => by rw [hothers.2 f hf]; rfl]
    rw [hfilter, pluck, hi]
    rcases List.eq_nil_or_concat' after with rfl | ⟨after, last, rfl⟩
    · simp
    · -- The last entry has taken the place of the one that is gone.
      have hsplit : before ++ e :: (after ++ [last]) = (before ++ e :: after) ++ [last] := by simp
      rw [hsplit]
      simp only [List.dropLast_concat, List.getLast?_concat]
      rw [if_pos (by simp), List.set_append_right _ _ (Nat.le_refl _), Nat.sub_self,
        List.set_cons_zero]
      exact (List.perm_append_singleton last after).symm.append_left before

end Mapping

end ComposePods

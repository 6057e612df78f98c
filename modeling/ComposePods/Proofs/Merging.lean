import ComposePods.Pod.Fragment
import ComposePods.Proofs.Lookups

/-!
# Merged mappings

What merging does to a key depends on the entries of that key only: the first value stays, unless it
is a mapping, which the mappings behind it extend. So a key is in merged mappings exactly if it is
in one of them.

* **`Mapping.get?_merge`**: the value of a key after merging;
* `Mapping.get?_merge_of_plain`: entries that are no mappings only fill gaps;
* `Mapping.mergeAll_eq_merge_flatten`: fragments are merged entry by entry;
* `Mapping.contains_merge`, `Mapping.contains_mergeAll`: the keys of merged mappings;
* `Mapping.distinct_merge`, `Mapping.distinct_mergeAll`: no key is repeated;
* `Mapping.mergeAll_rooted`: mappings under one root key are merged below it.
-/

namespace ComposePods

namespace Mapping

open Value

variable {k : Value} {base : Mapping} {es : List (Value × Value)}

/-! ## The value of a key -/

/-- **The value of a key after merging** is made from the entries of that key, one after the
other. -/
theorem get?_merge (base : Mapping) (es : List (Value × Value)) (k : Value) :
    get? (merge base es) k =
      es.foldl (fun o e => if e.1.same k then some (mergeValue o e.2) else o) (get? base k) := by
  induction es generalizing base with
  | nil => rfl
  | cons e rest ih =>
    obtain ⟨l, v⟩ := e
    rw [merge, ih, List.foldl_cons]
    congr 1
    by_cases h : l.same k = true
    · rw [if_pos h, ← get?_congr base h]
      rcases hl : get? base l with _ | old
      · rw [get?_insert, if_pos h]
      · rw [get?_adjust, if_pos h, ← get?_congr base h, hl, Option.map_some]
    · rw [if_neg h]
      rcases get? base l with _ | old
      · rw [get?_insert, if_neg h]
      · rw [get?_adjust, if_neg h]

theorem mergeValue_of_plain {v : Value} (h : ∀ m, v ≠ .mapping m) (o : Option Value) :
    mergeValue o v = o.getD v := by
  cases v with
  | mapping m => exact absurd rfl (h m)
  | null | bool | number | string | sequence | tagged => rw [mergeValue]

theorem merge_cons_of_plain {v : Value} (hk : contains base k = false) (hv : ∀ m, v ≠ .mapping m) :
    merge base ((k, v) :: es) = merge (base ++ [(k, v)]) es := by
  have hnone : get? base k = none := by simpa [contains] using hk
  rw [merge, hnone, mergeValue_of_plain hv]
  dsimp only
  rw [Option.getD_none, insert_of_not_contains hk]

theorem merge_cons_of_known {v : Value} (hk : contains base k = true) (hv : ∀ m, v ≠ .mapping m) :
    merge base ((k, v) :: es) = merge base es := by
  obtain ⟨old, hold⟩ := Option.isSome_iff_exists.1 hk
  have hstays : mergeValue (some old) v = old := mergeValue_of_plain hv (some old)
  rw [merge, hold]
  dsimp only
  rw [hstays, adjust_of_get? hold]

theorem get?_merge_of_plain (h : ∀ e ∈ es, ∀ m, e.2 ≠ .mapping m) (base : Mapping) (k : Value) :
    get? (merge base es) k = (get? base k).or (get? es k) := by
  rw [get?_merge]
  generalize get? base k = o
  induction es generalizing o with
  | nil => cases o <;> rfl
  | cons e rest ih =>
    obtain ⟨l, v⟩ := e
    rw [List.forall_mem_cons] at h
    rw [List.foldl_cons, ih h.2, mergeValue_of_plain h.1]
    by_cases hl : l.same k = true
    · cases o <;> simp [get?, hl]
    · cases o <;> simp [get?, hl]

/-! ## Fragments as entries -/

theorem merge_append (base : Mapping) (es es' : List (Value × Value)) :
    merge base (es ++ es') = merge (merge base es) es' := by
  induction es generalizing base with
  | nil => rfl
  | cons e es ih =>
    obtain ⟨l, v⟩ := e
    rw [List.cons_append, merge, merge, ih]

theorem mergeAll_eq_merge_flatten (fragments : List Mapping) :
    mergeAll fragments = merge [] fragments.flatten := by
  have hfold (base : Mapping) : fragments.foldl merge base = merge base fragments.flatten := by
    induction fragments generalizing base with
    | nil => rfl
    | cons f fs ih => rw [List.foldl_cons, ih, List.flatten_cons, merge_append]
  exact hfold []

/-! ## Keys -/

theorem contains_merge (base : Mapping) (es : List (Value × Value)) (k : Value) :
    contains (merge base es) k = (contains base k || contains es k) := by
  rw [contains, get?_merge, contains]
  generalize get? base k = o
  induction es generalizing o with
  | nil => simp [contains, get?]
  | cons e rest ih =>
    obtain ⟨l, v⟩ := e
    rw [List.foldl_cons, ih, contains, contains, get?]
    by_cases hl : l.same k = true <;> simp [hl]

/-- **A key is in merged mappings** exactly if it is in one of them. -/
theorem contains_mergeAll {ms : List Mapping} :
    contains (mergeAll ms) k = true ↔ ∃ m ∈ ms, contains m k = true := by
  have hfold (base : Mapping) :
      contains (ms.foldl merge base) k = true ↔
        contains base k = true ∨ ∃ m ∈ ms, contains m k = true := by
    induction ms generalizing base with
    | nil => simp
    | cons m ms ih => simp [ih, contains_merge, or_assoc]
  rw [mergeAll, hfold]
  simp [contains, get?]

/-- Extending a mapping repeats no key, whatever it is extended by. -/
theorem distinct_merge (hbase : Distinct base) (es : List (Value × Value)) :
    Distinct (merge base es) := by
  induction es generalizing base with
  | nil => exact hbase
  | cons e rest ih =>
    obtain ⟨l, v⟩ := e
    rw [merge]
    split
    · exact ih (distinct_adjust hbase _ _)
    · exact ih (distinct_insert hbase _ _)

theorem distinct_mergeAll (ms : List Mapping) : Distinct (mergeAll ms) := by
  have hfold (base : Mapping) (hbase : Distinct base) : Distinct (ms.foldl merge base) := by
    induction ms generalizing base with
    | nil => exact hbase
    | cons m ms ih => exact ih _ (distinct_merge hbase m)
  exact hfold [] List.Pairwise.nil

/-! ## Mappings under one root key -/

/-- A mapping under a root key. -/
def rooted (root : Value) (body : Mapping) : Mapping := [(root, .mapping body)]

theorem merge_rooted (root : Value) (body m : Mapping) :
    merge (rooted root body) (rooted root m) = rooted root (merge body m) := by
  simp [rooted, merge, get?, adjust, mergeValue]

/-- **Mappings under one root key** are merged below it. -/
theorem mergeAll_rooted (root : Value) (m : Mapping) (ms : List Mapping) :
    mergeAll ((m :: ms).map (rooted root)) = rooted root (mergeAll (m :: ms)) := by
  have hfold (body : Mapping) :
      (ms.map (rooted root)).foldl merge (rooted root body) =
      rooted root (ms.foldl merge body) := by
    induction ms generalizing body with
    | nil => rfl
    | cons m ms ih => rw [List.map_cons, List.foldl_cons, merge_rooted, ih, List.foldl_cons]
  have hfirst : merge [] (rooted root m) = rooted root (merge [] m) := by
    simp [rooted, merge, get?, insert, mergeValue]
  rw [mergeAll, List.map_cons, List.foldl_cons, hfirst, hfold]
  rfl

end Mapping

end ComposePods

import ComposePods.Proofs.Distinctness
import ComposePods.Proofs.Folding

/-!
# Fragments that say nothing new

Merging a fragment changes nothing if and only if its keys are all there, and so are the keys below
them wherever both sides have a mapping. What has been merged once is covered in this sense, and
stays covered whatever is merged afterwards: values are kept, and mappings only grow. So every
fragment of a fold is absorbed by the fold.

* `Mapping.Covers`: a fragment says nothing new;
* `Mapping.Covers.merge`, `Mapping.covers_merge`: merging keeps what is covered, and covers what is
  merged;
* **`Mapping.merge_eq_self_iff`**: the fragments that merging leaves no trace of;
* `Mapping.covers_self`: a mapping that repeats no key covers itself;
* **`Mapping.merge_absorbs`**: a fold absorbs its fragments.
-/

namespace ComposePods

namespace Mapping

open Value

variable {m base : Mapping} {es f : List (Value × Value)}

mutual

/-- The mapping has every key of the fragment, with values that cover those of the fragment. -/
def Covers (m : Mapping) : List (Value × Value) → Prop
  | [] => True
  | (k, v) :: rest => (∃ old, get? m k = some old ∧ CoversValue old v) ∧ Covers m rest
termination_by structural es => es

/-- A value that a key has keeps out all values but mappings, and a mapping lets mappings in. -/
def CoversValue (old : Value) : Value → Prop
  | .mapping entries => ∀ existing, old = .mapping existing → Covers existing entries
  | .null | .bool _ | .number _ | .string _ | .sequence _ | .tagged _ _ => True
termination_by structural v => v

end

/-! ## What merging keeps -/

theorem mergeValue_into_plain {old : Value} (h : ∀ n, old ≠ .mapping n) (w : Value) :
    mergeValue (some old) w = old := by
  have hfold := foldl_mergeValue_of_plain h [w]
  simpa using hfold

mutual

theorem CoversValue.mergeValue {v old : Value} (h : CoversValue old v) (w : Value) :
    CoversValue (mergeValue (some old) w) v := by
  cases v with
  | mapping entries =>
    cases old with
    | mapping existing =>
      cases w with
      | mapping entries' =>
        intro merged hmerged
        obtain rfl := Value.mapping.inj hmerged
        exact (h existing rfl).merge entries'
      | null | bool | number | string | sequence | tagged => exact h
    | null | bool | number | string | sequence | tagged =>
      rw [mergeValue_into_plain (by simp)]
      exact h
  | null | bool | number | string | sequence | tagged => exact trivial
termination_by structural v

theorem Covers.merge {es : List (Value × Value)} {m : Mapping} (h : Covers m es)
    (g : List (Value × Value)) : Covers (merge m g) es := by
  cases es with
  | nil => exact trivial
  | cons e es =>
    obtain ⟨k, v⟩ := e
    obtain ⟨⟨old, hold, hv⟩, hes⟩ := h
    refine ⟨?_, hes.merge g⟩
    rw [get?_merge, hold]
    clear hold hes
    -- One entry of the key after the other is merged into the value.
    induction g generalizing old with
    | nil => exact ⟨old, rfl, hv⟩
    | cons e g ih =>
      rw [List.foldl_cons]
      by_cases hk : e.1.same k = true
      · rw [if_pos hk]
        exact ih _ (hv.mergeValue e.2)
      · rw [if_neg hk]
        exact ih old hv
termination_by structural es

end

mutual

theorem coversValue_mergeValue (v : Value) (old : Option Value) :
    CoversValue (mergeValue old v) v := by
  cases v with
  | mapping entries =>
    intro merged hmerged
    rcases old with _ | old
    · obtain rfl := Value.mapping.inj hmerged
      exact covers_merge entries []
    · cases old with
      | mapping existing =>
        obtain rfl := Value.mapping.inj hmerged
        exact covers_merge entries existing
      | null | bool | number | string | sequence | tagged => cases hmerged
  | null | bool | number | string | sequence | tagged => exact trivial
termination_by structural v

theorem covers_merge (es : List (Value × Value)) (base : Mapping) : Covers (merge base es) es := by
  cases es with
  | nil => exact trivial
  | cons e es =>
    obtain ⟨k, v⟩ := e
    refine ⟨?_, covers_merge es _⟩
    -- The entry is covered as soon as it is merged, and stays so.
    have hfirst : Covers (merge base [(k, v)]) [(k, v)] := by
      refine ⟨⟨mergeValue (get? base k) v, ?_, coversValue_mergeValue v _⟩, trivial⟩
      rw [get?_merge, List.foldl_cons, if_pos (same_self k)]
      rfl
    have hsplit : merge base ((k, v) :: es) = merge (merge base [(k, v)]) es :=
      merge_append base [(k, v)] es
    rw [hsplit]
    exact (hfirst.merge es).1
termination_by structural es

end

/-! ## What leaves no trace -/

mutual

theorem mergeValue_of_covers (v : Value) {old : Value} (h : CoversValue old v) :
    mergeValue (some old) v = old := by
  cases v with
  | mapping entries =>
    cases old with
    | mapping existing => rw [mergeValue, merge_of_covers entries (h existing rfl)]
    | null | bool | number | string | sequence | tagged => rfl
  | null | bool | number | string | sequence | tagged => rfl
termination_by structural v

theorem merge_of_covers (es : List (Value × Value)) {m : Mapping} (h : Covers m es) :
    merge m es = m := by
  cases es with
  | nil => rfl
  | cons e es =>
    obtain ⟨k, v⟩ := e
    obtain ⟨⟨old, hold, hv⟩, hes⟩ := h
    have hstays : adjust (fun _ => mergeValue (some old) v) m k = m := by
      rw [mergeValue_of_covers v hv]
      exact adjust_of_get? hold
    rw [merge, hold]
    dsimp only
    rw [hstays]
    exact merge_of_covers es hes
termination_by structural es

end

/-- **A fragment leaves no trace** exactly if it is covered. -/
theorem merge_eq_self_iff : merge m es = m ↔ Covers m es := by
  constructor
  · intro h
    have hcovers := covers_merge es m
    rwa [h] at hcovers
  · exact merge_of_covers es

/-! ## Mappings that repeat no key -/

mutual

theorem coversValue_self (v : Value) (hv : v.keysDistinct = true) : CoversValue v v := by
  cases v with
  | mapping m =>
    intro existing h
    obtain rfl := Value.mapping.inj h
    obtain ⟨hes, hm⟩ := keysDistinct_mapping_iff.1 hv
    exact covers_of_subset m hm hes fun e he => he
  | null | bool | number | string | sequence | tagged => exact trivial
termination_by structural v

theorem covers_of_subset (es : List (Value × Value)) {m : Mapping} (hm : Distinct m)
    (hes : ∀ e ∈ es, e.1.keysDistinct = true ∧ e.2.keysDistinct = true) (hsub : ∀ e ∈ es, e ∈ m) :
    Covers m es := by
  cases es with
  | nil => exact trivial
  | cons e es =>
    obtain ⟨k, v⟩ := e
    rw [List.forall_mem_cons] at hes hsub
    have hget : get? m k = some v := (get?_eq_some_iff hm).2 ⟨k, hsub.1, same_self k⟩
    exact ⟨⟨v, hget, coversValue_self v hes.1.2⟩, covers_of_subset es hm hes.2 hsub.2⟩
termination_by structural es

end

theorem covers_self (hm : (Value.mapping m).keysDistinct = true) : Covers m m :=
  coversValue_self _ hm m rfl

/-! ## Folds -/

theorem covers_foldl_merge {f : Mapping} (fs : List Mapping) (h : Covers base f) :
    Covers (fs.foldl merge base) f := by
  induction fs generalizing base with
  | nil => exact h
  | cons g fs ih => exact ih (h.merge g)

theorem covers_mergeAll {fs : List Mapping} {f : Mapping} (hf : f ∈ fs) :
    Covers (mergeAll fs) f := by
  obtain ⟨before, after, rfl⟩ := List.append_of_mem hf
  rw [mergeAll, List.foldl_append, List.foldl_cons]
  exact covers_foldl_merge after (covers_merge f _)

/-- **A fold absorbs its fragments**: merging one of them once more leaves it as it is. So it is
with two mappings, and with a mapping that is merged into itself. -/
theorem merge_absorbs (fs : List Mapping) :
    (∀ f ∈ fs, merge (mergeAll fs) f = mergeAll fs) ∧
      (∀ a b, merge (merge a b) b = merge a b) ∧
      ∀ a, (Value.mapping a).keysDistinct = true → merge a a = a :=
  ⟨fun _ hf => merge_eq_self_iff.2 (covers_mergeAll hf), fun a b =>
    merge_eq_self_iff.2 (covers_merge b a), fun _ ha => merge_eq_self_iff.2 (covers_self ha)⟩

/-- A fragment in the middle of a fold: what it has under `x` is kept out by a number that was there
before, and what it has under `n` has been extended since. -/
theorem merge_absorbs_between :
    let one : Value := .number (.integer 1)
    let a : Value := .string "a"
    let f : Mapping :=
      [(a, .mapping [(.string "x", .mapping [(one, one)]), (.string "n", .mapping [(one, a)])])]
    let fs : List Mapping :=
      [[(a, .mapping [(.string "x", one)])], f,
        [(.null, .sequence []),
          (a, .mapping [(.string "n", .mapping [(a, .null), (one, .null)]), (.string "y", a)])]]
    f ∈ fs ∧
      mergeAll fs =
        [(a, .mapping [(.string "x", one), (.string "n", .mapping [(one, a), (a, .null)]),
          (.string "y", a)]), (.null, .sequence [])] ∧
      merge (mergeAll fs) f = mergeAll fs ∧ (Value.mapping f).keysDistinct = true ∧
        merge f f = f := by
  intro one a f fs
  have hf : f ∈ fs := List.mem_cons_of_mem _ List.mem_cons_self
  have hdistinct : (Value.mapping f).keysDistinct = true := by decide +kernel
  obtain ⟨habsorbs, -, hself⟩ := merge_absorbs fs
  exact ⟨hf, by decide +kernel, habsorbs f hf, hdistinct, hself f hdistinct⟩

end Mapping

end ComposePods

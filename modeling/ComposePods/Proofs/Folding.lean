import ComposePods.Proofs.Merging

/-!
# What fragments fold to

Merging works on one accumulator, which it changes in place at every depth. What comes out can be
said without it: the keys are those of the fragments in the order in which they first come, and a
key has the value that it first has. Only a first value that is a mapping is not taken as it is: it
is folded with the other mappings that the fragments have for the key. So the first fragment that
fixes a path wins, at every depth.

* `Value.mapping?`, `Value.at?`: the mapping that a value is, and the value at a path in it;
* `Mapping.bodies`, `Mapping.inside`: the mappings that fragments have under a key, and at a path;
* `Mapping.settled`: what fragments settle a key to;
* `Mapping.keys_merge`: new keys come behind the known ones, each once;
* `Mapping.get?_mergeAll`: one level of a fold;
* **`Mapping.mergeAll_settles`**: the fold, at every path.
-/

namespace ComposePods

namespace Value

/-- The entries of a value that is a mapping; a mapping under a tag is none. -/
def mapping? : Value → Option Mapping
  | .mapping entries => some entries
  | _ => none

/-- The value at a path of keys, mappings all the way. -/
def at? (v : Value) : List Value → Option Value
  | [] => some v
  | k :: path => (v.mapping?.bind (Mapping.get? · k)).bind (·.at? path)

theorem mapping?_eq_some_iff {v : Value} {m : Mapping} : v.mapping? = some m ↔ v = .mapping m := by
  cases v <;> simp [mapping?]

theorem mapping?_eq_none_iff {v : Value} : v.mapping? = none ↔ ∀ m, v ≠ .mapping m := by
  cases v <;> simp [mapping?]

end Value

namespace Mapping

open Value

variable {k : Value} {base m : Mapping} {es : List (Value × Value)}

/-- The values of a key, in the order of its entries. -/
def valuesOf (es : List (Value × Value)) (k : Value) : List Value :=
  es.filterMap fun e => if e.1.same k then some e.2 else none

/-- The mappings that fragments have under a key, in order. -/
def bodies (fragments : List Mapping) (k : Value) : List Mapping :=
  fragments.flatMap fun f => (valuesOf f k).filterMap mapping?

/-- The mappings that fragments have at a path, in order. -/
def inside (fragments : List Mapping) (path : List Value) : List Mapping :=
  path.foldl bodies fragments

/-- What fragments settle a key to: its value in the first fragment that has it or, if that is a
mapping, the fold of all mappings that they have for it. -/
def settled (fragments : List Mapping) (k : Value) : Option Value :=
  match fragments.findSome? (get? · k) with
  | some (.mapping _) => some (.mapping (mergeAll (bodies fragments k)))
  | first => first

/-! ## Keys in the order in which they come -/

theorem keys_merge (base : Mapping) (es : List (Value × Value)) :
    keys (merge base es) =
      keys base ++ ((keys es).filter fun k => !contains base k).eraseDupsBy Value.same := by
  induction es generalizing base with
  | nil => rw [merge]; exact (List.append_nil _).symm
  | cons e es ih =>
    obtain ⟨l, v⟩ := e
    rw [merge, ih]
    rcases hl : get? base l with _ | old
    · have hnew : contains base l = false := by rw [contains, hl]; rfl
      -- The keys that are new after `l` are those that were new and are not `l`.
      have hrest : ((keys es).filter fun k => !contains (insert base l (mergeValue none v)) k) =
          (((keys es).filter fun k => !contains base k).filter fun k =>
            decide (k.same l = false)) := by
        rw [List.filter_filter]
        refine List.filter_congr fun k _ => ?_
        rw [contains, get?_insert, same_comm k l]
        rcases l.same k <;> simp [contains]
      change keys (insert base l _) ++ _ = keys base ++ ((l :: keys es).filter _).eraseDupsBy _
      rw [keys_insert, hnew, hrest, List.filter_cons_of_pos (by rw [hnew]; rfl),
        List.eraseDupsBy_cons]
      simp
    · have hknown : contains base l = true := by rw [contains, hl]; rfl
      have hcontains (k : Value) : contains (adjust (fun _ => mergeValue (some old) v) base l) k =
          contains base k := by
        rw [contains, contains, get?_adjust]
        split <;> simp
      change keys (adjust _ base l) ++ _ = keys base ++ ((l :: keys es).filter _).eraseDupsBy _
      rw [keys_adjust, List.filter_cons_of_neg (by rw [hknown]; exact Bool.false_ne_true)]
      simp only [hcontains]

theorem keys_flatten (fs : List Mapping) : keys fs.flatten = fs.flatMap keys := by
  rw [keys, List.map_flatten, List.flatMap_def]
  rfl

/-- **The keys of a fold** are those of the fragments, in the order in which they first come. -/
theorem keys_mergeAll (fs : List Mapping) :
    keys (mergeAll fs) = (fs.flatMap keys).eraseDupsBy Value.same := by
  have hall : (fs.flatMap keys).filter (fun k => !contains [] k) = fs.flatMap keys :=
    List.filter_eq_self.2 fun _ _ => rfl
  rw [mergeAll_eq_merge_flatten, keys_merge, keys_flatten, hall]
  rfl

/-! ## The value of a key -/

theorem head?_valuesOf (es : List (Value × Value)) (k : Value) :
    (valuesOf es k).head? = get? es k := by
  induction es with
  | nil => rfl
  | cons e es ih =>
    obtain ⟨l, v⟩ := e
    rw [valuesOf, get?]
    by_cases h : l.same k = true
    · rw [List.filterMap_cons_some (by rw [if_pos h]), if_pos h]
      rfl
    · rw [List.filterMap_cons_none (by rw [if_neg h]), if_neg h]
      exact ih

theorem valuesOf_flatten (fs : List Mapping) (k : Value) :
    valuesOf fs.flatten k = fs.flatMap (valuesOf · k) := by
  rw [valuesOf, List.filterMap_flatten, List.flatMap_def]
  rfl

theorem filterMap_valuesOf_flatten (fs : List Mapping) (k : Value) :
    (valuesOf fs.flatten k).filterMap mapping? = bodies fs k := by
  rw [valuesOf_flatten, bodies, List.filterMap_flatMap]

theorem valuesOf_of_distinct (hm : Distinct m) (k : Value) : valuesOf m k = (get? m k).toList := by
  induction m with
  | nil => rfl
  | cons e m ih =>
    obtain ⟨l, v⟩ := e
    obtain ⟨hnew, hm⟩ := List.pairwise_cons.1 hm
    rw [valuesOf, get?]
    by_cases h : l.same k = true
    · have hrest : get? m k = none := by rw [← get?_congr m h, get?_eq_none_of_new hnew]
      rw [List.filterMap_cons_some (by rw [if_pos h]), if_pos h, ← valuesOf, ih hm, hrest]
      rfl
    · rw [List.filterMap_cons_none (by rw [if_neg h]), if_neg h]
      exact ih hm

theorem findSome?_get? (fs : List Mapping) (k : Value) :
    fs.findSome? (get? · k) = get? fs.flatten k := by
  induction fs with
  | nil => rfl
  | cons f fs ih =>
    rw [List.findSome?_cons, List.flatten_cons, get?_append, ih]
    cases get? f k <;> rfl

/-- A value that is no mapping stays, whatever comes. -/
theorem foldl_mergeValue_of_plain {v : Value} (hv : ∀ m, v ≠ .mapping m) (vs : List Value) :
    vs.foldl (fun o w => some (mergeValue o w)) (some v) = some v := by
  induction vs with
  | nil => rfl
  | cons w vs ih =>
    have hstays : mergeValue (some v) w = v := by
      cases w with
      | mapping es => cases v <;> first | rfl | exact absurd rfl (hv _)
      | null | bool | number | string | sequence | tagged => rfl
    rw [List.foldl_cons, hstays, ih]

theorem foldl_mergeValue_of_mapping (m : Mapping) (vs : List Value) :
    vs.foldl (fun o w => some (mergeValue o w)) (some (.mapping m)) =
      some (.mapping ((vs.filterMap mapping?).foldl merge m)) := by
  induction vs generalizing m with
  | nil => rfl
  | cons w vs ih =>
    cases w with
    | mapping es =>
      rw [List.foldl_cons, mergeValue, ih]
      rfl
    | null | bool | number | string | sequence | tagged => exact ih m

theorem get?_merge_valuesOf (base : Mapping) (es : List (Value × Value)) (k : Value) :
    get? (merge base es) k = (valuesOf es k).foldl (fun o v => some (mergeValue o v))
    (get? base k) := by
  rw [get?_merge, valuesOf, List.foldl_filterMap]
  congr 1
  funext o e
  by_cases h : e.1.same k = true <;> simp [h]

/-- **One level of a fold.** -/
theorem get?_mergeAll (fs : List Mapping) (k : Value) : get? (mergeAll fs) k = settled fs k := by
  have hfirst : fs.findSome? (get? · k) = (valuesOf fs.flatten k).head? := by
    rw [findSome?_get?, head?_valuesOf]
  have hnone : get? [] k = none := rfl
  rw [mergeAll_eq_merge_flatten, get?_merge_valuesOf, hnone, settled,
    hfirst, ← filterMap_valuesOf_flatten]
  rcases valuesOf fs.flatten k with _ | ⟨v, vs⟩
  · rfl
  · rw [List.foldl_cons, List.head?_cons]
    rcases hv : v.mapping? with _ | m
    · have hplain := mapping?_eq_none_iff.1 hv
      rw [mergeValue_of_plain hplain, Option.getD_none, foldl_mergeValue_of_plain hplain]
      cases v with
      | mapping m => exact absurd rfl (hplain m)
      | null | bool | number | string | sequence | tagged => rfl
    · obtain rfl := mapping?_eq_some_iff.1 hv
      rw [mergeValue, foldl_mergeValue_of_mapping]
      rfl

theorem at?_mergeAll {fs : List Mapping} {path : List Value}
    (h : (Value.mapping (mergeAll fs)).at? path = some (.mapping m)) :
    m = mergeAll (inside fs path) := by
  induction path generalizing fs with
  | nil => exact (Value.mapping.inj (Option.some.inj h)).symm
  | cons k path ih =>
    change ((get? (mergeAll fs) k).bind (·.at? path)) = _ at h
    rw [get?_mergeAll, settled] at h
    rcases hfirst : fs.findSome? (get? · k) with _ | v
    · rw [hfirst] at h
      cases h
    · rw [hfirst] at h
      cases v with
      | mapping first => exact ih h
      | null | bool | number | string | sequence | tagged => cases path <;> cases h

/-- **What fragments fold to**, whatever they hold. The keys are those of the fragments, in the
order in which they first come; each has the value that it has in the first fragment that has it,
except that a mapping is the fold of all mappings that the fragments have for the key, in order. As
this holds of that fold again, it holds at every path: a mapping in the fold is what the mappings at
its path fold to, and nothing else is there. -/
theorem mergeAll_settles (fs : List Mapping) :
    keys (mergeAll fs) = (fs.flatMap keys).eraseDupsBy Value.same ∧
      (∀ k, get? (mergeAll fs) k = settled fs k) ∧
      ∀ path m, (Value.mapping (mergeAll fs)).at? path = some (.mapping m) →
        m = mergeAll (inside fs path) ∧
          keys m = ((inside fs path).flatMap keys).eraseDupsBy Value.same ∧
          ∀ k, get? m k = settled (inside fs path) k := by
  refine ⟨keys_mergeAll fs, get?_mergeAll fs, fun path m h => ?_⟩
  obtain rfl := at?_mergeAll h
  exact ⟨rfl, keys_mergeAll _, get?_mergeAll _⟩

/-- Three fragments disagree on what `a` is, and on what is below it: the second one has a say in
neither, and a mapping under a tag is no mapping. -/
theorem mergeAll_settles_nested :
    let one : Value := .number (.integer 1)
    let a : Value := .string "a"
    let fs : List Mapping :=
      [[(.string "b", one),
        (a, .mapping [(.string "x", .null), (.string "n", .mapping [(one, one)])])],
        [(a, .sequence [one]), (.string "b", .mapping []), (.null, .tagged "!t" (.mapping []))],
        [(.null, .mapping [(a, one)]), (a, .mapping
          [(.string "y", .string "y"), (.string "n", .mapping [(a, .null), (one, a)]),
            (.string "x", one)])]]
    keys (mergeAll fs) = [.string "b", a, .null] ∧
      get? (mergeAll fs) (.string "b") = some one ∧
      get? (mergeAll fs) .null = some (.tagged "!t" (.mapping [])) ∧
      settled (inside fs [a]) (.string "x") = some .null ∧
      inside fs [a, .string "n"] = [[(one, one)], [(a, .null), (one, a)]] ∧
      (Value.mapping (mergeAll fs)).at? [a, .string "n"] =
      some (.mapping [(one, one), (a, .null)]) ∧
      [(one, one), (a, .null)] = mergeAll (inside fs [a, .string "n"]) := by
  intro one a fs
  obtain ⟨hkeys, hget, hinside⟩ := mergeAll_settles fs
  have hn : (Value.mapping (mergeAll fs)).at? [a, .string "n"] =
      some (.mapping [(one, one), (a, .null)]) := by
    decide +kernel
  exact ⟨hkeys.trans (by decide +kernel), (hget _).trans (by decide +kernel),
    (hget _).trans (by decide +kernel), by decide +kernel, by decide +kernel, hn,
    (hinside _ _ hn).1⟩

end Mapping

end ComposePods

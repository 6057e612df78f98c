import ComposePods.Proofs.Absorption

/-!
# Grouping fragments

Fragments may be merged with each other before they are merged into what came before, unless one of
them is in the way: at some path the outer two of three mappings have mappings, and the middle one
has something else. Merged one after the other, the last mapping then extends the first one; grouped
to the right, the middle one keeps it out. Nothing else is different.

* `Value.Parted`: three values of which the middle one parts the outer two;
* `Value.Alike`: two values with the same keys, or equal;
* `Value.eq_of_alike`: values that are alike at every path are equal;
* `Mapping.get?_merge_of_distinct`, `Mapping.keys_merge_of_distinct`: a mapping that repeats no key,
  merged;
* `Mapping.alike_grouping`, `Mapping.at?_grouping`: the two groupings, where nothing is parted and
  where something is;
* **`Mapping.merge_grouping`**: when grouping is safe, and what differs if it is not.
-/

namespace ComposePods

open Mapping

namespace Value

/-- At a path two values have mappings, and the one between them has something else. -/
structure Parted (x y z : Value) (path : List Value) : Prop where
  first : ∃ m, x.at? path = some (.mapping m)
  between : ∃ v, y.at? path = some v ∧ v.mapping? = none
  last : ∃ n, z.at? path = some (.mapping n)

/-- Nothing is different but what is below keys. -/
def Alike (o o' : Option Value) : Prop :=
  o = o' ∨ ∃ m m', o = some (.mapping m) ∧ o' = some (.mapping m') ∧ keys m = keys m'

/-! ## Values at paths -/

variable {x y z v w : Value} {k : Value} {path : List Value} {m n : Mapping}

@[simp] theorem at?_nil (v : Value) : v.at? [] = some v := rfl

theorem at?_cons (m : Mapping) (k : Value) (path : List Value) :
    (Value.mapping m).at? (k :: path) = (get? m k).bind (·.at? path) := rfl

theorem exists_mapping_of_at? (h : v.at? (k :: path) = some w) : ∃ m, v = .mapping m := by
  cases v with
  | mapping m => exact ⟨m, rfl⟩
  | null | bool | number | string | sequence | tagged => cases h

theorem exists_mapping_of_at?_mapping (h : v.at? path = some (.mapping m)) :
    ∃ n, v = .mapping n := by
  cases path with
  | nil => exact ⟨m, Option.some.inj h⟩
  | cons k path => exact exists_mapping_of_at? h

theorem at?_append (v : Value) (p q : List Value) : v.at? (p ++ q) = (v.at? p).bind (·.at? q) := by
  induction p generalizing v with
  | nil => rfl
  | cons k p ih =>
    cases v with
    | mapping m =>
      rw [List.cons_append, at?_cons, at?_cons, Option.bind_assoc]
      congr 1
      funext w
      exact ih w
    | null | bool | number | string | sequence | tagged => rfl

theorem Alike.refl (o : Option Value) : Alike o o := .inl rfl

/-! ## Parted values -/

theorem parted_nil_iff : Parted x y z [] ↔ (∃ m, x = .mapping m) ∧ y.mapping? = none ∧
    ∃ n, z = .mapping n := by
  constructor
  · rintro ⟨⟨m, hm⟩, ⟨v, hv, hplain⟩, ⟨n, hn⟩⟩
    obtain rfl := Option.some.inj hv
    exact ⟨⟨m, Option.some.inj hm⟩, hplain, n, Option.some.inj hn⟩
  · rintro ⟨⟨m, rfl⟩, hplain, ⟨n, rfl⟩⟩
    exact ⟨⟨m, rfl⟩, ⟨y, rfl, hplain⟩, ⟨n, rfl⟩⟩

theorem parted_cons_iff {a b c : Mapping} :
    Parted (.mapping a) (.mapping b) (.mapping c) (k :: path) ↔
    ∃ x y z, get? a k = some x ∧ get? b k = some y ∧ get? c k = some z ∧ Parted x y z path := by
  constructor
  · rintro ⟨⟨m, hm⟩, ⟨v, hv, hplain⟩, ⟨n, hn⟩⟩
    obtain ⟨x, hx, hm⟩ := Option.bind_eq_some_iff.1 hm
    obtain ⟨y, hy, hv⟩ := Option.bind_eq_some_iff.1 hv
    obtain ⟨z, hz, hn⟩ := Option.bind_eq_some_iff.1 hn
    exact ⟨x, y, z, hx, hy, hz, ⟨m, hm⟩, ⟨v, hv, hplain⟩, ⟨n, hn⟩⟩
  · rintro ⟨x, y, z, hx, hy, hz, h⟩
    refine ⟨?_, ?_, ?_⟩
    · simpa [at?_cons, hx] using h.first
    · simpa [at?_cons, hy] using h.between
    · simpa [at?_cons, hz] using h.last

theorem Parted.sides (h : Parted x y z path) : (∃ m, x = .mapping m) ∧ ∃ n, z = .mapping n := by
  obtain ⟨m, hm⟩ := h.first
  obtain ⟨n, hn⟩ := h.last
  exact ⟨exists_mapping_of_at?_mapping hm, exists_mapping_of_at?_mapping hn⟩

theorem Parted.eq_nil (h : Parted x y z path) (hy : y.mapping? = none) : path = [] := by
  cases path with
  | nil => rfl
  | cons k path =>
    obtain ⟨v, hv, -⟩ := h.between
    obtain ⟨l, rfl⟩ := exists_mapping_of_at? hv
    cases hy

end Value

/-! ## Values that are alike everywhere -/

namespace Mapping

variable {base m m' : Mapping} {es : List (Value × Value)} {k : Value}

theorem eq_map_keys (hm : Distinct m) : m = (keys m).map fun k => (k, (get? m k).getD .null) := by
  rw [keys, List.map_map]
  refine (List.map_id m).symm.trans (List.map_congr_left fun e he => ?_)
  have hget : get? m e.1 = some e.2 := (get?_eq_some_iff hm).2 ⟨e.1, he, Value.same_self e.1⟩
  simp [hget]

theorem eq_of_keys_of_get? (hm : Distinct m) (hm' : Distinct m') (hkeys : keys m = keys m')
    (hget : ∀ k ∈ keys m, get? m k = get? m' k) : m = m' := by
  rw [eq_map_keys hm, eq_map_keys hm', ← hkeys]
  refine List.map_congr_left fun k hk => ?_
  rw [hget k hk]

end Mapping

namespace Value

mutual

/-- **Values that are alike at every path** are equal. -/
theorem eq_of_alike (v : Value) {w : Value} (hv : v.keysDistinct = true)
    (hw : w.keysDistinct = true) (h : ∀ path, Alike (v.at? path) (w.at? path)) : v = w := by
  rcases h [] with heq | ⟨m, m', hm, hm', hkeys⟩
  · exact Option.some.inj heq
  cases v with
  | mapping es =>
    obtain rfl : es = m := Value.mapping.inj (Option.some.inj hm)
    obtain rfl : w = .mapping m' := Option.some.inj hm'
    have hdistinct := (keysDistinct_mapping_iff.1 hv).2
    have hsame := get?_eq_of_alike es hv hw (fun _ he => he) h
    congr 1
    refine eq_of_keys_of_get? hdistinct (keysDistinct_mapping_iff.1 hw).2 hkeys fun k hk => ?_
    obtain ⟨⟨k, x⟩, he, rfl⟩ := List.mem_map.1 hk
    rw [hsame _ he]
    exact (get?_eq_some_iff hdistinct).2 ⟨k, he, same_self k⟩
  | null | bool | number | string | sequence | tagged => cases hm
termination_by structural v

theorem get?_eq_of_alike (es : List (Value × Value)) {m m' : Mapping}
    (hm : (Value.mapping m).keysDistinct = true) (hm' : (Value.mapping m').keysDistinct = true)
    (hsub : ∀ e ∈ es, e ∈ m)
    (h : ∀ path, Alike ((Value.mapping m).at? path) ((Value.mapping m').at? path)) :
    ∀ e ∈ es, get? m' e.1 = some e.2 := by
  cases es with
  | nil => exact nofun
  | cons e es =>
    obtain ⟨k, x⟩ := e
    rw [List.forall_mem_cons] at hsub ⊢
    refine ⟨?_, get?_eq_of_alike es hm hm' hsub.2 h⟩
    obtain ⟨hes, hdistinct⟩ := keysDistinct_mapping_iff.1 hm
    have hx : get? m k = some x := (get?_eq_some_iff hdistinct).2 ⟨k, hsub.1, same_self k⟩
    have hbelow (path : List Value) : Alike (x.at? path) ((get? m' k).bind (·.at? path)) := by
      have hpath := h (k :: path)
      rwa [at?_cons, at?_cons, hx] at hpath
    rcases hy : get? m' k with _ | y
    · have hnone := hbelow []
      simp [hy, Alike] at hnone
    · have hxy : x = y := by
        refine eq_of_alike x (hes _ hsub.1).2 (keysDistinct_of_get? hm' y hy) fun path => ?_
        have hpath := hbelow path
        rwa [hy] at hpath
      rw [hxy]
termination_by structural es

end

end Value

/-! ## Merging a mapping that repeats no key -/

namespace Mapping

open Value

variable {a b c base m n : Mapping} {es : List (Value × Value)} {k : Value} {path : List Value}

mutual

theorem mergeValue_none (v : Value) (hv : v.keysDistinct = true) : mergeValue none v = v := by
  cases v with
  | mapping es =>
    obtain ⟨hes, hdistinct⟩ := keysDistinct_mapping_iff.1 hv
    rw [mergeValue, merge_of_new es [] hdistinct hes]
    rfl
  | null | bool | number | string | sequence | tagged => rfl
termination_by structural v

theorem merge_of_new (es : List (Value × Value)) (base : Mapping) (h : Distinct (base ++ es))
    (hes : ∀ e ∈ es, e.1.keysDistinct = true ∧ e.2.keysDistinct = true) :
    merge base es = base ++ es := by
  cases es with
  | nil => exact (List.append_nil base).symm
  | cons e es =>
    obtain ⟨k, v⟩ := e
    have hnew : contains base k = false := not_contains_of_distinct h
    have hnone : get? base k = none := by simpa [contains] using hnew
    rw [List.forall_mem_cons] at hes
    rw [merge, hnone]
    dsimp only
    rw [mergeValue_none v hes.1.2, insert_of_not_contains hnew]
    have hsplit : base ++ (k, v) :: es = (base ++ [(k, v)]) ++ es := by simp
    rw [hsplit] at h ⊢
    exact merge_of_new es _ h hes.2
termination_by structural es

end

mutual

theorem keysDistinct_mergeValue (v : Value) (hv : v.keysDistinct = true) {o : Option Value}
    (ho : ∀ old ∈ o, old.keysDistinct = true) : (mergeValue o v).keysDistinct = true := by
  cases v with
  | mapping es =>
    have hes := (keysDistinct_mapping_iff.1 hv).1
    rcases o with _ | old
    · exact keysDistinct_merge es hes rfl
    · have hold := ho old rfl
      cases old with
      | mapping existing => exact keysDistinct_merge es hes hold
      | null | bool | number | string | sequence | tagged => exact hold
  | null | bool | number | string | sequence | tagged =>
    cases o with
    | none => exact hv
    | some old => exact ho old rfl
termination_by structural v

theorem keysDistinct_merge (es : List (Value × Value))
    (hes : ∀ e ∈ es, e.1.keysDistinct = true ∧ e.2.keysDistinct = true) {base : Mapping}
    (hbase : (Value.mapping base).keysDistinct = true) :
    (Value.mapping (merge base es)).keysDistinct = true := by
  cases es with
  | nil => exact hbase
  | cons e es =>
    obtain ⟨k, v⟩ := e
    rw [List.forall_mem_cons] at hes
    rw [merge]
    refine keysDistinct_merge es hes.2 ?_
    rcases hk : get? base k with _ | old
    · exact keysDistinct_insert hbase hes.1.1 (keysDistinct_mergeValue v hes.1.2 nofun)
    · refine keysDistinct_adjust hbase fun w hw =>
        keysDistinct_mergeValue v hes.1.2 fun old' hold' => ?_
      exact keysDistinct_of_get? hbase old' (by rw [hk]; exact hold')
termination_by structural es

end

theorem keysDistinct_merge_mapping (ha : (Value.mapping a).keysDistinct = true)
    (hb : (Value.mapping b).keysDistinct = true) :
    (Value.mapping (merge a b)).keysDistinct = true :=
  keysDistinct_merge b (keysDistinct_mapping_iff.1 hb).1 ha

/-- What a key has after merging, from what it had before and what comes for it. -/
def mergeEntry : Option Value → Option Value → Option Value
  | some old, some v => some (mergeValue (some old) v)
  | none, o => o
  | o, none => o

theorem get?_merge_of_distinct (hes : (Value.mapping es).keysDistinct = true) (base : Mapping)
    (k : Value) :
    get? (merge base es) k = mergeEntry (get? base k) (get? es k) := by
  rw [get?_merge_valuesOf, valuesOf_of_distinct (keysDistinct_mapping_iff.1 hes).2]
  rcases hv : get? es k with _ | v
  · cases get? base k <;> rfl
  · cases get? base k with
    | none => simp [mergeEntry, mergeValue_none v (keysDistinct_of_get? hes v hv)]
    | some old => rfl

theorem eraseDupsBy_of_pairwise {ks : List Value} (h : ks.Pairwise fun a b => a.same b = false) :
    ks.eraseDupsBy Value.same = ks := by
  induction ks with
  | nil => rfl
  | cons k ks ih =>
    obtain ⟨hk, hks⟩ := List.pairwise_cons.1 h
    have hfilter : ks.filter (fun l => decide (l.same k = false)) = ks :=
      List.filter_eq_self.2 fun l hl => by simp [same_comm l k, hk l hl]
    rw [List.eraseDupsBy_cons, hfilter, ih hks]

theorem keys_merge_of_distinct (hes : Distinct es) (base : Mapping) :
    keys (merge base es) = keys base ++ (keys es).filter fun k => !contains base k := by
  rw [keys_merge, eraseDupsBy_of_pairwise ((distinct_iff.1 hes).filter _)]

/-! ## The two groupings -/

theorem keys_grouping (hb : Distinct b) (hc : Distinct c) (a : Mapping) :
    keys (merge (merge a b) c) = keys (merge a (merge b c)) := by
  have hcontains : (fun k => !contains (merge a b) k) = fun k =>
      !contains a k && !contains b k := by
    funext k
    rw [contains_merge, Bool.not_or]
  rw [keys_merge_of_distinct hc, keys_merge_of_distinct hb,
    keys_merge_of_distinct (distinct_merge hb c), keys_merge_of_distinct hc, List.filter_append,
    List.filter_filter, hcontains, List.append_assoc]

theorem mergeEntry_assoc {x y z : Option Value}
    (h : ∀ m n, x = some (.mapping m) → z = some (.mapping n) → y = none) :
    mergeEntry (mergeEntry x y) z = mergeEntry x (mergeEntry y z) := by
  rcases y with _ | v
  · cases x <;> cases z <;> rfl
  rcases z with _ | w
  · cases x <;> rfl
  rcases x with _ | old
  · rfl
  rcases hold : old.mapping? with _ | m
  · have hplain := mapping?_eq_none_iff.1 hold
    simp [mergeEntry, mergeValue_into_plain hplain]
  · obtain rfl := mapping?_eq_some_iff.1 hold
    have hw : ∀ n, w ≠ .mapping n := by
      rintro n rfl
      cases h m n rfl rfl
    simp [mergeEntry, mergeValue_of_plain hw]

theorem mergeEntry_mappings (a b c : Mapping) :
    mergeEntry (mergeEntry (some (.mapping a)) (some (.mapping b))) (some (.mapping c)) =
        some (.mapping (merge (merge a b) c)) ∧
      mergeEntry (some (.mapping a)) (mergeEntry (some (.mapping b)) (some (.mapping c))) =
        some (.mapping (merge a (merge b c))) := ⟨rfl, rfl⟩

theorem mergeEntry_parted {v : Value} (hv : v.mapping? = none) (a c : Mapping) :
    mergeEntry (mergeEntry (some (.mapping a)) (some v))
    (some (.mapping c)) = some (.mapping (merge a c)) ∧
      mergeEntry (some (.mapping a)) (mergeEntry (some v) (some (.mapping c))) =
        some (.mapping a) := by
  have hplain := mapping?_eq_none_iff.1 hv
  constructor
  · simp only [mergeEntry, mergeValue_of_plain hplain, Option.getD_some, mergeValue]
  · simp only [mergeEntry, mergeValue_into_plain hplain, mergeValue_of_plain hplain,
      Option.getD_some]

theorem get?_groupings (hb : (Value.mapping b).keysDistinct = true)
    (hc : (Value.mapping c).keysDistinct = true) (a : Mapping) (k : Value) :
    get? (merge (merge a b) c) k = mergeEntry (mergeEntry (get? a k) (get? b k)) (get? c k) ∧
      get? (merge a (merge b c)) k = mergeEntry (get? a k) (mergeEntry (get? b k) (get? c k)) := by
  rw [get?_merge_of_distinct hc, get?_merge_of_distinct hb,
    get?_merge_of_distinct (keysDistinct_merge_mapping hb hc), get?_merge_of_distinct hc]
  exact ⟨rfl, rfl⟩

/-- **Where nothing is parted** on the way, the groupings differ in nothing but what is below
keys. -/
theorem alike_grouping (hb : (Value.mapping b).keysDistinct = true)
    (hc : (Value.mapping c).keysDistinct = true)
    (h : ∀ q, q <+: path → ¬ Parted (.mapping a) (.mapping b) (.mapping c) q) :
    Alike ((Value.mapping (merge (merge a b) c)).at? path)
    ((Value.mapping (merge a (merge b c))).at? path) := by
  induction path generalizing a b c with
  | nil =>
    have hkeys := keys_grouping (keysDistinct_mapping_iff.1 hb).2
      (keysDistinct_mapping_iff.1 hc).2 a
    exact .inr ⟨_, _, rfl, rfl, hkeys⟩
  | cons k path ih =>
    obtain ⟨hleft, hright⟩ := get?_groupings hb hc a k
    rw [at?_cons, at?_cons, hleft, hright]
    by_cases hassoc :
        ∀ m n, get? a k = some (.mapping m) → get? c k = some (.mapping n) → get? b k = none
    · rw [mergeEntry_assoc hassoc]
      exact .refl _
    push Not at hassoc
    obtain ⟨m, n, ha, hn, hsome⟩ := hassoc
    obtain ⟨v, hv⟩ := Option.ne_none_iff_exists'.1 hsome
    have hstep (q : List Value) (hq : q <+: path) : ¬ Parted (.mapping m) v (.mapping n) q :=
      fun hparted => h (k :: q) (List.cons_prefix_cons.2 ⟨rfl, hq⟩)
        (parted_cons_iff.2 ⟨_, v, _, ha, hv, hn, hparted⟩)
    rcases hplain : v.mapping? with _ | l
    · exact absurd (parted_nil_iff.2 ⟨⟨m, rfl⟩, hplain, n, rfl⟩) (hstep [] List.nil_prefix)
    · obtain rfl := mapping?_eq_some_iff.1 hplain
      rw [ha, hv, hn, (mergeEntry_mappings m l n).1, (mergeEntry_mappings m l n).2]
      exact ih (keysDistinct_of_get? hb _ hv) (keysDistinct_of_get? hc _ hn) hstep

/-- **Where a path is parted**, the last mapping extends the first one if it comes after the two,
and is kept out otherwise. -/
theorem at?_grouping (hb : (Value.mapping b).keysDistinct = true)
    (hc : (Value.mapping c).keysDistinct = true)
    (h : Parted (.mapping a) (.mapping b) (.mapping c) path)
    (hm : (Value.mapping a).at? path = some (.mapping m))
    (hn : (Value.mapping c).at? path = some (.mapping n)) :
    (Value.mapping (merge a (merge b c))).at? path = some (.mapping m) ∧
      (Value.mapping (merge (merge a b) c)).at? path = some (.mapping (merge m n)) := by
  induction path generalizing a b c with
  | nil => cases (parted_nil_iff.1 h).2.1
  | cons k path ih =>
    obtain ⟨hleft, hright⟩ := get?_groupings hb hc a k
    obtain ⟨x, y, z, hx, hy, hz, h⟩ := parted_cons_iff.1 h
    obtain ⟨⟨p, rfl⟩, ⟨q, rfl⟩⟩ := h.sides
    rw [at?_cons, hx] at hm
    rw [at?_cons, hz] at hn
    rw [at?_cons, at?_cons, hleft, hright, hx, hy, hz]
    rcases hmiddle : y.mapping? with _ | l
    · obtain rfl := h.eq_nil hmiddle
      obtain rfl : p = m := Value.mapping.inj (Option.some.inj hm)
      obtain rfl : q = n := Value.mapping.inj (Option.some.inj hn)
      rw [(mergeEntry_parted hmiddle p q).1, (mergeEntry_parted hmiddle p q).2]
      exact ⟨rfl, rfl⟩
    · obtain rfl := mapping?_eq_some_iff.1 hmiddle
      rw [(mergeEntry_mappings p l q).1, (mergeEntry_mappings p l q).2]
      exact ih (keysDistinct_of_get? hb _ hy) (keysDistinct_of_get? hc _ hz) h hm hn

/-- **When grouping is safe.** If no path is parted, the last two of three mappings may be merged
with each other first, also in the middle of a fold. In general this makes a difference exactly if
at some parted path the last mapping has something that the first one does not cover. The two
results then differ below the parted paths only: there the last mapping has extended the first one,
or has been kept out. -/
theorem merge_grouping (ha : (Value.mapping a).keysDistinct = true)
    (hb : (Value.mapping b).keysDistinct = true) (hc : (Value.mapping c).keysDistinct = true) :
    ((∀ path, ¬ Parted (.mapping a) (.mapping b) (.mapping c) path) →
        merge (merge a b) c = merge a (merge b c) ∧
          ∀ before after, mergeAll before = a →
            mergeAll (before ++ b :: c :: after) = mergeAll (before ++ merge b c :: after)) ∧
      (merge (merge a b) c = merge a (merge b c) ↔
        ∀ path m n, Parted (.mapping a) (.mapping b) (.mapping c) path →
          (Value.mapping a).at? path = some (.mapping m) →
            (Value.mapping c).at? path = some (.mapping n) →
            Covers m n) ∧
      (∀ path, (∀ q, q <+: path → ¬ Parted (.mapping a) (.mapping b) (.mapping c) q) →
        Alike ((Value.mapping (merge (merge a b) c)).at? path)
          ((Value.mapping (merge a (merge b c))).at? path)) ∧
      ∀ path m n, Parted (.mapping a) (.mapping b) (.mapping c) path →
        (Value.mapping a).at? path = some (.mapping m) →
          (Value.mapping c).at? path = some (.mapping n) →
          (Value.mapping (merge a (merge b c))).at? path = some (.mapping m) ∧
            (Value.mapping (merge (merge a b) c)).at? path = some (.mapping (merge m n)) := by
  have hequal : merge (merge a b) c = merge a (merge b c) ↔
      ∀ path m n, Parted (.mapping a) (.mapping b) (.mapping c) path →
        (Value.mapping a).at? path = some (.mapping m) →
        (Value.mapping c).at? path = some (.mapping n) →
          Covers m n := by
    constructor
    · intro heq path m n hparted hm hn
      obtain ⟨hright, hleft⟩ := at?_grouping hb hc hparted hm hn
      rw [heq, hright] at hleft
      exact merge_eq_self_iff.1 (Value.mapping.inj (Option.some.inj hleft)).symm
    · intro hcovers
      have hleft := keysDistinct_merge_mapping (keysDistinct_merge_mapping ha hb) hc
      have hright := keysDistinct_merge_mapping ha (keysDistinct_merge_mapping hb hc)
      refine Value.mapping.inj (eq_of_alike _ hleft hright fun path => ?_)
      by_cases hparted : ∃ q, q <+: path ∧ Parted (.mapping a) (.mapping b) (.mapping c) q
      · -- What is parted is the same on both sides, and so is all below it.
        obtain ⟨q, ⟨rest, rfl⟩, hparted⟩ := hparted
        obtain ⟨m, hm⟩ := hparted.first
        obtain ⟨n, hn⟩ := hparted.last
        obtain ⟨hright, hleft⟩ := at?_grouping hb hc hparted hm hn
        rw [at?_append, at?_append, hleft, hright, merge_of_covers n (hcovers q m n hparted hm hn)]
        exact .refl _
      · exact alike_grouping hb hc fun q hq h => hparted ⟨q, hq, h⟩
  refine ⟨fun hnone => ?_, hequal, fun path h => alike_grouping hb hc h, fun path m n =>
    at?_grouping hb hc⟩
  have hassoc := hequal.2 fun path _ _ h => absurd h (hnone path)
  refine ⟨hassoc, fun before after hbefore => ?_⟩
  have hfold : before.foldl merge [] = a := hbefore
  rw [mergeAll, mergeAll, List.foldl_append, List.foldl_append, hfold, List.foldl_cons,
    List.foldl_cons, List.foldl_cons, hassoc]

/-- Labels that are null in the middle keep the two other layers apart, below the labels only. Where
the first layer has no such key, a null in the middle is no obstacle. -/
theorem merge_grouping_labels :
    let one : Value := .number (.integer 1)
    let app : Value := .string "app"
    let labels : Value := .string "labels"
    let a : Mapping := [(app, .mapping [(labels, .mapping [(.string "x", one)])])]
    let b : Mapping := [(app, .mapping [(.string "user", one), (labels, .null)])]
    let c : Mapping :=
      [(app, .mapping [(labels, .mapping [(.string "y", one)]), (.string "tty", .bool true)])]
    let b' : Mapping := [(.string "log", .null), (app, .mapping [(.string "user", one)])]
    let c' : Mapping := [(.string "log", .mapping []), (app, .mapping [(.string "user", .null)])]
    ((Value.mapping a).keysDistinct = true ∧ (Value.mapping b).keysDistinct = true ∧
        (Value.mapping c).keysDistinct = true ∧
        Parted (.mapping a) (.mapping b) (.mapping c) [app, labels] ∧
        (Value.mapping (merge a (merge b c))).at? [app, labels] =
        some (.mapping [(.string "x", one)]) ∧
        (Value.mapping (merge (merge a b) c)).at? [app, labels] =
          some (.mapping [(.string "x", one), (.string "y", one)]) ∧
        merge (merge a b) c ≠ merge a (merge b c)) ∧
      ((Value.mapping b').keysDistinct = true ∧ (Value.mapping c').keysDistinct = true ∧
        (∀ path, ¬ Parted (.mapping a) (.mapping b') (.mapping c') path) ∧
        merge (merge a b') c' = merge a (merge b' c') ∧
        mergeAll ([a] ++ b' :: c' :: [c]) = mergeAll ([a] ++ merge b' c' :: [c])) := by
  intro one app labels a b c b' c'
  have ha : (Value.mapping a).keysDistinct = true := by decide +kernel
  have hb : (Value.mapping b).keysDistinct = true := by decide +kernel
  have hc : (Value.mapping c).keysDistinct = true := by decide +kernel
  have hb' : (Value.mapping b').keysDistinct = true := by decide +kernel
  have hc' : (Value.mapping c').keysDistinct = true := by decide +kernel
  have hparted : Parted (.mapping a) (.mapping b) (.mapping c) [app, labels] :=
    ⟨⟨[(.string "x", one)], by decide +kernel⟩, ⟨.null, by decide +kernel, rfl⟩,
      ⟨[(.string "y", one)], by decide +kernel⟩⟩
  have hnone : ∀ path, ¬ Parted (.mapping a) (.mapping b') (.mapping c') path := by
    intro path h
    cases path with
    | nil => cases (parted_nil_iff.1 h).2.1
    | cons k path =>
      obtain ⟨x, y, z, hx, hy, -, h⟩ := parted_cons_iff.1 h
      have hk : app.same k = true := by
        by_contra hne
        simp [a, get?, hne] at hx
      rw [← get?_congr _ hk] at hx hy
      obtain rfl : y = .mapping [(.string "user", one)] :=
        Option.some.inj (hy.symm.trans (by decide +kernel))
      obtain rfl : x = .mapping [(labels, .mapping [(.string "x", one)])] :=
        Option.some.inj (hx.symm.trans (by decide +kernel))
      cases path with
      | nil => cases (parted_nil_iff.1 h).2.1
      | cons l path =>
        obtain ⟨-, n, rfl⟩ := h.sides
        obtain ⟨u, v, -, hu, hv, -, -⟩ := parted_cons_iff.1 h
        have hl : labels.same l = true := by
          by_contra hne
          simp [get?, hne] at hu
        rw [← get?_congr _ hl] at hv
        simp [get?, labels] at hv
  obtain ⟨-, -, -, hbelow⟩ := merge_grouping ha hb hc
  obtain ⟨hsafe, -⟩ := merge_grouping ha hb' hc'
  obtain ⟨hright, hleft⟩ :=
    hbelow _ [(.string "x", one)] [(.string "y", one)] hparted (by decide +kernel)
    (by decide +kernel)
  exact ⟨⟨ha, hb, hc, hparted, hright, hleft, by decide +kernel⟩, hb', hc', hnone, (hsafe hnone).1,
    (hsafe hnone).2 [a] [c] (by decide +kernel)⟩

end Mapping

end ComposePods

import ComposePods.Proofs.Entries
import ComposePods.Proofs.Outcome
import ComposePods.Proofs.Records
import ComposePods.Proofs.Texts

/-!
# Two notations for pairs

An environment is a list of `KEY=value` or a mapping. Both notations of the same entries give the
same pairs, the list the last entry of every key, and where the keys are distinct the order of the
entries says nothing. A value is refused exactly if it is neither of the two, or something in it
that should be a scalar is none.

* `Value.IsScalar`, `Value.exists_scalarText?_iff`: scalars under their tags are what has a text;
* `Value.item`, `Value.listed`, `Value.mapped`: the notations of some entries;
* `Value.pairs?_listed`, `Value.pairs?_mapped`: what is read from them;
* `Value.exists_pairs?_iff`, `Value.IsRefused`: the values that give pairs, and those that do not;
* **`Value.notations_agree`**: how the notations and their failures relate.
-/

namespace ComposePods

namespace Value

variable {v : Value} {e : String × Option String} {es fs : List (String × Option String)}

/-! ## Scalars -/

/-- A text, a number or a truth value, under any tags. -/
inductive IsScalar : Value → Prop where
  | string (s : String) : IsScalar (.string s)
  | number (n : Number) : IsScalar (.number n)
  | bool (b : Bool) : IsScalar (.bool b)
  | tagged (tag : String) {v : Value} (h : IsScalar v) : IsScalar (.tagged tag v)

theorem exists_scalarText?_iff : (∃ s, v.scalarText? = .ok s) ↔ v.IsScalar := by
  constructor
  · rintro ⟨s, hs⟩
    induction v using scalarText?.induct with
    | case1 => exact .string _
    | case2 => exact .number _
    | case3 => exact .bool _
    | case4 tag v ih => exact .tagged tag (ih hs)
    | case5 => simp_all [scalarText?]
  · intro h
    induction h with
    | string | number | bool => exact ⟨_, rfl⟩
    | tagged _ _ ih => exact ih

/-! ## Notations -/

/-- An entry as an item of a list. -/
def item : String × Option String → Value
  | (key, none) => .string key
  | (key, some value) => .string (key ++ "=" ++ value)

/-- Entries as a list. -/
def listed (es : List (String × Option String)) : Value := .sequence (es.map item)

/-- Entries as a mapping, with null where a value is missing. -/
def mapped (es : List (String × Option String)) : Value :=
  .mapping (es.map fun e => (.string e.1, ofTextOrNull e.2))

theorem pairOfItem?_of_scalar {text : String} (h : v.scalarText? = .ok text) :
    v.pairOfItem? = .ok (((Text.splitOnce '=' text).map fun p => (p.1, some p.2)).getD
      (text, none)) := by
  rcases hsplit : Text.splitOnce '=' text with _ | ⟨key, value⟩ <;>
    simp [pairOfItem?, h, hsplit, bind, Except.bind, pure, Except.pure]

theorem pairOfItem?_item (h : '=' ∉ e.1.toList) : (item e).pairOfItem? = .ok e := by
  rcases e with ⟨key, _ | value⟩
  · rw [item, pairOfItem?_of_scalar rfl, Text.splitOnce_eq_none_iff.2 h]
    rfl
  · have hsplit : Text.splitOnce '=' (key ++ "=" ++ value) = some (key, value) :=
      Text.splitOnce_eq_some_iff.2 ⟨by simp, h⟩
    rw [item, pairOfItem?_of_scalar rfl, hsplit]
    rfl

theorem pairOfEntry?_entry (e : String × Option String) :
    pairOfEntry? (.string e.1, ofTextOrNull e.2) = .ok e := by
  rcases e with ⟨key, _ | value⟩ <;> rfl

/-- **A list** gives the last entry of each key. -/
theorem pairs?_listed (h : ∀ e ∈ es, '=' ∉ e.1.toList) : (listed es).pairs? = .ok (.ofList es) := by
  have hitems : (es.map item).mapM pairOfItem? = .ok es := by
    rw [mapM_ok_iff, List.forall₂_map_left_iff, List.forall₂_same]
    exact fun e he => pairOfItem?_item (h e he)
  rw [listed, pairs?, hitems]
  rfl

/-- **A mapping** gives its entries. -/
theorem pairs?_mapped (es : List (String × Option String)) :
    (mapped es).pairs? = .ok (.ofList es) := by
  have hentries : (es.map fun e => (Value.string e.1, ofTextOrNull e.2)).mapM
      pairOfEntry? = .ok es := by
    rw [mapM_ok_iff, List.forall₂_map_left_iff, List.forall₂_same]
    exact fun e _ => pairOfEntry?_entry e
  rw [mapped, pairs?, hentries]
  rfl

/-! ## Failures -/

theorem exists_pairOfItem?_iff : (∃ e, v.pairOfItem? = .ok e) ↔ v.IsScalar := by
  rw [← exists_scalarText?_iff]
  constructor
  · rintro ⟨e, he⟩
    obtain ⟨text, htext, -⟩ := bind_ok_iff.1 he
    exact ⟨text, htext⟩
  · rintro ⟨text, htext⟩
    exact ⟨_, pairOfItem?_of_scalar htext⟩

theorem exists_pairOfEntry?_iff {entry : Value × Value} :
    (∃ e, pairOfEntry? entry = .ok e) ↔
    entry.1.IsScalar ∧ (entry.2 ≠ .null → entry.2.IsScalar) := by
  obtain ⟨key, value⟩ := entry
  rw [← exists_scalarText?_iff, ← exists_scalarText?_iff]
  by_cases hnull : value = .null
  · subst hnull
    unfold pairOfEntry?
    simp
  · have hentry : pairOfEntry? (key, value) = key.scalarText? >>= fun k =>
      value.scalarText? >>= fun s =>
        pure (k, some s) := by
      cases value <;> first | rfl | contradiction
    simp [hentry, hnull, exists_comm]

/-- **The values that give pairs**: null, lists of scalars, and mappings from scalars to scalars or
null. -/
theorem exists_pairs?_iff :
    (∃ d, v.pairs? = .ok d) ↔ v = .null ∨
    (∃ items, v = .sequence items ∧ ∀ item ∈ items, item.IsScalar) ∨
      ∃ entries, v = .mapping entries ∧
        ∀ entry ∈ entries, entry.1.IsScalar ∧ (entry.2 ≠ .null → entry.2.IsScalar) := by
  have hread (x : Except LooseError (List (String × Option String))) :
      (∃ d, (do return Dict.ofList (← x)) = .ok d) ↔ ∃ es, x = .ok es := by
    cases x <;> simp
  cases v with
  | null => simp [pairs?]
  | sequence items =>
    rw [pairs?, hread, exists_mapM_ok_iff]
    simp only [exists_pairOfItem?_iff]
    simp
  | mapping entries =>
    rw [pairs?, hread, exists_mapM_ok_iff]
    simp only [exists_pairOfEntry?_iff]
    simp
  | bool | number | string | tagged => simp [pairs?]

/-- The value is neither null nor one of the notations, or something in it that should be a scalar
is none. -/
def IsRefused (v : Value) : Prop :=
  (v ≠ .null ∧ (∀ entries, v ≠ .mapping entries) ∧ ∀ items, v ≠ .sequence items) ∨
    (∃ items, v = .sequence items ∧ ∃ item ∈ items, ¬ item.IsScalar) ∨
    ∃ entries, v = .mapping entries ∧
      ∃ entry ∈ entries, ¬ entry.1.IsScalar ∨ entry.2 ≠ .null ∧ ¬ entry.2.IsScalar

theorem exists_pairs?_error_iff : (∃ err, v.pairs? = .error err) ↔ v.IsRefused := by
  have hfails : (∃ err, v.pairs? = .error err) ↔ ¬ ∃ d, v.pairs? = .ok d := by
    cases v.pairs? <;> simp
  have hentry (entry : Value × Value) :
      ¬ (entry.1.IsScalar ∧ (entry.2 ≠ .null → entry.2.IsScalar)) ↔
        ¬ entry.1.IsScalar ∨ entry.2 ≠ .null ∧ ¬ entry.2.IsScalar := by
    rw [not_and_or, Classical.not_imp]
  rw [hfails, exists_pairs?_iff, IsRefused]
  simp only [← hentry]
  cases v <;> simp

theorem exists_labels?_error_iff : (∃ err, v.labels? = .error err) ↔ v.IsRefused := by
  rw [← exists_pairs?_error_iff, labels?]
  cases v.pairs? <;> simp

/-! ## Agreement -/

theorem labels?_of_pairs? {d : Dict (Option String)} (h : v.pairs? = .ok d) :
    v.labels? = .ok (d.map (·.getD "")) := by
  rw [labels?, h]
  rfl

/-- **Both notations agree.** A list gives each key the value of its last entry, and labels are the
same with empty texts for missing values. Entries with distinct keys give the same as a list and as
a mapping, in any order. What is written for a result is read back as that result, and a value
without a result is one that is refused. -/
theorem notations_agree (es : List (String × Option String)) (hes : ∀ e ∈ es, '=' ∉ e.1.toList)
    (v : Value) :
    (∃ pairs labels, (listed es).pairs? = .ok pairs ∧ (listed es).labels? = .ok labels ∧
      (∀ key value, pairs.get? key = some value ↔
        ∃ before after, es = before ++ (key, value) :: after ∧ key ∉ after.map Prod.fst) ∧
      (∀ key, labels.get? key = (pairs.get? key).map (·.getD "")) ∧
      ((es.map Prod.fst).Nodup → ∀ fs, fs.Perm es →
        (listed fs).pairs? = .ok pairs ∧ (mapped fs).pairs? = .ok pairs ∧
        (listed fs).labels? = .ok labels ∧ (mapped fs).labels? = .ok labels)) ∧
      (∀ pairs, v.pairs? = .ok pairs → (ofPairs pairs).pairs? = .ok pairs) ∧
      (∀ labels, v.labels? = .ok labels → (ofLabels labels).labels? = .ok labels) ∧
      ((∃ err, v.pairs? = .error err) ↔ v.IsRefused) ∧
      ((∃ err, v.labels? = .error err) ↔ v.IsRefused) := by
  have hlisted := pairs?_listed hes
  refine ⟨⟨.ofList es, (Dict.ofList es).map (·.getD ""), hlisted, labels?_of_pairs? hlisted,
    fun _ _ => Dict.get?_ofList_eq_some_iff, Dict.get?_map _ _, fun hkeys fs hperm => ?_⟩,
    fun pairs _ => pairs?_ofPairs pairs, fun labels _ => labels?_ofLabels labels,
    exists_pairs?_error_iff,
    exists_labels?_error_iff⟩
  have hdict : Dict.ofList es = Dict.ofList fs := Dict.ofList_eq_of_perm hperm.symm hkeys
  have hlist : (listed fs).pairs? = .ok (.ofList es) :=
    hdict ▸ pairs?_listed fun e he => hes e (hperm.mem_iff.1 he)
  have hmap : (mapped fs).pairs? = .ok (.ofList es) := hdict ▸ pairs?_mapped fs
  exact ⟨hlist, hmap, labels?_of_pairs? hlist, labels?_of_pairs? hmap⟩

/-- A value with `=` in it and a missing one, as a list and as a mapping in the other order. -/
theorem notations_agree_assignments :
    let es := [("C", some "x=y"), ("B", none)]
    (∀ e ∈ es, '=' ∉ e.1.toList) ∧ (es.map Prod.fst).Nodup ∧
      (listed es).pairs? = .ok (.ofList es) ∧ (mapped es.reverse).pairs? = (listed es).pairs? ∧
      (mapped es.reverse).labels? = .ok (.ofList [("B", ""), ("C", "x=y")]) := by
  intro es
  have hes : ∀ e ∈ es, '=' ∉ e.1.toList := by decide +kernel
  have hkeys : (es.map Prod.fst).Nodup := by decide +kernel
  obtain ⟨⟨pairs, labels, hpairs, -, -, -, hdistinct⟩, -⟩ := notations_agree es hes .null
  obtain ⟨-, hmapped, -⟩ := hdistinct hkeys es.reverse es.reverse_perm
  exact ⟨hes, hkeys, pairs?_listed hes, hmapped.trans hpairs.symm, by decide +kernel⟩

end Value

end ComposePods

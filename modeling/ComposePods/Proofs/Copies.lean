import ComposePods.Proofs.Errors
import ComposePods.Proofs.Folding
import ComposePods.Proofs.Nodes
import ComposePods.Proofs.Outputs

/-!
# Copies of a component

What is copied into a component can be written as one text, as a list and as a mapping. The first
fragment that names the component alone says what is copied into it, and it does not matter in which
of the notations it does. Yet every fragment is read: a source or a destination without a text is
refused wherever it is.

* `Copies.Lists`: the texts of the copies that a value asks for;
* `Copies.lists_iff`: they are the texts of the list that stands for the value;
* `Copies.normalize_ok_iff`, `Copies.normalize_normalize`: a fragment with lists;
* `Copies.Restates`: the same copies in another notation;
* `Context.copiesOf`: the copies that fragments ask for;
* **`Context.copies_settle`**: what they are, in whatever notation.
-/

namespace ComposePods

open Mapping

/-! ## Entries in the same places -/

namespace Mapping

variable {R : Value × Value → Value × Value → Prop} {m m' base base' : Mapping}

theorem keys_of_forall₂ (hkey : ∀ e e', R e e' → e'.1 = e.1) (h : List.Forall₂ R m m') :
    keys m' = keys m := by
  induction h with
  | nil => rfl
  | cons he _ ih => rw [keys, keys, List.map_cons, List.map_cons, hkey _ _ he, ← keys, ← keys, ih]

theorem contains_congr_keys (h : keys m = keys m') (k : Value) : contains m k = contains m' k := by
  have hmem (m : Mapping) : contains m k = true ↔ ∃ l ∈ keys m, l.same k = true := by
    rw [contains_iff, keys]
    simp only [List.mem_map, exists_exists_and_eq_and]
  rw [Bool.eq_iff_iff, hmem, hmem, h]

theorem forall₂_merge (hkey : ∀ e e', R e e' → e'.1 = e.1)
    (hplain : ∀ e e', R e e' → (∀ n, e.2 ≠ .mapping n) ∧ ∀ n, e'.2 ≠ .mapping n)
    {es es' : List (Value × Value)} (hes : List.Forall₂ R es es')
    (hbase : List.Forall₂ R base base') : List.Forall₂ R (merge base es) (merge base' es') := by
  induction hes generalizing base base' with
  | nil => exact hbase
  | @cons e e' es es' he _ ih =>
    obtain ⟨k, v⟩ := e
    obtain ⟨k', v'⟩ := e'
    obtain rfl : k' = k := hkey _ _ he
    obtain ⟨hv, hv'⟩ := hplain _ _ he
    have hcontains := contains_congr_keys (keys_of_forall₂ hkey hbase) k'
    rcases hk : contains base k' with _ | _
    · rw [merge_cons_of_plain hk hv, merge_cons_of_plain (hcontains.trans hk) hv']
      exact ih (List.rel_append hbase (.cons he .nil))
    · rw [merge_cons_of_known hk hv, merge_cons_of_known (hcontains.trans hk) hv']
      exact ih hbase

end Mapping

namespace Copies

variable {service : String} {v w : Value} {ss : List String} {e e' : Value × Value} {f g : Mapping}

/-! ## Notations -/

/-- The text of a source and its destination. -/
def IsPair (e : Value × Value) (text : String) : Prop :=
  ∃ source destination, e.1.scalarText? = .ok source ∧ e.2.scalarText? = .ok destination ∧
    text = source ++ ":" ++ destination

/-- The texts of the copies that a value asks for. -/
inductive Lists : Value → List String → Prop where
  | null : Lists .null []
  | text (s : String) : Lists (.string s) [s]
  | items {vs : List Value} {ss : List String}
      (h : List.Forall₂ (fun v s => v.scalarText? = .ok s) vs ss) :
      Lists (.sequence vs) ss
  | pairs {es : Mapping} {ss : List String} (h : List.Forall₂ IsPair es ss) : Lists (.mapping es) ss

theorem scalar_ok_iff {s : String} : scalar service v = .ok s ↔ v.scalarText? = .ok s := by
  unfold scalar
  cases v.scalarText? <;> simp

theorem pair_ok_iff : pair service e = .ok w ↔ ∃ s, IsPair e s ∧ w = .string s := by
  simp only [pair, bind_ok_iff, pure_ok_iff, scalar_ok_iff, IsPair]
  constructor
  · rintro ⟨source, hsource, destination, hdestination, rfl⟩
    exact ⟨_, ⟨source, destination, hsource, hdestination, rfl⟩, rfl⟩
  · rintro ⟨_, ⟨source, destination, hsource, hdestination, rfl⟩, rfl⟩
    exact ⟨source, hsource, destination, hdestination, rfl⟩

theorem mapM_pair_ok_iff {es : Mapping} {ws : List Value} :
    es.mapM (pair service) = .ok ws ↔ ∃ ss, List.Forall₂ IsPair es ss ∧ ws = ss.map .string := by
  simp only [mapM_ok_iff, pair_ok_iff]
  constructor
  · intro h
    induction h with
    | nil => exact ⟨[], .nil, rfl⟩
    | cons he _ ih =>
      obtain ⟨s, hs, rfl⟩ := he
      obtain ⟨ss, hss, rfl⟩ := ih
      exact ⟨s :: ss, .cons hs hss, rfl⟩
  · rintro ⟨ss, hss, rfl⟩
    exact List.forall₂_map_right_iff.2 (hss.imp fun _ s hs => ⟨s, hs, rfl⟩)

theorem lists_strings (ss : List String) : Lists (Value.strings ss) ss :=
  .items (List.forall₂_map_left_iff.2 (List.forall₂_same.2 fun _ _ => rfl))

theorem pairs_sequence_ok_iff {vs : List Value} :
    pairs (.sequence vs) service = .ok ss ↔
    List.Forall₂ (fun v s => v.scalarText? = .ok s) vs ss := by
  rw [pairs, mapM_ok_iff]
  simp only [scalar_ok_iff]

theorem pairs_strings (ss : List String) : pairs (Value.strings ss) service = .ok ss :=
  pairs_sequence_ok_iff.2 (List.forall₂_map_left_iff.2 (List.forall₂_same.2 fun _ _ => rfl))

theorem normalizeValue_mapping_ok_iff {es : Mapping} :
    normalizeValue service (.mapping es) = .ok w ↔
    ∃ ss, List.Forall₂ IsPair es ss ∧ w = Value.strings ss := by
  simp only [normalizeValue, bind_ok_iff, pure_ok_iff, mapM_pair_ok_iff]
  constructor
  · rintro ⟨_, ⟨ss, hss, rfl⟩, rfl⟩
    exact ⟨ss, hss, rfl⟩
  · rintro ⟨ss, hss, rfl⟩
    exact ⟨_, ⟨ss, hss, rfl⟩, rfl⟩

theorem normalizeValue_cases (h : normalizeValue service v = .ok w) :
    (∃ ss, w = Value.strings ss) ∨ w = v ∧ ∀ m, v ≠ .mapping m := by
  cases v with
  | mapping es =>
    obtain ⟨ss, -, rfl⟩ := normalizeValue_mapping_ok_iff.1 h
    exact .inl ⟨ss, rfl⟩
  | string s =>
    cases h
    exact .inl ⟨[s], rfl⟩
  | null | bool | number | sequence | tagged =>
    cases h
    exact .inr ⟨rfl, nofun⟩

theorem ne_mapping_of_normalizeValue (h : normalizeValue service v = .ok w) (m : Mapping) :
    w ≠ .mapping m := by
  rcases normalizeValue_cases h with ⟨ss, rfl⟩ | ⟨rfl, hplain⟩
  · exact nofun
  · exact hplain m

theorem normalizeValue_normalizeValue (h : normalizeValue service v = .ok w) :
    normalizeValue service w = .ok w := by
  rcases normalizeValue_cases h with ⟨ss, rfl⟩ | ⟨rfl, -⟩
  · rfl
  · exact h

/-- **What a value asks for** is what the list says that stands for it. -/
theorem lists_iff : Lists v ss ↔
    ∃ w, normalizeValue service v = .ok w ∧ pairs w service = .ok ss := by
  constructor
  · intro h
    cases h with
    | null => exact ⟨.null, rfl, rfl⟩
    | text s => exact ⟨_, rfl, pairs_strings [s]⟩
    | items h => exact ⟨_, rfl, pairs_sequence_ok_iff.2 h⟩
    | pairs h => exact ⟨_, normalizeValue_mapping_ok_iff.2 ⟨ss, h, rfl⟩, pairs_strings ss⟩
  · rintro ⟨w, hw, hss⟩
    cases v with
    | null =>
      cases hw
      cases hss
      exact .null
    | string s =>
      cases hw
      cases (pairs_strings [s]).symm.trans hss
      exact .text s
    | sequence vs =>
      cases hw
      exact .items (pairs_sequence_ok_iff.1 hss)
    | mapping es =>
      obtain ⟨ss', hes, rfl⟩ := normalizeValue_mapping_ok_iff.1 hw
      cases (pairs_strings ss').symm.trans hss
      exact .pairs hes
    | bool | number | tagged =>
      cases hw
      cases hss

/-! ## Fragments with lists -/

/-- The same entry with the list that stands for its value. -/
def IsListed (service : String) (e e' : Value × Value) : Prop :=
  e'.1 = e.1 ∧ normalizeValue service e.2 = .ok e'.2

/-- An entry with the list that stands for its value. -/
def normalizeEntry (service : String) (e : Value × Value) : Except PodError (Value × Value) :=
  return (e.1, ← normalizeValue service e.2)

theorem normalizeEntry_ok_iff : normalizeEntry service e = .ok e' ↔ IsListed service e e' := by
  obtain ⟨k', v'⟩ := e'
  simp only [normalizeEntry, IsListed, bind_ok_iff, pure_ok_iff, Prod.mk.injEq]
  constructor
  · rintro ⟨w, hw, rfl, rfl⟩
    exact ⟨rfl, hw⟩
  · rintro ⟨rfl, hw⟩
    exact ⟨v', hw, rfl, rfl⟩

theorem foldlM_insert_eq (es read : Mapping) (h : Distinct (read ++ es)) :
    es.foldlM (fun m e => return Mapping.insert m e.1 (← normalizeValue service e.2)) read =
      es.mapM (normalizeEntry service) >>= fun es' => .ok (read ++ es') := by
  induction es generalizing read with
  | nil =>
    change Except.ok read = .ok (read ++ [])
    rw [List.append_nil]
  | cons e es ih =>
    rw [List.foldlM_cons, List.mapM_cons, normalizeEntry]
    rcases normalizeValue service e.2 with error | w
    · rfl
    · have hstep : Distinct (read ++ [(e.1, w)] ++ es) := by
        rw [distinct_iff] at h ⊢
        simpa [keys] using h
      have hinsert := insert_of_not_contains (not_contains_of_distinct h) w
      change (es.foldlM _ (Mapping.insert read e.1 w) : Except PodError Mapping) = _
      rw [hinsert, ih _ hstep]
      rcases es.mapM (normalizeEntry service) with error | es'
      · rfl
      · change Except.ok (read ++ [(e.1, w)] ++ es') = .ok (read ++ (e.1, w) :: es')
        rw [List.append_assoc]
        rfl

theorem normalize_eq_mapM (hf : Distinct f) :
    normalize f service = f.mapM (normalizeEntry service) := by
  rw [normalize, foldlM_insert_eq f [] hf]
  cases f.mapM (normalizeEntry service) <;> rfl

theorem normalize_ok_iff (hf : Distinct f) :
    normalize f service = .ok g ↔ List.Forall₂ (IsListed service) f g := by
  rw [normalize_eq_mapM hf, mapM_ok_iff]
  simp only [normalizeEntry_ok_iff]

theorem keys_of_listed (h : List.Forall₂ (IsListed service) f g) : keys g = keys f :=
  keys_of_forall₂ (fun _ _ he => he.1) h

/-- **A fragment with lists** has the keys of the fragment in their order, and lists for all of them
already. -/
theorem normalize_normalize (hf : Distinct f) (h : normalize f service = .ok g) :
    keys g = keys f ∧ normalize g service = .ok g := by
  rw [normalize_ok_iff hf] at h
  have hkeys := keys_of_listed h
  have hg : Distinct g := by
    rw [distinct_iff, hkeys]
    exact distinct_iff.1 hf
  refine ⟨hkeys, (normalize_ok_iff hg).2 (List.forall₂_same.2 fun e he => ?_)⟩
  obtain ⟨_, -, -, hvalue⟩ := exists_right_of_forall₂ h.flip e he
  exact ⟨rfl, normalizeValue_normalizeValue hvalue⟩

theorem get?_of_listed (h : List.Forall₂ (IsListed service) f g) {k : Value}
    (hw : get? g k = some w) : ∃ v, get? f k = some v ∧ normalizeValue service v = .ok w := by
  induction h with
  | nil => cases hw
  | @cons e e' f g he _ ih =>
    obtain ⟨l, v⟩ := e
    obtain ⟨l', w'⟩ := e'
    obtain ⟨rfl : l' = l, hvalue⟩ := he
    rw [get?] at hw ⊢
    by_cases hl : l'.same k = true
    · rw [if_pos hl] at hw ⊢
      cases hw
      exact ⟨v, rfl, hvalue⟩
    · rw [if_neg hl] at hw ⊢
      exact ih hw

/-! ## Other notations -/

/-- The same copies into the same component, maybe in another notation. -/
def Restates (e e' : Value × Value) : Prop :=
  e'.1 = e.1 ∧ (e'.2 = e.2 ∨ ∃ ss, Lists e.2 ss ∧ Lists e'.2 ss)

/-- Two entries with lists that come to the same. -/
structure SameCopies (service : String) (e e' : Value × Value) : Prop where
  key : e'.1 = e.1
  plain : ∀ m, e.2 ≠ .mapping m
  plain' : ∀ m, e'.2 ≠ .mapping m
  pairs_eq : pairs e'.2 service = pairs e.2 service

theorem SameCopies.refl_of_listed (h : IsListed service e e') : SameCopies service e' e' :=
  ⟨rfl, ne_mapping_of_normalizeValue h.2, ne_mapping_of_normalizeValue h.2, rfl⟩

theorem Restates.agree (h : Restates e e') :
    Agree (SameCopies service) (normalizeEntry service e) (normalizeEntry service e') := by
  obtain ⟨k, v⟩ := e
  obtain ⟨k', v'⟩ := e'
  obtain ⟨rfl : k' = k, heq | ⟨ss, hss, hss'⟩⟩ := h
  · obtain rfl : v' = v := heq
    rcases hlisted : normalizeEntry service (k', v') with error | listed
    · exact .error error
    · exact .ok (.refl_of_listed (normalizeEntry_ok_iff.1 hlisted))
  · obtain ⟨w, hw, hpairs⟩ := lists_iff.1 hss
    obtain ⟨w', hw', hpairs'⟩ := lists_iff.1 hss'
    have hlisted : IsListed service (k', v) (k', w) := ⟨rfl, hw⟩
    have hlisted' : IsListed service (k', v') (k', w') := ⟨rfl, hw'⟩
    rw [normalizeEntry_ok_iff.2 hlisted, normalizeEntry_ok_iff.2 hlisted']
    exact .ok ⟨rfl, ne_mapping_of_normalizeValue hw, ne_mapping_of_normalizeValue hw',
      hpairs'.trans hpairs.symm⟩

end Copies

/-! ## Rendered fragments -/

theorem Fragment.keysDistinct_of_ofText {text : String} {f : Mapping} (h : ofText text = .ok f) :
    (Value.mapping f).keysDistinct = true := by
  unfold ofText at h
  split at h
  · cases h
    rfl
  · split at h
    · cases h
    · rename_i entries hread
      cases h
      rw [Yaml.read, Document.read_ok_iff] at hread
      exact Node.keysDistinct_of_value _ hread.1
    · cases h
      rfl
    · cases h

namespace Context

open Controller Copies

variable {c : Context} {fragments fragments' : List Mapping}

theorem keysDistinct_of_render [Markup.Machine] {layer : Layer} {t : Template} {f : Mapping}
    (h : c.render layer t = .ok f) : (Value.mapping f).keysDistinct = true := by
  unfold render at h
  split at h
  · cases h
  · simp only [report, fragmentOf, mapError_ok_iff, bind_ok_iff] at h
    obtain ⟨text, -, h⟩ := h
    exact Fragment.keysDistinct_of_ofText h

variable (c) in
/-- The texts of the copies that some fragments ask for, under the names of their components. -/
def copiesOf (fragments : List Mapping) : Except PodError (Dict String) := do
  c.copyTexts (← fragments.mapM (normalize · c.service.name))

theorem copyStage_of_rendered [Markup.Machine]
    (h : c.templates.copy.mapM (c.render .copy) = .ok fragments) :
    c.copyStage = report (c.copiesOf fragments) := by
  have hcopies : c.templates.copy.mapM c.renderCopies =
      fragments.mapM fun f => report (normalize f c.service.name) := by
    refine mapM_eq_of_forall₂ ((mapM_ok_iff.1 h).imp fun t f ht => ?_)
    rw [renderCopies, ht]
    rfl
  rw [copyStage, hcopies, copiesOf]
  simp only [report, mapError_bind, mapM_mapError]

/-! ## What is copied -/

/-- The first fragment that names a component says what is copied into it: the name is the text of
the root key, the text that of the list of copies. -/
def IsFirst (fragments : List Mapping) (k : Value) (o : String × String) : Prop :=
  k.scalarText? = .ok o.1 ∧ ∃ v ss, fragments.findSome? (get? · k) = some v ∧ Lists v ss ∧
    textOf (Value.strings ss) = .ok o.2

theorem listed_of_mapM {gs : List Mapping} (hfragments : ∀ f ∈ fragments, Distinct f)
    (h : fragments.mapM (normalize · c.service.name) = .ok gs) :
    List.Forall₂ (List.Forall₂ (IsListed c.service.name)) fragments gs := by
  have hboth := (List.forall₂_and_left fragments gs).2 ⟨hfragments, mapM_ok_iff.1 h⟩
  exact hboth.imp fun f g hfg => (normalize_ok_iff hfg.1).1 hfg.2

theorem findSome?_of_mem_mergeAll {gs : List Mapping} {service : String} {e : Value × Value}
    (h : List.Forall₂ (IsListed service) fragments.flatten gs.flatten) (he : e ∈ mergeAll gs) :
    ∃ v, fragments.findSome? (get? · e.1) = some v ∧ normalizeValue service v = .ok e.2 := by
  have hplain : ∀ e ∈ gs.flatten, ∀ m, e.2 ≠ .mapping m := by
    intro e he
    obtain ⟨_, -, hlisted⟩ := exists_right_of_forall₂ h.flip e he
    exact ne_mapping_of_normalizeValue hlisted.2
  have hget : get? (mergeAll gs) e.1 = some e.2 :=
    (get?_eq_some_iff (distinct_mergeAll gs)).2 ⟨e.1, he, Value.same_self _⟩
  rw [mergeAll_eq_merge_flatten, get?_merge_of_plain hplain] at hget
  rw [findSome?_get?]
  exact get?_of_listed h hget

theorem copiesOf_collects {d : Dict String} (hfragments : ∀ f ∈ fragments, Distinct f)
    (h : c.copiesOf fragments = .ok d) :
    ∃ outputs, List.Forall₂ (IsFirst fragments)
    ((fragments.flatMap keys).eraseDupsBy Value.same) outputs ∧
      d.Collects outputs := by
  obtain ⟨gs, hgs, htexts⟩ := bind_ok_iff.1 h
  obtain ⟨outputs, houtputs, hd⟩ := copyTexts_collects htexts
  have hlisted := List.rel_flatten (listed_of_mapM hfragments hgs)
  have hkeys : keys (mergeAll gs) = (fragments.flatMap keys).eraseDupsBy Value.same := by
    rw [keys_mergeAll, ← keys_flatten, ← keys_flatten, keys_of_listed hlisted]
  refine ⟨outputs, ?_, hd⟩
  rw [← hkeys, keys, List.forall₂_map_left_iff]
  have hboth := (List.forall₂_and_left (mergeAll gs) outputs).2 ⟨fun _ => id, houtputs⟩
  refine hboth.imp fun e o h => ?_
  obtain ⟨he, hname, ss, hpairs, htext⟩ := h
  obtain ⟨v, hv, hvalue⟩ := findSome?_of_mem_mergeAll hlisted he
  exact ⟨hname, v, ss, hv, lists_iff.2 ⟨e.2, hvalue, hpairs⟩, htext⟩

theorem perm_of_copiesOf {d : Dict String} {outputs : List (String × String)}
    (hd : d.Collects outputs) (houtputs : List.Forall₂ (IsFirst fragments)
      ((fragments.flatMap keys).eraseDupsBy Value.same) outputs)
    (htexts : Value.TextsDistinct (fragments.flatMap keys)) : d.entries.Perm outputs := by
  rw [← keys_mergeAll] at houtputs
  have hsub : keys (mergeAll fragments) ⊆ fragments.flatMap keys := fun k hk =>
    List.mem_flatMap.2 (mem_keys_mergeAll hk)
  have hnames : List.Forall₂ (fun k name => k.scalarText? = .ok name) (keys (mergeAll fragments))
      (outputs.map Prod.fst) := List.forall₂_map_right_iff.2 (houtputs.imp fun _ _ h => h.1)
  exact hd.all_iff.2
    (Value.nodup_of_textsDistinct (distinct_iff.1 (distinct_mergeAll fragments))
      (htexts.mono hsub) hnames)

/-! ## The same copies in other notations -/

theorem agree_normalize {service : String} {f f' : Mapping} (hf : Distinct f)
    (h : List.Forall₂ Restates f f') :
    Agree (List.Forall₂ (SameCopies service)) (normalize f service) (normalize f' service) := by
  have hf' : Distinct f' := by
    rw [distinct_iff, keys_of_forall₂ (fun _ _ he => he.1) h]
    exact distinct_iff.1 hf
  rw [normalize_eq_mapM hf, normalize_eq_mapM hf']
  exact .mapM h fun e e' he => he.agree

theorem copyEntry_eq {e e' : Value × Value} (h : SameCopies c.service.name e e') :
    c.copyEntry e = c.copyEntry e' := by
  rw [copyEntry, copyEntry, h.key, h.pairs_eq]

/-- **The notation does not matter.** -/
theorem copiesOf_restated (hfragments : ∀ f ∈ fragments, Distinct f)
    (h : List.Forall₂ (List.Forall₂ Restates) fragments fragments') :
    c.copiesOf fragments = c.copiesOf fragments' := by
  have hboth := (List.forall₂_and_left fragments fragments').2 ⟨hfragments, h⟩
  have hlists : Agree (List.Forall₂ (List.Forall₂ (SameCopies c.service.name)))
      (fragments.mapM (normalize · c.service.name))
      (fragments'.mapM (normalize · c.service.name)) :=
    .mapM hboth fun f f' hff' => agree_normalize hff'.1 hff'.2
  refine hlists.bind_eq fun gs gs' hgs => ?_
  -- No list is a mapping, so both folds take the entries from the same places.
  have hmerged := forall₂_merge (fun _ _ h => h.key) (fun _ _ h => ⟨h.plain, h.plain'⟩)
    (List.rel_flatten hgs)
    (List.Forall₂.nil)
  rw [copyTexts, copyTexts, mergeAll_eq_merge_flatten, mergeAll_eq_merge_flatten,
    mapM_eq_of_forall₂ (hmerged.imp fun _ _ => copyEntry_eq)]

/-! ## Copies that are refused -/

/-- A source or a destination that is no scalar is refused, in whatever fragment it is. -/
theorem copiesOf_refused (hfragments : ∀ f ∈ fragments, Distinct f) {f es : Mapping} {k : Value}
    {p : Value × Value} (hf : f ∈ fragments) (he : (k, .mapping es) ∈ f) (hp : p ∈ es)
    (hscalar : (∃ e, p.1.scalarText? = .error e) ∨ ∃ e, p.2.scalarText? = .error e) :
    ∃ error, c.copiesOf fragments = .error (.schema c.service.name .copy error) := by
  -- The lists are made before anything is merged, so the fragments that come before cannot shadow
  -- the entry.
  have hfail : ∀ gs, fragments.mapM (normalize · c.service.name) ≠ .ok gs := by
    intro gs hgs
    obtain ⟨g, -, hlisted⟩ := exists_right_of_forall₂ (listed_of_mapM hfragments hgs) f hf
    obtain ⟨e', -, -, hvalue⟩ := exists_right_of_forall₂ hlisted _ he
    obtain ⟨ss, hss, -⟩ := normalizeValue_mapping_ok_iff.1 hvalue
    obtain ⟨text, -, source, destination, hsource, hdestination, -⟩ :=
      exists_right_of_forall₂ hss p hp
    rcases hscalar with ⟨e, herror⟩ | ⟨e, herror⟩
    · cases hsource.symm.trans herror
    · cases hdestination.symm.trans herror
  have hraises : RaisesOnly (PodError.OfSchema c.service.name .copy)
      (fragments.mapM (normalize · c.service.name)) :=
    .mapM fun f _ => raises_normalize c.service.name f
  obtain ⟨e, ⟨error, rfl⟩, he⟩ := hraises.exists_error hfail
  refine ⟨error, ?_⟩
  rw [copiesOf, he]
  rfl

/-- **What is copied.** The copy templates of a service come down to the fragments that they are
rendered to, in which no key is repeated. If different root keys have different texts, there is one
output for each root key, and it lists what the first fragment with the key asks for. Texts say what
they list, and no other notation of any entries changes the outcome, in whatever fragments they are.
A fragment with lists has the keys of the fragment, and has its lists already. A mapping with a
source or a destination that is no scalar is refused, wherever it is. -/
theorem copies_settle [Markup.Machine] (c : Context) (fragments : List Mapping)
    (hfragments : ∀ f ∈ fragments, Distinct f) :
    (∀ rendered, c.templates.copy.mapM (c.render .copy) = .ok rendered →
        (∀ f ∈ rendered, Distinct f) ∧ c.copyStage = report (c.copiesOf rendered)) ∧
      (∀ d, c.copiesOf fragments = .ok d → Value.TextsDistinct (fragments.flatMap keys) →
        ∃ outputs, List.Forall₂ (IsFirst fragments)
          ((fragments.flatMap keys).eraseDupsBy Value.same) outputs ∧
          d.entries.Perm outputs) ∧
      (∀ ss, Lists (Value.strings ss) ss) ∧
      (∀ fragments', List.Forall₂ (List.Forall₂ Restates) fragments fragments' →
        c.copiesOf fragments' = c.copiesOf fragments) ∧
      (∀ f, Distinct f → ∀ g, normalize f c.service.name = .ok g →
        keys g = keys f ∧ normalize g c.service.name = .ok g) ∧
      ∀ f ∈ fragments, ∀ k es, (k, .mapping es) ∈ f → ∀ p ∈ es,
        ((∃ e, p.1.scalarText? = .error e) ∨ ∃ e, p.2.scalarText? = .error e) →
          ∃ error, c.copiesOf fragments = .error (.schema c.service.name .copy error) := by
  refine ⟨fun rendered hrendered => ⟨fun f hf => ?_, copyStage_of_rendered hrendered⟩,
    fun d hd htexts => ?_, lists_strings, fun fragments' h => (copiesOf_restated hfragments h).symm,
    fun f hf g hg => normalize_normalize hf hg,
    fun f hf k es he p hp hscalar => copiesOf_refused hfragments hf he hp hscalar⟩
  · obtain ⟨t, -, ht⟩ := exists_right_of_forall₂ (mapM_ok_iff.1 hrendered).flip f hf
    exact (Value.keysDistinct_mapping_iff.1 (keysDistinct_of_render ht)).2
  · obtain ⟨outputs, houtputs, hcollects⟩ := copiesOf_collects hfragments hd
    exact ⟨outputs, houtputs, perm_of_copiesOf hcollects houtputs htexts⟩

/-- Two templates that name the same components, their copies in other notations, and a source that
is no scalar in a mapping that has no say. -/
theorem copies_settle_shadowed :
    let web : Service := Service.empty "web"
    let first : Template := ⟨"first", "app: \x7b/a: /b, 8080: true\x7d\ndb:\n", []⟩
    let second : Template := ⟨"second", "db: /x:/y\nlog: [!t 1, z]\napp: []\n", []⟩
    let c : Context := ⟨web, [web], "/work", ⟨[], [], [], [first, second], []⟩⟩
    let number (i : Int) : Value := .number (.integer i)
    let app : Mapping := [(.string "/a", .string "/b"), (number 8080, .bool true)]
    let fragments : List Mapping :=
      [[(.string "app", .mapping app), (.string "db", .null)],
        [(.string "db", .string "/x:/y"),
          (.string "log", .sequence [.tagged "!t" (number 1), .string "z"]),
          (.string "app", .sequence [])]]
    let restated : List Mapping :=
      [[(.string "app", Value.strings ["/a:/b", "8080:true"]), (.string "db", .sequence [])],
        [(.string "db", .sequence [.string "/x:/y"]), (.string "log", Value.strings ["1", "z"]),
          (.string "app", .null)]]
    let shadowed : List Mapping :=
      [[(.string "app", .null)], [(.string "app", .mapping [(.null, .string "/b")])]]
    (∀ f ∈ fragments, Distinct f) ∧ (∀ f ∈ shadowed, Distinct f) ∧
      c.copyStage = report (c.copiesOf fragments) ∧
      (∃ d, c.copiesOf fragments = .ok d ∧
        ∃ outputs, List.Forall₂ (IsFirst fragments)
        [.string "app", .string "db", .string "log"] outputs ∧
          d.entries.Perm outputs) ∧
      c.copiesOf restated = c.copiesOf fragments ∧
      ∃ error, c.copiesOf shadowed = .error (.schema "web" .copy error) := by
  intro web first second c number app fragments restated shadowed
  have hfragments : ∀ f ∈ fragments, Distinct f := by decide +kernel
  have hshadowed : ∀ f ∈ shadowed, Distinct f := by decide +kernel
  obtain ⟨hrendered, hfirst, -, hrestated, -⟩ := copies_settle c fragments hfragments
  obtain ⟨-, -, -, -, -, hrefused⟩ := copies_settle c shadowed hshadowed
  have hrender : c.templates.copy.mapM (c.render .copy) = .ok fragments := by decide +kernel
  obtain ⟨d, hd⟩ : ∃ d, c.copiesOf fragments = .ok d := exists_ok_of_isOk (by decide +kernel)
  have hkeys : (fragments.flatMap keys).eraseDupsBy Value.same =
      [.string "app", .string "db", .string "log"] := by
    decide +kernel
  have houtputs := hfirst d hd (by decide +kernel)
  rw [hkeys] at houtputs
  refine ⟨hfragments, hshadowed, (hrendered _ hrender).2, ⟨d, hd, houtputs⟩, hrestated _ ?_,
    hrefused _ (List.mem_cons_of_mem _ List.mem_cons_self) _ _ List.mem_cons_self _
    List.mem_cons_self (.inl ⟨_, rfl⟩)⟩
  have happ : Lists (.mapping app) ["/a:/b", "8080:true"] :=
    .pairs (.cons ⟨"/a", "/b", rfl, rfl, rfl⟩ (.cons ⟨"8080", "true", rfl, rfl, rfl⟩ .nil))
  have hlog : Lists (.sequence [.tagged "!t" (number 1), .string "z"]) ["1", "z"] :=
    .items (.cons rfl (.cons rfl .nil))
  have hdb : Lists (.sequence [.string "/x:/y"]) ["/x:/y"] := lists_strings ["/x:/y"]
  have hempty : Lists (.sequence []) [] := lists_strings []
  exact .cons (.cons ⟨rfl, .inr ⟨_, happ, lists_strings _⟩⟩
    (.cons ⟨rfl, .inr ⟨_, .null, hempty⟩⟩ .nil))
    (.cons (.cons ⟨rfl, .inr ⟨_, .text _, hdb⟩⟩ (.cons ⟨rfl, .inr ⟨_, hlog, lists_strings _⟩⟩
      (.cons ⟨rfl, .inr ⟨_, hempty, .null⟩⟩ .nil))) .nil)

end Context

end ComposePods

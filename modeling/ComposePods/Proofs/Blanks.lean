import ComposePods.Proofs.Provenance

/-!
# Definitions without a body

A root key without a body, which is null, defines a service without properties, as an empty mapping
does. It is not always an empty mapping to the fragments that come later: a mapping is extended by
them, a null is not. So the two do the same except for the first body under a name, where a null
keeps out all that comes later.

* `Mapping.emptied`: the entries of a key with empty bodies;
* `Mapping.Silent`: entries of a key that extend nothing;
* `Mapping.merge_null_of_contains`, **`Mapping.merge_null_of_new`**: a null that is merged;
* `Context.podOf`, `Context.mainOf`, `Context.componentTexts`: what a layer makes of fragments;
* **`Context.null_bodies`**: what a layer makes of a null.
-/

namespace ComposePods

/-! ## Nulls that are merged -/

theorem Value.same_congr_left {k l : Value} (h : k.same l = true) (a : Value) :
    k.same a = l.same a := by
  rw [same_comm k a, same_comm l a]
  exact same_congr_right h a

namespace Mapping

variable {k l : Value} {base m : Mapping} {es : List (Value × Value)}

/-- The entries of a key with empty bodies. -/
def emptied (k : Value) (m : Mapping) : Mapping :=
  m.map fun e => if e.1.same k then (e.1, .mapping []) else e

/-- No entry of a key extends a definition: its body is an empty mapping or no mapping. -/
def Silent (k : Value) (es : List (Value × Value)) : Prop :=
  ∀ e ∈ es, e.1.same k = true → ∀ body, e.2 = .mapping body → body = []

theorem emptied_cons_self (h : l.same k = true) (v : Value) (m : Mapping) :
    emptied k ((l, v) :: m) = (l, .mapping []) :: emptied k m := by
  simp [emptied, h]

theorem emptied_cons_of_ne (h : l.same k = false) (v : Value) (m : Mapping) :
    emptied k ((l, v) :: m) = (l, v) :: emptied k m := by
  simp [emptied, h]

theorem emptied_of_not_contains (h : contains m k = false) : emptied k m = m := by
  have hnone : get? m k = none := by simpa [contains] using h
  refine (List.map_congr_left fun e he => ?_).trans (List.map_id m)
  rw [get?_eq_none_iff.1 hnone e he]
  rfl

theorem get?_emptied_of_ne (h : l.same k = false) (m : Mapping) :
    get? (emptied k m) l = get? m l := by
  induction m with
  | nil => rfl
  | cons e m ih =>
    obtain ⟨a, v⟩ := e
    rcases hak : a.same k
    · rw [emptied_cons_of_ne hak, get?, get?, ih]
    · have hal : a.same l = false := by rw [Value.same_congr_left hak, Value.same_comm, h]
      rw [emptied_cons_self hak, get?, get?, hal, ih]
      rfl

theorem emptied_insert_of_ne (h : l.same k = false) (v : Value) (m : Mapping) :
    emptied k (insert m l v) = insert (emptied k m) l v := by
  induction m with
  | nil => simp [insert, emptied, h]
  | cons e m ih =>
    obtain ⟨a, w⟩ := e
    rcases hak : a.same k
    · rw [emptied_cons_of_ne hak, insert, insert]
      split
      · exact emptied_cons_of_ne hak v m
      · rw [emptied_cons_of_ne hak, ih]
    · have hal : ¬ a.same l = true := by
        rw [Value.same_congr_left hak, Value.same_comm, h]; exact Bool.false_ne_true
      rw [emptied_cons_self hak, insert, insert, if_neg hal, if_neg hal, emptied_cons_self hak, ih]

theorem insert_emptied (hm : Distinct m) (v : Value) : insert (emptied k m) k v = insert m k v := by
  induction m with
  | nil => rfl
  | cons e m ih =>
    obtain ⟨a, w⟩ := e
    obtain ⟨hnew, hm⟩ := List.pairwise_cons.1 hm
    rcases hak : a.same k
    · have hne : ¬ a.same k = true := by rw [hak]; exact Bool.false_ne_true
      rw [emptied_cons_of_ne hak, insert, insert, if_neg hne, if_neg hne, ih hm]
    · have hrest : contains m k = false := by
        rw [contains, ← get?_congr m hak, get?_eq_none_of_new hnew]
        rfl
      rw [emptied_cons_self hak, insert, insert, if_pos hak, if_pos hak,
        emptied_of_not_contains hrest]

theorem emptied_adjust_of_ne (h : l.same k = false) (f : Value → Value) (m : Mapping) :
    emptied k (adjust f m l) = adjust f (emptied k m) l := by
  induction m with
  | nil => rfl
  | cons e m ih =>
    obtain ⟨a, w⟩ := e
    rcases hak : a.same k
    · rw [emptied_cons_of_ne hak, adjust, adjust]
      split
      · exact emptied_cons_of_ne hak _ m
      · rw [emptied_cons_of_ne hak, ih]
    · have hal : ¬ a.same l = true := by
        rw [Value.same_congr_left hak, Value.same_comm, h]; exact Bool.false_ne_true
      rw [emptied_cons_self hak, adjust, adjust, if_neg hal, if_neg hal, emptied_cons_self hak, ih]

theorem get?_emptied_self (m : Mapping) (h : l.same k = true) :
    get? (emptied k m) l = (get? m l).map fun _ => .mapping [] := by
  induction m with
  | nil => rfl
  | cons e m ih =>
    obtain ⟨a, w⟩ := e
    rcases hak : a.same k
    · have hal : ¬ a.same l = true := by rw [Value.same_congr_right h, hak]; exact nofun
      rw [emptied_cons_of_ne hak, get?, get?, if_neg hal, if_neg hal, ih]
    · have hal : a.same l = true := by rw [Value.same_congr_right h, hak]
      rw [emptied_cons_self hak, get?, get?, if_pos hal, if_pos hal]
      rfl

theorem mergeValue_some_null (v : Value) : mergeValue (some .null) v = .null := by
  cases v <;> rfl

theorem mergeValue_of_silent {body : Mapping} {v : Value} (h : ∀ m, v = .mapping m → m = []) :
    mergeValue (some (.mapping body)) v = .mapping body := by
  cases v with
  | mapping m =>
    obtain rfl := h m rfl
    rfl
  | null | bool | number | string | sequence | tagged => rfl

/-- **Where there is something already**, null and the empty mapping change nothing. -/
theorem merge_null_of_contains (h : contains base k = true) (es : List (Value × Value)) :
    merge base ((k, .null) :: es) = merge base ((k, .mapping []) :: es) := by
  obtain ⟨old, hold⟩ := Option.isSome_iff_exists.1 h
  have hmerge : mergeValue (some old) (.mapping []) = mergeValue (some old) .null := by
    cases old <;> rfl
  rw [merge, merge, hold]
  simp only [hmerge]

theorem merge_of_get?_null (h : get? base k = some .null) (es : List (Value × Value)) :
    merge (emptied k base) (emptied k es) = emptied k (merge base es) ∧
    get? (merge base es) k = some .null := by
  induction es generalizing base with
  | nil => exact ⟨rfl, h⟩
  | cons e es ih =>
    obtain ⟨l, v⟩ := e
    rcases hlk : l.same k
    · rw [emptied_cons_of_ne hlk, merge, merge, get?_emptied_of_ne hlk]
      split
      · rw [← emptied_adjust_of_ne hlk]
        exact ih (by rw [get?_adjust, hlk]; exact h)
      · rw [← emptied_insert_of_ne hlk]
        exact ih (by rw [get?_insert, hlk]; exact h)
    · have hl : get? base l = some .null := (get?_congr base hlk).trans h
      have hemptied : get? (emptied k base) l = some (.mapping []) := by
        rw [get?_emptied_self base hlk, hl]; rfl
      rw [emptied_cons_self hlk, merge, merge, hl, hemptied]
      simp only [mergeValue_some_null,
        mergeValue_of_silent fun m (h : Value.mapping [] = .mapping m) =>
        (Value.mapping.inj h).symm]
      rw [adjust_of_get? hl, adjust_of_get? hemptied]
      exact ih h

/-- **Where there is nothing yet**, a null is an empty mapping that keeps out the entries behind
it. -/
theorem merge_null_of_new (h : contains base k = false) (es : List (Value × Value)) :
    merge base ((k, .mapping []) :: emptied k es) = emptied k (merge base ((k, .null) :: es)) ∧
      get? (merge base ((k, .null) :: es)) k = some .null := by
  have hnone : get? base k = none := by simpa [contains] using h
  have hbase := emptied_of_not_contains h
  have hinsert : insert base k (.mapping []) = emptied k (insert base k .null) := by
    rw [insert_of_not_contains h, insert_of_not_contains h, emptied,
      List.map_append, ← emptied, hbase]
    simp
  have hempty : mergeValue none (.mapping []) = .mapping [] := rfl
  have hnull : mergeValue none .null = .null := rfl
  rw [merge, merge, hnone]
  simp only [hempty, hnull, hinsert]
  exact merge_of_get?_null (get?_insert_self base k .null) es

theorem merge_emptied_of_silent {body : Mapping} (h : get? base k = some (.mapping body))
    (hes : Silent k es) : merge base (emptied k es) = merge base es := by
  induction es generalizing base with
  | nil => rfl
  | cons e es ih =>
    obtain ⟨l, v⟩ := e
    obtain ⟨hv, hes⟩ := List.forall_mem_cons.1 hes
    rcases hlk : l.same k
    · rw [emptied_cons_of_ne hlk, merge, merge]
      split
      · exact ih (by rw [get?_adjust, hlk]; exact h) hes
      · exact ih (by rw [get?_insert, hlk]; exact h) hes
    · have hl : get? base l = some (.mapping body) := (get?_congr base hlk).trans h
      rw [emptied_cons_self hlk, merge, merge, hl]
      simp only [mergeValue_of_silent (hv hlk),
        mergeValue_of_silent fun m (h : Value.mapping [] = .mapping m) =>
        (Value.mapping.inj h).symm]
      rw [adjust_of_get? hl]
      exact ih h hes

theorem merge_cons_emptied (h : contains base k = false) (hes : Silent k es) :
    merge base ((k, .mapping []) :: emptied k es) = merge base ((k, .mapping []) :: es) := by
  have hnone : get? base k = none := by simpa [contains] using h
  rw [merge, merge, hnone]
  exact merge_emptied_of_silent (get?_insert_self base k _) hes

/-! ### Nulls in fragments -/

section Fragments

variable (before after : List Mapping) (pre post : Mapping) (k : Value)

/-- Fragments with a value for a root key in one of them. -/
def withBody (v : Value) : List Mapping := before ++ (pre ++ (k, v) :: post) :: after

theorem mergeAll_withBody (v : Value) :
    mergeAll (withBody before after pre post k v) =
      merge (merge [] (before.flatten ++ pre)) ((k, v) :: (post ++ after.flatten)) := by
  rw [mergeAll_eq_merge_flatten, ← merge_append]
  simp [withBody]

variable {before after pre post k}

theorem contains_merge_nil (es : List (Value × Value)) :
    contains (merge [] es) k = contains es k := by
  rw [contains_merge]
  rfl

theorem mergeAll_null_of_contains (h : contains (before.flatten ++ pre) k = true) :
    mergeAll (withBody before after pre post k .null) =
      mergeAll (withBody before after pre post k (.mapping [])) := by
  rw [mergeAll_withBody, mergeAll_withBody, merge_null_of_contains (by rw [contains_merge_nil, h])]

theorem emptied_append_flatten (k : Value) (post : Mapping) (after : List Mapping) :
    emptied k post ++ (after.map (emptied k)).flatten = emptied k (post ++ after.flatten) := by
  rw [emptied, emptied, List.map_append, List.map_flatten]
  rfl

theorem mergeAll_null_of_new (h : contains (before.flatten ++ pre) k = false) :
    mergeAll (withBody before (after.map (emptied k)) pre (emptied k post) k (.mapping [])) =
        emptied k (mergeAll (withBody before after pre post k .null)) ∧
      get? (mergeAll (withBody before after pre post k .null)) k = some .null := by
  rw [mergeAll_withBody, mergeAll_withBody, emptied_append_flatten]
  exact merge_null_of_new (by rw [contains_merge_nil, h]) _

/-- An outcome is the same for a null and for an empty mapping. -/
def IsBlind {β : Type} (k : Value) (outcome : Mapping → β) : Prop :=
  ∀ tree, Distinct tree → get? tree k = some .null → outcome (emptied k tree) = outcome tree

variable {β : Type} {outcome : Mapping → β}

theorem IsBlind.null_of_new (hblind : IsBlind k outcome)
    (h : contains (before.flatten ++ pre) k = false) :
    outcome (mergeAll (withBody before after pre post k .null)) =
      outcome (mergeAll (withBody before (after.map (emptied k)) pre (emptied k post) k
        (.mapping []))) := by
  rw [(mergeAll_null_of_new h).1, hblind _ (distinct_mergeAll _) (mergeAll_null_of_new h).2]

/-- **A null is an empty mapping** if something comes before it, or nothing to be merged comes after
it. -/
theorem IsBlind.null_eq (hblind : IsBlind k outcome)
    (h : contains (before.flatten ++ pre) k = true ∨ Silent k (post ++ after.flatten)) :
    outcome (mergeAll (withBody before after pre post k .null)) =
      outcome (mergeAll (withBody before after pre post k (.mapping []))) := by
  rcases hbefore : contains (before.flatten ++ pre) k
  · have hsilent : Silent k (post ++ after.flatten) := by simpa [hbefore] using h
    rw [hblind.null_of_new hbefore, mergeAll_withBody, mergeAll_withBody, emptied_append_flatten,
      merge_cons_emptied (by rw [contains_merge_nil, hbefore]) hsilent]
  · rw [mergeAll_null_of_contains hbefore]

end Fragments

end Mapping

/-! ## What a layer makes of fragments -/

open Mapping

theorem Definitions.isBlind_ofTree (directory service : String) (layer : Layer) (k : Value) :
    IsBlind k (ofTree directory service layer) := by
  intro tree htree hnull
  rw [ofTree, ofTree, emptied, List.mapM_map]
  congr 1
  refine mapM_congr fun e he => ?_
  obtain ⟨l, v⟩ := e
  rw [Function.comp_apply]
  split
  · rename_i hl
    obtain rfl : v = .null :=
      Option.some.inj (((get?_eq_some_iff htree).2 ⟨l, he, hl⟩).symm.trans hnull)
    rfl
  · rfl

theorem Fragment.isBlind_carryOver (root : String) (given : Mapping) (keySet : KeySet) :
    IsBlind (.string root) fun tree => carryOver tree root given keySet := by
  intro tree htree hnull
  have hemptied : get? (emptied (.string root) tree) (.string root) = some (.mapping []) := by
    rw [get?_emptied_self tree (Value.same_self _), hnull]
    rfl
  simp only [carryOver, hnull, hemptied, insert_emptied htree]

namespace Context

open Controller

variable (c : Context) (settings : Settings)

/-- The root keys of some fragments of a layer, each of which must have one. -/
def rootKeys (layer : Layer) (fragments : List Mapping) : Except Failure (List String) :=
  fragments.mapM fun f => report (Fragment.rootKey f c.service.name layer)

/-- The controller without the labels of its components, as some fragments define it. -/
def podOf (fragments : List Mapping) : Except Failure Service := do
  let _ ← c.rootKeys .pod fragments
  report do
    single c.service.name .pod
      (← c.definitions .pod (podTree settings c.service.name c.definition fragments))

/-- The name of the main component and its text, as some fragments define it. -/
def mainOf (fragments : List Mapping) : Except Failure (String × String) := do
  let keys ← c.rootKeys .transformer fragments
  report do
    let component ← single c.service.name .transformer
      (← c.definitions .transformer (mainTree (keys.head?.getD "") c.definition fragments))
    return (component.name, ← serviceText component)

variable {c settings}

theorem length_of_rootKeys {layer : Layer} {fragments : List Mapping} {keys : List String}
    (h : c.rootKeys layer fragments = .ok keys) : keys.length = fragments.length :=
  (mapM_ok_iff.1 h).length_eq.symm

section

variable [Markup.Machine]

theorem mapM_renderRooted_eq {layer : Layer} {ts : List Template} {fragments : List Mapping}
    (h : ts.mapM (c.render layer) = .ok fragments) :
    ts.mapM (c.renderRooted layer) = c.rootKeys layer fragments >>= fun keys =>
    pure (keys.zip fragments) := by
  rw [mapM_renderRooted h, rootKeys]
  clear h
  induction fragments with
  | nil => rfl
  | cons f fs ih =>
    rw [List.mapM_cons, List.mapM_cons, ih]
    simp only [bind_assoc, pure_bind, List.zip_cons_cons]

theorem podStage_of_rendered {fragments : List Mapping}
    (h : c.templates.pod.mapM (c.render .pod) = .ok fragments) :
    c.podStage settings = c.podOf settings fragments := by
  rw [podStage, mapM_renderRooted_eq h, podOf]
  rcases hkeys : c.rootKeys .pod fragments with e | keys
  · rfl
  · have hsnd : (keys.zip fragments).map (·.2) = fragments :=
      List.map_snd_zip (Nat.le_of_eq (length_of_rootKeys hkeys).symm)
    change (report do
      single _ .pod (← c.definitions .pod (podTree _ _ _ ((keys.zip fragments).map (·.2))))) = _
    rw [hsnd]
    rfl

theorem mainStage_of_rendered {fragments : List Mapping}
    (h : (transformersOf c.templates).mapM (c.render .transformer) = .ok fragments) :
    c.mainStage = c.mainOf fragments := by
  rw [mainStage, mapM_renderRooted_eq h, mainOf]
  rcases hkeys : c.rootKeys .transformer fragments with e | keys
  · rfl
  · have hlength := length_of_rootKeys hkeys
    have hsnd : (keys.zip fragments).map (·.2) = fragments :=
      List.map_snd_zip (Nat.le_of_eq hlength.symm)
    have hhead : (keys.zip fragments).head?.map (·.1) = keys.head? := by
      cases keys <;> cases fragments <;> simp_all
    change (report do
      let component ← single _ .transformer (← c.definitions .transformer
        (mainTree (((keys.zip fragments).head?.map (·.1)).getD "") _
          ((keys.zip fragments).map (·.2))))
      return (component.name, ← serviceText component)) = _
    rw [hsnd, hhead]
    rfl

theorem componentStage_of_rendered {fragments : List Mapping}
    (h : c.templates.component.mapM (c.render .component) = .ok fragments) :
    c.componentStage = report (c.componentTexts fragments) := by
  rw [componentStage, h]
  rfl

end

/-! ### Root keys -/

variable {before after : List Mapping} {pre post : Mapping} {k : Value} {layer : Layer}

theorem rootKey_congr {f f' : Mapping} (h : keys f = keys f') (service : String) :
    Fragment.rootKey f service layer = Fragment.rootKey f' service layer := by
  match f, f', h with
  | [], [], _ => rfl
  | [(_, _)], [(_, _)], h =>
    obtain rfl : _ = _ := (List.cons.inj h).1
    rfl
  | _ :: _ :: _, _ :: _ :: _, h =>
    have hlength := congrArg List.length h
    simp only [keys, List.length_map] at hlength
    simp only [Fragment.rootKey, hlength]

theorem rootKeys_cons (f : Mapping) (fs : List Mapping) :
    c.rootKeys layer (f :: fs) = report (Fragment.rootKey f c.service.name layer) >>= fun name =>
      c.rootKeys layer fs >>= fun names => pure (name :: names) := List.mapM_cons

theorem rootKeys_congr {fs fs' : List Mapping} (h : fs.map keys = fs'.map keys) :
    c.rootKeys layer fs = c.rootKeys layer fs' := by
  induction fs generalizing fs' with
  | nil =>
    obtain rfl := List.map_eq_nil_iff.1 h.symm
    rfl
  | cons f fs ih =>
    cases fs' with
    | nil => cases h
    | cons f' fs' =>
      obtain ⟨hf, hfs⟩ := List.cons.inj h
      rw [rootKeys_cons, rootKeys_cons, rootKey_congr hf, ih hfs]

theorem exists_entry_of_rootKeys {fragments : List Mapping} {names : List String}
    (h : c.rootKeys layer fragments = .ok names) : ∀ f ∈ fragments, ∃ e, f = [e] := by
  intro f hf
  obtain ⟨name, hname⟩ := exists_ok_of_mapM_ok h f hf
  rw [report, mapError_ok_iff] at hname
  rcases f with _ | ⟨e, _ | ⟨e', f⟩⟩
  · cases hname
  · exact ⟨e, rfl⟩
  · cases hname

end Context

/-! ### Layers whose fragments are renamed -/

namespace Fragment

variable {root : String} {given : Mapping} {keySet : KeySet} {before after : List Mapping}
    {k : Value}

/-- The definition that fragments are merged to, filled up from a given one. -/
def filled (root : String) (given : Mapping) (keySet : KeySet) (fragments : List Mapping) :
    Mapping :=
  carryOver (mergeAll (fragments.map (renameRoot · root))) root given keySet

/-- A fragment with empty bodies. -/
def hollow (f : Mapping) : Mapping := f.map fun e => (e.1, .mapping [])

theorem keys_hollow (f : Mapping) : keys (hollow f) = keys f := by
  rw [keys, keys, hollow, List.map_map]
  rfl

theorem renameRoot_hollow (f : Mapping) (root : String) :
    renameRoot (hollow f) root = emptied (.string root) (renameRoot f root) := by
  cases f with
  | nil => rfl
  | cons e f =>
    rw [hollow, List.map_cons, renameRoot, renameRoot, emptied_cons_self (Value.same_self _)]
    rfl

theorem map_renameRoot_withBody (before after : List Mapping) (k v : Value) (root : String) :
    (withBody before after [] [] k v).map (renameRoot · root) =
      withBody (before.map (renameRoot · root)) (after.map (renameRoot · root)) [] []
        (.string root) v := by
  simp [withBody, renameRoot]

theorem filled_null_eq (hbefore : ∀ f ∈ before, f ≠ [])
    (h : before ≠ [] ∨ ∀ f ∈ after, ∀ e ∈ f, ∀ body, e.2 = .mapping body → body = []) :
    filled root given keySet (withBody before after [] [] k .null) =
      filled root given keySet (withBody before after [] [] k (.mapping [])) := by
  rw [filled, filled, map_renameRoot_withBody, map_renameRoot_withBody]
  refine (isBlind_carryOver root given keySet).null_eq (h.imp (fun hne => ?_) fun hsilent => ?_)
  · obtain ⟨f, before, rfl⟩ := List.exists_cons_of_ne_nil hne
    obtain ⟨e, f, rfl⟩ := List.exists_cons_of_ne_nil (hbefore f List.mem_cons_self)
    rw [contains_iff]
    exact ⟨(.string root, e.2), by simp [renameRoot], Value.same_self _⟩
  · intro e he _
    obtain ⟨g, hg, he⟩ := List.mem_flatten.1 he
    obtain ⟨f, hf, rfl⟩ := List.mem_map.1 hg
    cases f with
    | nil => cases he
    | cons e' f =>
      obtain rfl := List.mem_singleton.1 he
      exact hsilent _ hf e' List.mem_cons_self

theorem filled_null_first :
    filled root given keySet (withBody [] after [] [] k .null) =
      filled root given keySet (withBody [] (after.map hollow) [] [] k (.mapping [])) := by
  rw [filled, filled, map_renameRoot_withBody, map_renameRoot_withBody, List.map_map]
  have hhollow : (after.map ((renameRoot · root) ∘ hollow)) =
      (after.map (renameRoot · root)).map (emptied (.string root)) := by
    rw [List.map_map]
    exact List.map_congr_left fun f _ => renameRoot_hollow f root
  rw [hhollow]
  exact (isBlind_carryOver root given keySet).null_of_new rfl

end Fragment

namespace Context

open Controller Fragment

variable {c : Context} {settings : Settings} {before after : List Mapping} {pre post : Mapping}
    {k : Value}

theorem podOf_congr {fs fs' : List Mapping} (hkeys : fs.map keys = fs'.map keys)
    (h : ∀ names, c.rootKeys .pod fs = .ok names →
      filled c.service.name c.definition .pod fs = filled c.service.name c.definition .pod fs') :
    c.podOf settings fs = c.podOf settings fs' := by
  rw [podOf, podOf, ← rootKeys_congr hkeys]
  rcases hnames : c.rootKeys .pod fs with e | names
  · rfl
  · have htree : podTree settings c.service.name c.definition fs =
        podTree settings c.service.name c.definition fs' :=
        congrArg (Mapping.merge · _) (h names hnames)
    rw [htree]

theorem mainOf_congr {fs fs' : List Mapping} (hkeys : fs.map keys = fs'.map keys)
    (h : ∀ names root, c.rootKeys .transformer fs = .ok names →
      filled root c.definition .transformer fs = filled root c.definition .transformer fs') :
    c.mainOf fs = c.mainOf fs' := by
  rw [mainOf, mainOf, ← rootKeys_congr hkeys]
  rcases hnames : c.rootKeys .transformer fs with e | names
  · rfl
  · have htree (root : String) : mainTree root c.definition fs = mainTree root c.definition fs' :=
      h names root hnames
    simp only [htree]

theorem entries_of_rootKeys {layer : Layer} {names : List String} {v : Value}
    (h : c.rootKeys layer (withBody before after pre post k v) = .ok names) :
    pre = [] ∧ post = [] ∧ ∀ f ∈ before, f ≠ [] := by
  have hentries := exists_entry_of_rootKeys h
  obtain ⟨e, he⟩ := hentries _ (List.mem_append_right _ List.mem_cons_self)
  refine ⟨?_, ?_, fun f hf hnil => ?_⟩
  · cases pre with
    | nil => rfl
    | cons e' pre => simp at he
  · cases post with
    | nil => rfl
    | cons e' post =>
      have hlength := congrArg List.length he
      simp only [List.length_append, List.length_cons, List.length_nil] at hlength
      omega
  · obtain ⟨e', he'⟩ := hentries f (List.mem_append_left _ hf)
    rw [hnil] at he'
    cases he'

theorem map_keys_withBody (v : Value) :
    (withBody before after pre post k v).map keys =
      before.map keys ++ (keys pre ++ k :: keys post) :: after.map keys := by
  simp [withBody, keys]

/-- **What a layer makes of a null.** What the first three layers give is made of the fragments that
their templates are rendered to. There a null under a root key does the same as an empty mapping
there if its name has been given before it, or if nothing that comes later can be merged under the
name. The first null of a name does what an empty mapping would do if all bodies that come later
under the name were empty: it is an empty definition which they cannot extend. In the first two
layers the fragments all come under one name. -/
theorem null_bodies [Markup.Machine] (c : Context) (settings : Settings)
    (before after : List Mapping) (pre post : Mapping) (k : Value) :
    (∀ fragments, c.templates.pod.mapM (c.render .pod) = .ok fragments →
        c.podStage settings = c.podOf settings fragments) ∧
      (∀ fragments, (transformersOf c.templates).mapM (c.render .transformer) = .ok fragments →
        c.mainStage = c.mainOf fragments) ∧
      (∀ fragments, c.templates.component.mapM (c.render .component) = .ok fragments →
        c.componentStage = report (c.componentTexts fragments)) ∧
      ((contains (before.flatten ++ pre) k = true ∨ Silent k (post ++ after.flatten)) →
        c.componentTexts (withBody before after pre post k .null) =
          c.componentTexts (withBody before after pre post k (.mapping []))) ∧
      (contains (before.flatten ++ pre) k = false →
        c.componentTexts (withBody before after pre post k .null) =
          c.componentTexts (withBody before (after.map (emptied k)) pre (emptied k post) k
            (.mapping []))) ∧
      ((before ≠ [] ∨ ∀ f ∈ after, ∀ e ∈ f, ∀ body, e.2 = .mapping body → body = []) →
        c.podOf settings (withBody before after pre post k .null) =
            c.podOf settings (withBody before after pre post k (.mapping [])) ∧
          c.mainOf (withBody before after pre post k .null) =
            c.mainOf (withBody before after pre post k (.mapping []))) ∧
      c.podOf settings (withBody [] after pre post k .null) =
        c.podOf settings (withBody [] (after.map hollow) pre post k (.mapping [])) ∧
      c.mainOf (withBody [] after pre post k .null) =
        c.mainOf (withBody [] (after.map hollow) pre post k (.mapping [])) := by
  have htexts : IsBlind k fun tree => (do
      let components ← c.definitions .component tree
      return Dict.ofList (← components.mapM componentEntry) : Except PodError (Dict String)) := by
    intro tree htree hnull
    simp only [definitions, Definitions.isBlind_ofTree c.directory c.service.name .component k
      tree htree hnull]
  have hkeys : (withBody before after pre post k .null).map keys =
      (withBody before after pre post k (.mapping [])).map keys := by
    rw [map_keys_withBody, map_keys_withBody]
  have hhollow : (withBody [] after pre post k .null).map keys =
      (withBody [] (after.map hollow) pre post k (.mapping [])).map keys := by
    rw [map_keys_withBody, map_keys_withBody, List.map_map]
    congr 2
    exact List.map_congr_left fun f _ => (keys_hollow f).symm
  refine ⟨fun _ => podStage_of_rendered, fun _ => mainStage_of_rendered, fun _ =>
    componentStage_of_rendered, htexts.null_eq, htexts.null_of_new, fun h => ⟨?_, ?_⟩, ?_, ?_⟩
  · refine podOf_congr hkeys fun names hnames => ?_
    obtain ⟨rfl, rfl, hbefore⟩ := entries_of_rootKeys hnames
    exact filled_null_eq hbefore h
  · refine mainOf_congr hkeys fun names root hnames => ?_
    obtain ⟨rfl, rfl, hbefore⟩ := entries_of_rootKeys hnames
    exact filled_null_eq hbefore h
  · refine podOf_congr hhollow fun names hnames => ?_
    obtain ⟨rfl, rfl, -⟩ := entries_of_rootKeys hnames
    exact filled_null_first
  · refine mainOf_congr hhollow fun names root hnames => ?_
    obtain ⟨rfl, rfl, -⟩ := entries_of_rootKeys hnames
    exact filled_null_first

/-- A null that comes first keeps out the image that comes after it, in all three layers; a null
that comes after the image does not. -/
theorem null_bodies_image :
    let web : Service := Service.empty "web"
    let c : Context := ⟨web, [web], "/work", .empty⟩
    let image : Value := .mapping [(.string "image", .string "a")]
    let later : List Mapping := [[(.string "log", image)]]
    c.componentTexts (withBody later [] [] [] (.string "log") .null) =
        c.componentTexts (withBody later [] [] [] (.string "log") (.mapping [])) ∧
      c.componentTexts (withBody [] later [] [] (.string "log") .null) =
        c.componentTexts (withBody [] [[(.string "log", .mapping [])]] [] [] (.string "log")
          (.mapping [])) ∧
      c.podOf .standard (withBody later [] [] [] (.string "log") .null) =
        c.podOf .standard (withBody later [] [] [] (.string "log") (.mapping [])) := by
  intro web c image later
  obtain ⟨-, -, -, hsame, -, hrooted, -⟩ :=
    null_bodies c .standard later [] [] [] (.string "log")
  obtain ⟨-, -, -, -, hfirst, -⟩ := null_bodies c .standard [] later [] [] (.string "log")
  exact ⟨hsame (.inl (by decide +kernel)), hfirst (by decide +kernel), (hrooted (.inl nofun)).1⟩

/-- In every layer a first template without a body discards what the second one has. -/
theorem null_discards :
    let web : Service := Service.empty "web"
    let bare : List Template := [⟨"first", "log:", []⟩, ⟨"second", "log: \x7bimage: a\x7d", []⟩]
    let empty : List Template :=
      [⟨"first", "log: \x7b\x7d", []⟩, ⟨"second", "log: \x7bimage: a\x7d", []⟩]
    let c (t : List Template) : Context := ⟨web, [web], "/work", ⟨t, t, t, [], []⟩⟩
    (c bare).templates.component.mapM ((c bare).render .component) =
        .ok [[(.string "log", .null)],
          [(.string "log", .mapping [(.string "image", .string "a")])]] ∧
      (c empty).templates.component.mapM ((c empty).render .component) =
        .ok [[(.string "log", .mapping [])],
          [(.string "log", .mapping [(.string "image", .string "a")])]] ∧
      ((c bare).componentStage.toOption.map (·.entries) = some [("log", "\x7b\x7d\n")] ∧
        (c empty).componentStage.toOption.map (·.entries) = some [("log", "image: a\n")]) ∧
      ((c bare).mainStage = .ok ("log", "\x7b\x7d\n") ∧
        (c empty).mainStage = .ok ("log", "image: a\n")) ∧
      ((c bare).podStage .standard).toOption.map (fun s => (s.value .image : Option String)) =
        some (some "rycus86/podlike") ∧
      ((c empty).podStage .standard).toOption.map (fun s => (s.value .image : Option String)) =
        some (some "a") := by
  decide +kernel

end Context

end ComposePods

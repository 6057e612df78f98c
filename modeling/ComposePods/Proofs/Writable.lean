import ComposePods.Proofs.Commuting
import ComposePods.Proofs.Fragments

/-!
# Values that can be written

A value with texts for keys can be written unless a tag stands right under a tag. A part of a text
has at most one tag, so no value of a text is such; and most properties have no tags at all.

* `Value.StacksTags`: a tag right under a tag;
* **`Yaml.isWritable_of_presentable`**: what can be shown to templates can be written;
* `Node.not_stacksTags_of_value`: a value of a text has no tag right under a tag;
* `Kind.hasTag_write`, **`Kind.not_stacksTags_of_read`**: properties that are read from a text;
* **`Property.isWritable_locate`**: host paths may be resolved.
-/

namespace ComposePods

/-! ## Tags under tags -/

namespace Value

/-- A tag stands right under a tag, somewhere in the value and in no key. -/
inductive StacksTags : Value → Prop where
  | here (t u : String) (v : Value) : StacksTags (.tagged t (.tagged u v))
  | item {vs : List Value} {v : Value} (hv : v ∈ vs) (h : StacksTags v) : StacksTags (.sequence vs)
  | entry {es : Mapping} {k v : Value} (he : (k, v) ∈ es) (h : StacksTags v) :
      StacksTags (.mapping es)
  | under (t : String) {v : Value} (h : StacksTags v) : StacksTags (.tagged t v)

theorem hasTag_of_stacksTags {v : Value} (h : v.StacksTags) : v.hasTag = true := by
  induction h with
  | here | under => rfl
  | item hv _ ih =>
    rw [hasTag, hasTagItems_iff]
    exact ⟨_, hv, ih⟩
  | entry he _ ih =>
    rw [hasTag, hasTagEntries_iff]
    exact ⟨_, he, .inr ih⟩

end Value

/-! ## Writing -/

namespace Yaml

variable {tagged : Bool} {vs : List Value} {es : Mapping} {k : Value}

theorem areWritable_iff : areWritable vs = true ↔ ∀ v ∈ vs, isWritable false v = true := by
  induction vs with
  | nil => simp [areWritable]
  | cons v vs ih => simp [areWritable, ih]

theorem isWritable_of_isTextKey (h : k.isTextKey = true) : isWritable tagged k = true := by
  cases k with
  | bool | number | string => rfl
  | null | sequence | mapping | tagged => cases h

theorem isAwkwardKey_of_isTextKey (h : k.isTextKey = true) : isAwkwardKey k = false := by
  cases k with
  | bool | number | string => rfl
  | null | sequence | mapping | tagged => cases h

theorem isWritable_mapping (tagged : Bool) (es : Mapping) :
    isWritable tagged (.mapping es) = (entriesWritable es &&
      match es with
      | [(k, _)] => tagged || !isAwkwardKey k
      | _ => true) := rfl

theorem isWritable_mapping_iff (hkeys : ∀ e ∈ es, e.1.isTextKey = true) :
    isWritable tagged (.mapping es) = true ↔ ∀ e ∈ es, isWritable false e.2 = true := by
  have hentries : entriesWritable es = true ↔ ∀ e ∈ es, isWritable false e.2 = true := by
    induction es with
    | nil => simp [entriesWritable]
    | cons e es ih =>
      obtain ⟨k, v⟩ := e
      rw [List.forall_mem_cons] at hkeys
      simp [entriesWritable, isWritable_of_isTextKey hkeys.1, ih hkeys.2]
  rw [isWritable_mapping, Bool.and_eq_true, hentries, and_iff_left_iff_imp]
  intro _
  split
  · rw [isAwkwardKey_of_isTextKey (hkeys _ List.mem_cons_self), Bool.not_false, Bool.or_true]
  · rfl

theorem isWritable_record_iff {fields : List (String × Option Value)} :
    isWritable tagged (.record fields) = true ↔
    ∀ f ∈ fields, ∀ v ∈ f.2, isWritable false v = true := by
  have hkeys : ∀ e ∈ fields.filterMap (fun f => f.2.map fun v => (Value.string f.1, v)),
      e.1.isTextKey = true := by
    intro e he
    obtain ⟨f, -, hf⟩ := List.mem_filterMap.1 he
    obtain ⟨v, -, rfl⟩ := Option.map_eq_some_iff.1 hf
    rfl
  rw [Value.record, isWritable_mapping_iff hkeys]
  constructor
  · intro h f hf v hv
    exact h (.string f.1, v) (List.mem_filterMap.2 ⟨f, hf, Option.map_eq_some_iff.2 ⟨v, hv, rfl⟩⟩)
  · intro h e he
    obtain ⟨f, hf, hfe⟩ := List.mem_filterMap.1 he
    obtain ⟨v, hv, rfl⟩ := Option.map_eq_some_iff.1 hfe
    exact h f hf v hv

theorem isWritable_listUnlessEmpty_iff {β : Type} {write : β → Value} {bs : List β} :
    (∀ w ∈ Value.listUnlessEmpty write bs, isWritable false w = true) ↔
      ∀ b ∈ bs, isWritable false (write b) = true := by
  rcases Value.listUnlessEmpty_cases write bs with ⟨hnone, rfl⟩ | hsome
  · simp [hnone]
  · simp [hsome, isWritable, areWritable_iff]

mutual

/-- **What templates can be shown can be written** if no tag stands right under another one. -/
theorem isWritable_of_presentable (tagged : Bool) : (v : Value) → v.Presentable → ¬ v.StacksTags →
    (tagged = true → v.shape ≠ .tagged) → isWritable tagged v = true
  | .null, _, _, _ | .bool _, _, _, _ | .number _, _, _, _ | .string _, _, _, _ => rfl
  | .sequence vs, hv, htags, _ => by
    rw [isWritable, areWritable_iff]
    exact items_writable vs (Value.presentable_sequence_iff.1 hv) fun v hmem h =>
      htags (.item hmem h)
  | .mapping es, hv, htags, _ => by
    have hes := Value.presentable_mapping_iff.1 hv
    rw [isWritable_mapping_iff fun e he => (hes e he).1]
    exact entries_writable es (fun e he => (hes e he).2) fun e he h => htags (.entry he h)
  | .tagged t v, hv, htags, hshape => by
    have hbare : v.shape ≠ .tagged := by
      cases v with
      | tagged u w => exact absurd (.here t u w) htags
      | null | bool | number | string | sequence | mapping => exact Shape.noConfusion
    have hfree : tagged = false := by
      cases tagged with
      | false => rfl
      | true => exact absurd rfl (hshape rfl)
    rw [isWritable, hfree]
    exact isWritable_of_presentable true v (Value.presentable_tagged_iff.1 hv)
      (fun h => htags (.under t h))
      fun _ => hbare

theorem items_writable : (vs : List Value) → (∀ v ∈ vs, v.Presentable) →
    (∀ v ∈ vs, ¬ v.StacksTags) →
    ∀ v ∈ vs, isWritable false v = true
  | [], _, _ => List.forall_mem_nil _
  | v :: vs, hvs, htags => by
    rw [List.forall_mem_cons] at hvs htags ⊢
    exact ⟨isWritable_of_presentable false v hvs.1 htags.1 Bool.noConfusion,
      items_writable vs hvs.2 htags.2⟩

theorem entries_writable :
    (es : Mapping) → (∀ e ∈ es, e.2.Presentable) → (∀ e ∈ es, ¬ e.2.StacksTags) →
    ∀ e ∈ es, isWritable false e.2 = true
  | [], _, _ => List.forall_mem_nil _
  | (k, v) :: es, hes, htags => by
    rw [List.forall_mem_cons] at hes htags ⊢
    exact ⟨isWritable_of_presentable false v hes.1 htags.1 Bool.noConfusion,
      entries_writable es hes.2 htags.2⟩

end

end Yaml

/-! ## Values of texts -/

namespace Node

variable {n : Node} {v : Value}

theorem shape_of_isScalar (h : IsScalar v) : v.shape ∉ [Shape.sequence, .mapping, .tagged] := by
  cases v with
  | null | bool | number | string => simp [Value.shape]
  | sequence | mapping | tagged => simp [IsScalar, Value.shape] at h

theorem bare_of_value {t : String} (h : n.value = .ok (.tagged t v)) :
    v.shape ≠ .tagged ∧ ∃ m : Node, m.value = .ok v := by
  have hunder {tag : Option String} {w : Value} (h : underTag tag w = .tagged t v)
    (hw : w.shape ≠ .tagged) :
      w = v := by
    unfold underTag at h
    split at h
    · exact (Value.tagged.inj h).2
    · rw [h] at hw
      exact absurd rfl hw
  cases n with
  | scalar tag form text =>
    unfold value at h
    split at h
    · simp only [bind_ok_iff, pure_ok_iff] at h
      obtain ⟨w, hw, heq⟩ := h
      obtain ⟨-, rfl⟩ := Value.tagged.inj heq
      have hshape := shape_of_isScalar (isScalar_of_bareValue hw)
      exact ⟨fun htagged => hshape (by simp [htagged]), .scalar none form text, hw⟩
    · exact absurd (by simp [Value.shape]) (shape_of_isScalar (isScalar_of_scalarValue h))
  | sequence tag items =>
    simp only [value, bind_ok_iff, pure_ok_iff] at h
    obtain ⟨vs, hvs, h⟩ := h
    obtain rfl := hunder h Shape.noConfusion
    exact ⟨Shape.noConfusion, .sequence none items, by simp [value, hvs, underTag, localTag?]⟩
  | mapping tag entries =>
    simp only [value, bind_ok_iff, pure_ok_iff] at h
    obtain ⟨m, hm, h⟩ := h
    obtain rfl := hunder h Shape.noConfusion
    exact ⟨Shape.noConfusion, .mapping none entries, by simp [value, hm, underTag, localTag?]⟩
  | absent | cut => cases h

theorem shape_of_scalar {tag : Option String} {form : ScalarForm} {text : String}
    (h : (Node.scalar tag form text).value = .ok v) : v.shape ∉ [Shape.sequence, .mapping] := by
  unfold value at h
  split at h
  · simp only [bind_ok_iff, pure_ok_iff] at h
    obtain ⟨w, -, rfl⟩ := h
    simp [Value.shape]
  · have hscalar := shape_of_isScalar (isScalar_of_scalarValue h)
    simp only [List.mem_cons, not_or] at hscalar ⊢
    exact ⟨hscalar.1, hscalar.2.1, List.not_mem_nil⟩

theorem items_of_value {vs : List Value} (h : n.value = .ok (.sequence vs)) :
    ∀ v ∈ vs, ∃ m : Node, m.value = .ok v := by
  cases n with
  | scalar tag form text => exact absurd (by simp [Value.shape]) (shape_of_scalar h)
  | sequence tag items =>
    simp only [value, bind_ok_iff, pure_ok_iff] at h
    obtain ⟨ws, hws, h⟩ := h
    cases eq_of_underTag h Shape.noConfusion
    intro v hv
    obtain ⟨m, -, hm⟩ := exists_right_of_forall₂ (forall₂_of_itemValues hws).flip v hv
    exact ⟨m, hm⟩
  | mapping tag entries =>
    simp only [value, bind_ok_iff, pure_ok_iff] at h
    obtain ⟨es, -, h⟩ := h
    cases eq_of_underTag h Shape.noConfusion
  | absent | cut => cases h

theorem entries_of_value {es : Mapping} (h : n.value = .ok (.mapping es)) :
    ∀ e ∈ es, ∃ m : Node, m.value = .ok e.2 := by
  cases n with
  | scalar tag form text => exact absurd (by simp [Value.shape]) (shape_of_scalar h)
  | sequence tag items =>
    simp only [value, bind_ok_iff, pure_ok_iff] at h
    obtain ⟨ws, -, h⟩ := h
    cases eq_of_underTag h Shape.noConfusion
  | mapping tag entries =>
    simp only [value, bind_ok_iff, pure_ok_iff] at h
    obtain ⟨fs, hfs, h⟩ := h
    cases eq_of_underTag h Shape.noConfusion
    obtain ⟨new, rfl, hnew⟩ := forall₂_of_entryValues hfs
    intro e he
    obtain ⟨y, -, -, hy⟩ := exists_right_of_forall₂ hnew.flip e he
    exact ⟨y.2, hy⟩
  | absent | cut => cases h

/-- **A part of a text has at most one tag**, so that no tag of its value stands right under another
one. -/
theorem not_stacksTags_of_value (h : n.value = .ok v) : ¬ v.StacksTags := by
  intro htags
  induction htags generalizing n with
  | here => exact (bare_of_value h).1 rfl
  | item hv _ ih =>
    obtain ⟨m, hm⟩ := items_of_value h _ hv
    exact ih hm
  | entry he _ ih =>
    obtain ⟨m, hm⟩ := entries_of_value h _ he
    exact ih hm
  | under t _ ih =>
    obtain ⟨-, m, hm⟩ := bare_of_value h
    exact ih hm

end Node

/-! ## Properties -/

theorem HealthCheck.hasTag_toValue (c : HealthCheck) : c.toValue.hasTag = false := by
  refine Value.hasTag_record ?_
  simp only [List.forall_mem_cons]
  exact ⟨Value.hasTag_map _ fun t _ => t.hasTag_toValue, Value.hasTag_map _ fun _ _ => rfl,
    Value.hasTag_map _ fun _ _ => rfl, Value.hasTag_map _ fun _ _ => rfl,
    Value.hasTag_map _ fun _ _ => rfl, Value.hasTag_map _ fun _ _ => rfl, nofun⟩

theorem Logging.hasTag_toValue (l : Logging) : l.toValue.hasTag = false := by
  refine Value.hasTag_record ?_
  simp only [List.forall_mem_cons]
  refine ⟨Value.hasTag_map _ fun _ _ => rfl, fun v hv => ?_, nofun⟩
  obtain rfl := Value.eq_of_unlessEmpty hv
  exact Value.hasTag_ofDict fun _ => rfl

namespace Kind

variable {k : Kind} {v : k.Carrier} {w : Value}

theorem hasTag_write (hk : k ≠ .mapping) (hv : k.Sound v) (hw : k.write v = some w) :
    w.hasTag = false := by
  have hlist {β : Type} {write : β → Value} {bs : List β} (hbs : ∀ b ∈ bs, (write b).hasTag = false)
      (hw : Value.listUnlessEmpty write bs = some w) : w.hasTag = false := by
    obtain rfl := Value.eq_of_listUnlessEmpty hw
    rw [Value.hasTag_sequence_eq_false, List.forall_mem_map]
    exact hbs
  have hdict {β : Type} {write : β → Value} {d : Dict β} (hwrite : ∀ b, (write b).hasTag = false)
      (hw : Value.unlessEmpty (Value.ofDict write) d = some w) : w.hasTag = false := by
    obtain rfl := Value.eq_of_unlessEmpty hw
    exact Value.hasTag_ofDict hwrite
  cases k with
  | mapping => exact absurd rfl hk
  | text | flag => exact Value.hasTag_map _ (fun _ _ => rfl) w hw
  | textOrList => exact Value.hasTag_map _ (fun t _ => t.hasTag_toValue) w hw
  | textOrNumber => exact Value.hasTag_map _ (fun t _ => t.hasTag_toValue) w hw
  | build => exact Value.hasTag_map _ (fun b _ => b.hasTag_toValue) w hw
  | healthCheck => exact Value.hasTag_map _ (fun c _ => c.hasTag_toValue) w hw
  | logging => exact Value.hasTag_map _ (fun l _ => l.hasTag_toValue) w hw
  | networks => exact Value.hasTag_map _ (fun n _ => n.hasTag_toValue) w hw
  | texts => exact hlist (fun _ _ => rfl) hw
  | textsOrNumbers => exact hlist (fun t _ => t.hasTag_toValue) hw
  | grants => exact hlist (fun g _ => g.hasTag_toValue) hw
  | ports => exact hlist (fun p _ => p.hasTag_toValue) hw
  | volumes => exact hlist (fun _ hb => Volume.hasTag_toValue (hv _ hb)) hw
  | pairs => exact hdict Value.hasTag_ofTextOrNull hw
  | labels => exact hdict (fun _ => rfl) hw

/-- **A property of a text** is written without a tag right under another one. -/
theorem not_stacksTags_of_read {n : Node} (h : k.read n = .ok v) (hw : k.write v = some w) :
    ¬ w.StacksTags := by
  by_cases hk : k = .mapping
  · subst hk
    obtain ⟨m, hm, rfl⟩ := Option.map_eq_some_iff.1 hw
    have hread := of_optional h m hm
    rw [readMapping, bind_ok_iff] at hread
    obtain ⟨ys, -, hread⟩ := hread
    have hentries : ∀ e ∈ m, ¬ e.2.StacksTags := by
      refine foldlM_preserves (P := fun m : Mapping => ∀ e ∈ m, ¬ e.2.StacksTags)
        (fun read y _ next hread hnext => ?_) (List.forall_mem_nil _) hread
      simp only [readMappingEntry, bind_ok_iff] at hnext
      obtain ⟨key, -, hnext⟩ := hnext
      split at hnext
      · simp at hnext
      · simp only [bind_ok_iff, pure_ok_iff] at hnext
        obtain ⟨u, hu, rfl⟩ := hnext
        exact List.forall_mem_append.2
          ⟨hread, List.forall_mem_singleton.2 (Node.not_stacksTags_of_value hu)⟩
    rintro (_ | _ | ⟨he, htags⟩ | _)
    exact hentries _ he htags
  · intro htags
    have hnone := hasTag_write hk (sound_of_read h) hw
    rw [Value.hasTag_of_stacksTags htags] at hnone
    cases hnone

end Kind

/-! ## Host paths -/

open Yaml

namespace Volume

theorem isWritable_mountValue_iff {m : Mount} :
    isWritable false (mountValue m) = true ↔
      ∀ o ∈ [m.bind, m.volume, m.tmpfs], ∀ x ∈ o, isWritable false (.mapping x) = true := by
  have hmap {β : Type} {write : β → Value} {o : Option β} :
      (∀ v ∈ o.map write, isWritable false v = true) ↔
      ∀ b ∈ o, isWritable false (write b) = true := by
    cases o <;> simp
  rw [mountValue, isWritable_record_iff]
  simp only [List.forall_mem_cons, hmap]
  simp [isWritable]

theorem isWritable_locate {v : Volume} (directory : String)
    (h : isWritable false v.toValue = true) :
    isWritable false (v.locate directory).toValue = true := by
  cases v with
  | short text =>
    rw [locate]
    split <;> rfl
  | long m =>
    rw [locate]
    split
    · rw [toValue, isWritable_mountValue_iff] at h ⊢
      exact h
    · exact h

end Volume

theorem TextOrList.isWritable_toValue (t : TextOrList) : isWritable false t.toValue = true := by
  cases t with
  | single text => rfl
  | list texts =>
    rw [toValue, Value.strings, isWritable, areWritable_iff, List.forall_mem_map]
    exact fun _ _ => rfl

/-- Builds are texts, whatever their context. -/
theorem Build.isWritable_toValue (b : Build) : isWritable false b.toValue = true := by
  cases b with
  | context path => rfl
  | detailed o =>
    rw [toValue, optionsValue, isWritable_record_iff]
    simp only [List.forall_mem_cons]
    refine ⟨by simp [isWritable], by simp [isWritable], fun v hv => ?_, by simp [isWritable],
      List.forall_mem_nil _⟩
    obtain rfl := Value.eq_of_unlessEmpty hv
    refine (isWritable_mapping_iff (List.forall_mem_map.2 fun _ _ => rfl)).2 ?_
    rw [List.forall_mem_map]
    intro e _
    cases e.2 <;> rfl

namespace Property

/-- **Resolving host paths** keeps what is written writable. -/
theorem isWritable_locate {p : Property} {v : p.Carrier} (directory : String)
    (h : ∀ w ∈ p.kind.write v, isWritable false w = true) :
    ∀ w ∈ p.kind.write (p.locate directory v), isWritable false w = true := by
  intro w hw
  cases p with
  | volumes =>
    refine isWritable_listUnlessEmpty_iff.2 (List.forall_mem_map.2 fun volume hvolume => ?_) w hw
    exact Volume.isWritable_locate directory (isWritable_listUnlessEmpty_iff.1 h volume hvolume)
  | envFile =>
    obtain ⟨t, -, rfl⟩ := Option.map_eq_some_iff.1 hw
    exact t.isWritable_toValue
  | build =>
    obtain ⟨b, -, rfl⟩ := Option.map_eq_some_iff.1 hw
    exact b.isWritable_toValue
  | _ => exact h w hw

end Property

/-! ## Services of a text -/

namespace Service

variable {s : Service}

/-- What is written of the service can be written when it can be shown. -/
def StacksNoTags (s : Service) : Prop :=
  ∀ (p : Property) (w : Value), p.kind.write (s.value p) = some w → ¬ w.StacksTags

theorem stacksNoTags_empty (name : String) : (empty name).StacksNoTags := by
  intro p w hw
  change p.kind.write p.kind.unset = some w at hw
  rw [write_unset] at hw
  cases hw

theorem stacksNoTags_of_read {n : Node} (h : Service.read n = .ok s) : s.StacksNoTags := by
  obtain ⟨es, state, -, hstate, -, rfl⟩ := read_ok_iff.1 h
  refine foldlM_preserves (P := fun d : Draft => d.service.StacksNoTags)
    (fun d e _ next hd hnext => ?_) ?_ hstate
  · obtain ⟨name, -, ⟨p, v, -, -, hv, rfl⟩ | ⟨v, -, -, rfl⟩⟩ := readEntry_ok_iff.1 hnext
    · intro q w hw
      by_cases hq : q = p
      · subst hq
        change q.kind.write ((d.service.set q v).value q) = some w at hw
        rw [set_self] at hw
        exact Kind.not_stacksTags_of_read hv hw
      · change q.kind.write ((d.service.set p v).value q) = some w at hw
        rw [set_of_ne d.service v hq] at hw
        exact hd q w hw
    · exact hd
  · exact stacksNoTags_empty ""

/-- **What a main component takes over can be written** if the service can be shown to templates. -/
theorem exists_text_of_only (hs : s.Sound) (hshown : s.Presentable) (htags : s.StacksNoTags)
    (ps : List Property) (directory : String) :
    ∃ out, Controller.serviceText ((s.only ps).locate directory) = .ok out := by
  have hwritable :
      isWritable false (.mapping ((s.only ps).locate directory).definition) = true := by
    have hentries : ∀ e ∈ ((s.only ps).locate directory).definition,
        e.1.isTextKey = true ∧ isWritable false e.2 = true := by
      intro e he
      change e ∈ Property.all.filterMap _ ++ [] at he
      rw [List.append_nil] at he
      obtain ⟨p, -, hp⟩ := List.mem_filterMap.1 he
      obtain ⟨w, hw, rfl⟩ := Option.map_eq_some_iff.1 hp
      refine ⟨rfl, ?_⟩
      rw [value_locate] at hw
      refine p.isWritable_locate directory (fun u hu => ?_) w hw
      by_cases hmem : p ∈ ps
      · have hgiven : (s.only ps).value p = s.value p := if_pos hmem
        rw [hgiven] at hu
        exact isWritable_of_presentable false u (hshown.write hs hu) (htags p u hu) Bool.noConfusion
      · have hunset : (s.only ps).value p = p.kind.unset := if_neg hmem
        rw [hunset, write_unset] at hu
        cases hu
    rw [isWritable_mapping_iff fun e he => (hentries e he).1]
    exact fun e he => (hentries e he).2
  exact ⟨_, by rw [Controller.serviceText, Controller.textOf, write?, if_pos hwritable]⟩

end Service

namespace Project

variable {p : Project} {n : Node}

/-- **The services of a text** have no tag right under another one. -/
theorem stacksNoTags_of_read (h : read n = .ok p) : ∀ s ∈ p.services, s.StacksNoTags := by
  obtain ⟨es, d, services, -, hd, -, -, hservices, rfl⟩ := read_ok_iff.1 h
  have hdraft : ∀ e ∈ d.services.entries, ∀ s ∈ e.2, s.StacksNoTags := by
    refine foldlM_preserves
      (P := fun d : Draft => ∀ e ∈ d.services.entries, ∀ s ∈ e.2, s.StacksNoTags)
      (fun d y _ next hd hnext => ?_) (fun e he => by cases he) hd
    rcases services_of_readEntry hnext with ⟨-, -, -, hread⟩ | ⟨-, hsame, -⟩
    · intro e he s hs
      obtain ⟨m, hm⟩ := exists_read_of_readServices hread e he s hs
      exact Service.stacksNoTags_of_read hm
    · rw [hsame]
      exact hd
  intro s hs
  obtain ⟨⟨name, o⟩, he, hnamed⟩ := exists_right_of_forall₂ hservices.flip s hs
  obtain ⟨rfl, -⟩ := named_ok_iff.1 hnamed
  cases o with
  | none => exact Service.stacksNoTags_empty ""
  | some t => exact hdraft _ he t rfl

end Project

end ComposePods

import ComposePods.Proofs.Forms
import ComposePods.Proofs.Showing
import ComposePods.Service.Property

/-!
# Properties read back

A property is written unless it is unset, and what is written is read back as it was, from a value
as well as from a text. The values of a property are sound when every number is in the range of its
place and the mappings are such as documents have them; whatever is read is sound.

* `HealthCheck.read_of_shows`, `Logging.read_of_shows`: records that are read field by field;
* `Kind.Sound`: the values that properties of a kind have;
* `Kind.eq_unset_of_write`: what is not written is unset;
* **`Kind.read_of_shows`**: what is written is read back;
* **`Kind.sound_of_read`**: what is read is sound.
-/

namespace ComposePods

open Source Source.Showing

variable {α β : Type} [Source α] [Showing α] {x : α}

/-! ## Records read field by field -/

theorem optional_text_of_shows {s : String} (h : Shows x (.string s)) :
    Source.optional Source.text x = .ok (some s) :=
  optional_of_shows h (by simp) (text_of_shows h)

theorem TextOrList.read_of_shows {t : TextOrList} (h : Shows x t.toValue) :
    TextOrList.read x = .ok t :=
  readForm_of_shows h t.hasTag_toValue t.read?_toValue

theorem HealthCheck.read_of_shows {c : HealthCheck} (h : Shows x c.toValue) :
    HealthCheck.read x = .ok c := by
  refine record_of_shows h (by simp [fields]) ?_ ?_
  · change fields.Nodup
    decide
  · -- Every field is put into the check in which the fields before it are set.
    refine Steps.field (fun o => { empty with test := o }) rfl (fun t y hy => ?_) ?_
    · have ht := optional_of_shows hy t.toValue_ne_null (TextOrList.read_of_shows hy)
      simp [readField, ht]
    refine Steps.field (fun o => { empty with test := c.test, interval := o }) rfl
      (fun s y hy => ?_) ?_
    · simp [readField, optional_text_of_shows hy]
    refine Steps.field (fun o =>
      { empty with test := c.test, interval := c.interval, timeout := o }) rfl
      (fun s y hy => ?_) ?_
    · simp [readField, optional_text_of_shows hy]
    refine Steps.field (fun o => { c with startPeriod := o, retries := none, disable := none }) rfl
      (fun s y hy => ?_) ?_
    · simp [readField, optional_text_of_shows hy, empty]
    refine Steps.field (fun o => { c with retries := o, disable := none }) rfl (fun n y hy => ?_) ?_
    · have hn := optional_of_shows hy (by rintro ⟨⟩) (count_of_shows hy)
      simp [readField, hn]
    refine Steps.field (fun o => { c with disable := o }) rfl (fun b y hy => ?_) rfl
    have hb := optional_of_shows hy (by rintro ⟨⟩) (flag_of_shows hy)
    simp [readField, hb]

theorem Logging.read_of_shows {l : Logging} (h : Shows x l.toValue) : Logging.read x = .ok l := by
  refine record_of_shows h (by simp [fields]) ?_ ?_
  · change fields.Nodup
    decide
  · refine Steps.field (fun o => { empty with driver := o }) rfl (fun s y hy => ?_) ?_
    · simp [readField, optional_text_of_shows hy]
    rcases Value.unlessEmpty_cases .ofLabels l.options with ⟨hnone, hempty⟩ | hsome
    · rw [hnone]
      obtain ⟨driver, options⟩ := l
      obtain rfl : options = .empty := hempty
      rfl
    · rw [hsome]
      refine ⟨l, fun y hy => ?_, rfl⟩
      simp [readField, readLabels_of_shows hy]

/-! ## Values that are written -/

theorem optional_of_write {read : α → Except TypeError β} {write : β → Value} {o : Option β}
    {w : Value} (hw : o.map write = some w) (h : Shows x w) (hnull : ∀ b, write b ≠ .null)
    (hread : ∀ b ∈ o, ∀ y, Shows y (write b) → read y = .ok b) :
    Source.optional read x = .ok o := by
  obtain ⟨b, rfl, rfl⟩ := Option.map_eq_some_iff.1 hw
  exact optional_of_shows h (hnull b) (hread b rfl x h)

theorem listOf_of_write {read : α → Except TypeError β} {write : β → Value} {bs : List β}
    {w : Value} (hw : Value.listUnlessEmpty write bs = some w) (h : Shows x w)
    (hread : ∀ b ∈ bs, ∀ y, Shows y (write b) → read y = .ok b) : listOf read x = .ok bs := by
  obtain rfl := Value.eq_of_listUnlessEmpty hw
  exact listOf_of_shows h hread

theorem dict_of_write {read : α → Except TypeError (Dict β)} {write : Dict β → Value} {d : Dict β}
    {w : Value} (hw : Value.unlessEmpty write d = some w) (h : Shows x w)
    (hread : ∀ y, Shows y (write d) → read y = .ok d) : read x = .ok d := by
  obtain rfl := Value.eq_of_unlessEmpty hw
  exact hread x h

theorem of_optional {α : Type} [Source α] {x : α} {read : α → Except TypeError β} {o : Option β}
    (h : Source.optional read x = .ok o) : ∀ b ∈ o, read x = .ok b := by
  intro b hb
  obtain rfl : o = some b := hb
  simp only [Source.optional, bind_ok_iff] at h
  obtain ⟨unset, -, h⟩ := h
  split at h
  · simp at h
  · simpa using h

theorem of_listOf {α : Type} [Source α] {x : α} {read : α → Except TypeError β} {bs : List β}
    (h : listOf read x = .ok bs) : ∀ b ∈ bs, ∃ y, read y = .ok b := by
  rw [listOf, bind_ok_iff] at h
  obtain ⟨ys, -, h⟩ := h
  intro b hb
  obtain ⟨y, -, hy⟩ := exists_right_of_forall₂ (mapM_ok_iff.1 h).flip b hb
  exact ⟨y, hy⟩

theorem of_readForm {property : String} {read? : Value → Option β} {b : β}
    (h : readForm property read? x = .ok b) : ∃ v, v.hasTag = false ∧ read? v = some b := by
  rw [readForm, bind_ok_iff] at h
  obtain ⟨v, hv, h⟩ := h
  refine ⟨v, hasTag_of_untaggedValue hv, ?_⟩
  split at h
  · rename_i c hc
    rw [hc, pure_ok_iff.1 h]
  · simp at h

theorem of_listOf_readForm {property : String} {read? : Value → Option β} {bs : List β}
    (h : listOf (readForm property read?) x = .ok bs) :
    ∀ b ∈ bs, ∃ v, v.hasTag = false ∧ read? v = some b := by
  intro b hb
  obtain ⟨y, hy⟩ := of_listOf h b hb
  exact of_readForm hy

/-! ## Kinds -/

namespace Kind

/-- The values that properties of a kind have: numbers in the range of their place, mappings such as
documents have them. -/
def Sound : (k : Kind) → k.Carrier → Prop
  | .textOrNumber, v => ∀ t ∈ v, t.Sound
  | .textsOrNumbers, v => ∀ t ∈ v, t.Sound
  | .mapping, v => ∀ m ∈ v, m.Distinct
  | .grants, v => ∀ g ∈ v, g.Sound
  | .ports, v => ∀ p ∈ v, p.Sound
  | .volumes, v => ∀ w ∈ v, w.Sound
  | .text, _ | .flag, _ | .texts, _ | .textOrList, _ | .pairs, _ | .labels, _ | .build, _
  | .healthCheck, _ | .logging, _ | .networks, _ => True

theorem sound_unset (k : Kind) : k.Sound k.unset := by
  cases k <;> simp [Sound, unset]

theorem eq_unset_of_write {k : Kind} {v : k.Carrier} (h : k.write v = none) : v = k.unset := by
  have hlist {γ : Type} {write : γ → Value} {xs : List γ}
    (h : Value.listUnlessEmpty write xs = none) :
      xs = [] := by
    rcases Value.listUnlessEmpty_cases write xs with ⟨-, hempty⟩ | hsome
    · exact hempty
    · rw [hsome] at h
      cases h
  have hdict {γ : Type} {write : Dict γ → Value} {d : Dict γ}
    (h : Value.unlessEmpty write d = none) :
      d = .empty := by
    rcases Value.unlessEmpty_cases write d with ⟨-, hempty⟩ | hsome
    · exact hempty
    · rw [hsome] at h
      cases h
  cases k with
  | texts | textsOrNumbers | grants | ports | volumes => exact hlist h
  | pairs | labels => exact hdict h
  | text | flag | textOrList | textOrNumber | mapping | build | healthCheck | logging | networks =>
    exact Option.map_eq_none_iff.1 h

/-- **What is written is read back**, from every source in which it is seen. -/
theorem read_of_shows {k : Kind} {v : k.Carrier} {w : Value} (hv : k.Sound v)
    (hw : k.write v = some w) (h : Shows x w) : k.read x = .ok v := by
  cases k with
  | text => exact optional_of_write hw h (by simp) fun _ _ _ => text_of_shows
  | flag => exact optional_of_write hw h (by simp) fun _ _ _ => flag_of_shows
  | texts => exact listOf_of_write hw h fun _ _ _ => text_of_shows
  | textOrList =>
    exact optional_of_write hw h TextOrList.toValue_ne_null fun _ _ _ => TextOrList.read_of_shows
  | textOrNumber =>
    exact optional_of_write hw h TextOrNumber.toValue_ne_null fun t ht _ hy =>
      readForm_of_shows hy t.hasTag_toValue (TextOrNumber.read?_toValue (hv t ht))
  | textsOrNumbers =>
    exact listOf_of_write hw h fun t ht _ hy =>
      readForm_of_shows hy t.hasTag_toValue (TextOrNumber.read?_toValue (hv t ht))
  | pairs => exact dict_of_write hw h fun _ => readPairs_of_shows
  | labels => exact dict_of_write hw h fun _ => readLabels_of_shows
  | mapping =>
    exact optional_of_write hw h (by simp) fun m hm _ hy => readMapping_of_shows hy (hv m hm)
  | build =>
    exact optional_of_write hw h Build.toValue_ne_null fun b _ _ hy =>
      readForm_of_shows hy b.hasTag_toValue b.read?_toValue
  | grants =>
    exact listOf_of_write hw h fun g hg _ hy =>
      readForm_of_shows hy g.hasTag_toValue (Grant.read?_toValue (hv g hg))
  | healthCheck => exact optional_of_write hw h (by rintro _ ⟨⟩) fun _ _ _ =>
    HealthCheck.read_of_shows
  | logging => exact optional_of_write hw h (by rintro _ ⟨⟩) fun _ _ _ => Logging.read_of_shows
  | networks =>
    exact optional_of_write hw h Networks.toValue_ne_null fun n _ _ hy =>
      readForm_of_shows hy n.hasTag_toValue n.read?_toValue
  | ports =>
    exact listOf_of_write hw h fun p hp _ hy =>
      readForm_of_shows hy p.hasTag_toValue (Port.read?_toValue (hv p hp))
  | volumes =>
    exact listOf_of_write hw h fun w hw' _ hy =>
      readForm_of_shows hy (Volume.hasTag_toValue (hv w hw')) (Volume.read?_toValue (hv w hw'))

/-- **What is read is sound.** -/
theorem sound_of_read {k : Kind} {v : k.Carrier} (h : k.read x = .ok v) : k.Sound v := by
  cases k with
  | textOrNumber =>
    intro t ht
    obtain ⟨v, -, hread⟩ := of_readForm (of_optional h t ht)
    exact TextOrNumber.sound_of_read? hread
  | textsOrNumbers =>
    intro t ht
    obtain ⟨v, -, hread⟩ := of_listOf_readForm h t ht
    exact TextOrNumber.sound_of_read? hread
  | mapping => exact fun m hm => distinct_of_readMapping (of_optional h m hm)
  | grants =>
    intro g hg
    obtain ⟨v, -, hread⟩ := of_listOf_readForm h g hg
    exact Grant.sound_of_read? hread
  | ports =>
    intro p hp
    obtain ⟨v, -, hread⟩ := of_listOf_readForm h p hp
    exact Port.sound_of_read? hread
  | volumes =>
    intro w hw
    obtain ⟨v, htag, hread⟩ := of_listOf_readForm h w hw
    exact Volume.sound_of_read? htag hread
  | text | flag | texts | textOrList | pairs | labels | build | healthCheck | logging | networks =>
    trivial

end Kind

end ComposePods

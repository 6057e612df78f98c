import ComposePods.Proofs.Distinctness
import ComposePods.Proofs.Showing
import ComposePods.Yaml.Read

/-!
# Values in texts

A part of a text stands for a document value, but a typed reader may take it for something else:
where the format's own schema says by a tag what a scalar has to be, and where a zero has a minus
sign. In texts without either, which is how values are written, a part is taken for the value that
it stands for.

* `Node.isOrdinary`: no tags but local ones, and no zero with a minus sign;
* `Node.untaggedValue_of_value`, `Node.hasTag_of_untagged`: values without tags;
* `Node.keysDistinct_of_value`: no value repeats a key;
* the instance of `Source.Showing` for `Node`: **an ordinary node is taken for its value**.
-/

namespace ComposePods

namespace Node

/-! ## Ordinary nodes -/

/-- There is no tag, or it is a local one. -/
def isLocal (tag : Option String) : Bool := tag.isNone || (localTag? tag).isSome

/-- The text is a minus sign in front of a zero. -/
def isNegativeZero (text : String) : Bool :=
  decide (text.toList.head? = some '-') && decide (Scalar.integer? text.toList = some 0)

mutual

/-- There are no tags but local ones, and no zero has a minus sign. -/
def isOrdinary : Node → Bool
  | .scalar tag form text => isLocal tag && !(form = .plain && isNegativeZero text)
  | .sequence tag items => isLocal tag && areOrdinaryItems items
  | .mapping tag entries => isLocal tag && areOrdinaryEntries entries
  | .absent => true
  | .cut => false
termination_by structural n => n

/-- All items are ordinary. -/
def areOrdinaryItems : List Node → Bool
  | [] => true
  | n :: ns => n.isOrdinary && areOrdinaryItems ns
termination_by structural ns => ns

/-- All keys and values are ordinary. -/
def areOrdinaryEntries : List (Node × Node) → Bool
  | [] => true
  | (k, v) :: es => k.isOrdinary && v.isOrdinary && areOrdinaryEntries es
termination_by structural es => es

end

/-! ## Values without tags -/

variable {tag : Option String} {form : ScalarForm} {text : String} {v : Value}

/-- The value is no collection and has no tag. -/
def IsScalar (v : Value) : Prop := v.shape ∈ [Shape.null, Shape.bool, Shape.number, Shape.string]

theorem hasTag_of_isScalar (h : IsScalar v) : v.hasTag = false := by
  cases v with
  | null | bool | number | string => rfl
  | sequence | mapping | tagged => simp [IsScalar, Value.shape] at h

theorem isScalar_of_bareValue (h : bareValue form text = .ok v) : IsScalar v := by
  unfold bareValue plainValue at h
  split at h
  · split at h <;> cases h <;> simp [IsScalar, Value.shape]
  · cases h
    simp [IsScalar, Value.shape]

theorem isScalar_of_demand {o : Option Value} (ho : ∀ w ∈ o, IsScalar w) (h : demand o = .ok v) :
    IsScalar v := by
  cases o with
  | none => cases h
  | some w =>
    cases h
    exact ho _ rfl

theorem isScalar_of_scalarValue (h : scalarValue tag form text = .ok v) : IsScalar v := by
  have hmap {β : Type} {write : β → Value} (o : Option β) (hwrite : ∀ b, IsScalar (write b)) :
      ∀ w ∈ o.map write, IsScalar w := by
    intro w hw
    obtain ⟨b, -, rfl⟩ := Option.map_eq_some_iff.1 hw
    exact hwrite b
  unfold scalarValue at h
  split at h
  · exact isScalar_of_bareValue h
  split at h
  · exact isScalar_of_demand (hmap _ fun _ => by simp [IsScalar, Value.shape]) h
  split at h
  · refine isScalar_of_demand (fun w hw => ?_) h
    unfold integer? at hw
    split at hw
    · cases hw
      simp [IsScalar, Value.shape]
    · cases hw
  split at h
  · exact isScalar_of_demand (hmap _ fun _ => by simp [IsScalar, Value.shape]) h
  split at h
  · refine isScalar_of_demand (fun w hw => ?_) h
    split at hw
    · cases hw
      simp [IsScalar, Value.shape]
    · cases hw
  · cases h
    simp [IsScalar, Value.shape]

theorem localTag?_of_underTag {w : Value} (h : (underTag tag w).hasTag = false) :
    localTag? tag = none := by
  unfold underTag at h
  split at h
  · cases h
  · assumption

theorem shape_underTag (tag : Option String) (w : Value) :
    underTag tag w = w ∨ (underTag tag w).shape = .tagged := by
  unfold underTag
  split
  · exact .inr rfl
  · exact .inl rfl

theorem eq_of_underTag {w : Value} (h : underTag tag w = v) (hv : v.shape ≠ .tagged) : w = v := by
  rcases shape_underTag tag w with hw | hw
  · exact hw.symm.trans h
  · rw [h] at hw
    exact absurd hw hv

mutual

theorem hasTag_of_untagged (n : Node) {v : Value} (h : untaggedValue n = .ok v) :
    v.hasTag = false := by
  cases n with
  | scalar tag form text =>
    unfold untaggedValue at h
    split at h
    · cases h
    · exact hasTag_of_isScalar (isScalar_of_scalarValue h)
  | sequence tag items =>
    unfold untaggedValue at h
    split at h
    · cases h
    · simp only [bind_ok_iff, pure_ok_iff] at h
      obtain ⟨vs, hvs, rfl⟩ := h
      exact Value.hasTag_sequence_eq_false.2 (hasTag_of_untaggedItems items hvs)
  | mapping tag entries =>
    unfold untaggedValue at h
    split at h
    · cases h
    · simp only [bind_ok_iff, pure_ok_iff] at h
      obtain ⟨es, hes, rfl⟩ := h
      exact Value.hasTag_mapping_eq_false.2 (hasTag_of_untaggedEntries entries hes)
  | absent =>
    cases h
    rfl
  | cut => cases h
termination_by structural n

theorem hasTag_of_untaggedItems (ns : List Node) {vs : List Value} (h : untaggedItems ns = .ok vs) :
    ∀ v ∈ vs, v.hasTag = false := by
  cases ns with
  | nil =>
    cases h
    nofun
  | cons n ns =>
    simp only [untaggedItems, bind_ok_iff, pure_ok_iff] at h
    obtain ⟨v, hv, vs, hvs, rfl⟩ := h
    exact List.forall_mem_cons.2 ⟨hasTag_of_untagged n hv, hasTag_of_untaggedItems ns hvs⟩
termination_by structural ns

theorem hasTag_of_untaggedEntries (es : List (Node × Node)) {m : Mapping}
    (h : untaggedEntries es = .ok m) : ∀ e ∈ m, e.1.hasTag = false ∧ e.2.hasTag = false := by
  cases es with
  | nil =>
    cases h
    nofun
  | cons e es =>
    obtain ⟨k, v⟩ := e
    simp only [untaggedEntries, bind_ok_iff, pure_ok_iff] at h
    obtain ⟨k', hk, v', hv, m, hm, rfl⟩ := h
    exact List.forall_mem_cons.2
      ⟨⟨hasTag_of_untagged k hk, hasTag_of_untagged v hv⟩, hasTag_of_untaggedEntries es hm⟩
termination_by structural es

end

theorem forall₂_of_itemValues {ns : List Node} {vs : List Value} (h : itemValues ns = .ok vs) :
    List.Forall₂ (fun n v => value n = .ok v) ns vs := by
  induction ns generalizing vs with
  | nil =>
    cases h
    exact .nil
  | cons n ns ih =>
    simp only [itemValues, bind_ok_iff, pure_ok_iff] at h
    obtain ⟨v, hv, vs, hrest, rfl⟩ := h
    exact .cons hv (ih hrest)

theorem forall₂_of_entryValues {es : List (Node × Node)} {read m : Mapping}
    (h : entryValues read es = .ok m) :
    ∃ new, m = read ++ new ∧
      List.Forall₂ (fun y e => value y.1 = .ok e.1 ∧ value y.2 = .ok e.2) es new := by
  induction es generalizing read with
  | nil =>
    cases h
    exact ⟨[], (List.append_nil _).symm, .nil⟩
  | cons e es ih =>
    obtain ⟨k, v⟩ := e
    simp only [entryValues, bind_ok_iff] at h
    obtain ⟨k', hk, h⟩ := h
    split at h
    · simp at h
    · simp only [bind_ok_iff] at h
      obtain ⟨v', hv, h⟩ := h
      obtain ⟨new, rfl, hnew⟩ := ih h
      exact ⟨(k', v') :: new, by simp, .cons ⟨hk, hv⟩ hnew⟩

theorem keysDistinct_of_isScalar (h : IsScalar v) : v.keysDistinct = true := by
  cases v with
  | null | bool | number | string => rfl
  | sequence | mapping | tagged => simp [IsScalar, Value.shape] at h

theorem keysDistinct_underTag (tag : Option String) (h : v.keysDistinct = true) :
    (underTag tag v).keysDistinct = true := by
  unfold underTag
  split
  · exact h
  · exact h

mutual

/-- **A value that is read repeats no key**, at whatever depth. -/
theorem keysDistinct_of_value (n : Node) {v : Value} (h : value n = .ok v) :
    v.keysDistinct = true := by
  cases n with
  | scalar tag form text =>
    unfold value at h
    split at h
    · simp only [bind_ok_iff, pure_ok_iff] at h
      obtain ⟨w, hw, rfl⟩ := h
      rw [Value.keysDistinct]
      exact keysDistinct_of_isScalar (isScalar_of_bareValue hw)
    · exact keysDistinct_of_isScalar (isScalar_of_scalarValue h)
  | sequence tag items =>
    simp only [value, bind_ok_iff, pure_ok_iff] at h
    obtain ⟨vs, hvs, rfl⟩ := h
    exact keysDistinct_underTag tag (keysDistinct_of_itemValues items hvs)
  | mapping tag entries =>
    simp only [value, bind_ok_iff, pure_ok_iff] at h
    obtain ⟨m, hm, rfl⟩ := h
    exact keysDistinct_underTag tag (keysDistinct_of_entryValues entries rfl hm)
  | absent =>
    cases h
    rfl
  | cut => cases h
termination_by structural n

theorem keysDistinct_of_itemValues (ns : List Node) {vs : List Value} (h : itemValues ns = .ok vs) :
    (Value.sequence vs).keysDistinct = true := by
  cases ns with
  | nil =>
    cases h
    rfl
  | cons n ns =>
    simp only [itemValues, bind_ok_iff, pure_ok_iff] at h
    obtain ⟨v, hv, vs, hvs, rfl⟩ := h
    have hrest := keysDistinct_of_itemValues ns hvs
    rw [Value.keysDistinct, Value.keysDistinctItems_iff] at hrest ⊢
    exact List.forall_mem_cons.2 ⟨keysDistinct_of_value n hv, hrest⟩
termination_by structural ns

theorem keysDistinct_of_entryValues (es : List (Node × Node)) {read m : Mapping}
    (hread : (Value.mapping read).keysDistinct = true) (h : entryValues read es = .ok m) :
    (Value.mapping m).keysDistinct = true := by
  cases es with
  | nil =>
    cases h
    exact hread
  | cons e es =>
    obtain ⟨k, v⟩ := e
    simp only [entryValues, bind_ok_iff] at h
    obtain ⟨k', hk, h⟩ := h
    split at h
    · simp at h
    · rename_i hnew
      simp only [bind_ok_iff] at h
      obtain ⟨v', hv, h⟩ := h
      refine keysDistinct_of_entryValues es ?_ h
      rw [Value.keysDistinct_mapping_iff] at hread ⊢
      refine ⟨List.forall_mem_append.2 ⟨hread.1, List.forall_mem_singleton.2 ⟨?_, ?_⟩⟩, ?_⟩
      · exact keysDistinct_of_value k hk
      · exact keysDistinct_of_value v hv
      · exact Mapping.distinct_concat hread.2 (Bool.eq_false_iff.2 hnew) v'
termination_by structural es

end

mutual

/-- **Where a value has no tags**, it is the one that is read where none may stand. -/
theorem untaggedValue_of_value (n : Node) {v : Value} (h : value n = .ok v)
    (hv : v.hasTag = false) : untaggedValue n = .ok v := by
  cases n with
  | scalar tag form text =>
    unfold value at h
    unfold untaggedValue
    split at h
    · simp only [bind_ok_iff, pure_ok_iff] at h
      obtain ⟨w, -, rfl⟩ := h
      cases hv
    · exact h
  | sequence tag items =>
    simp only [value, bind_ok_iff, pure_ok_iff] at h
    obtain ⟨vs, hvs, rfl⟩ := h
    have htag := localTag?_of_underTag hv
    simp only [underTag, htag] at hv ⊢
    simp only [untaggedValue, htag, bind_ok_iff, pure_ok_iff]
    exact ⟨vs, untaggedItems_of_values items hvs (Value.hasTag_sequence_eq_false.1 hv), rfl⟩
  | mapping tag entries =>
    simp only [value, bind_ok_iff, pure_ok_iff] at h
    obtain ⟨es, hes, rfl⟩ := h
    have htag := localTag?_of_underTag hv
    simp only [underTag, htag] at hv ⊢
    simp only [untaggedValue, htag, bind_ok_iff, pure_ok_iff]
    obtain ⟨new, rfl, hnew⟩ := forall₂_of_entryValues hes
    exact ⟨_, untaggedEntries_of_values entries hnew (Value.hasTag_mapping_eq_false.1 hv), rfl⟩
  | absent => exact h
  | cut => cases h
termination_by structural n

theorem untaggedItems_of_values (ns : List Node) {vs : List Value} (h : itemValues ns = .ok vs)
    (hvs : ∀ v ∈ vs, v.hasTag = false) : untaggedItems ns = .ok vs := by
  cases ns with
  | nil => exact h
  | cons n ns =>
    simp only [itemValues, bind_ok_iff, pure_ok_iff] at h
    obtain ⟨v, hv, vs, hrest, rfl⟩ := h
    rw [List.forall_mem_cons] at hvs
    simp only [untaggedItems, bind_ok_iff, pure_ok_iff]
    exact ⟨v, untaggedValue_of_value n hv hvs.1, vs, untaggedItems_of_values ns hrest hvs.2, rfl⟩
termination_by structural ns

theorem untaggedEntries_of_values (es : List (Node × Node)) {m : Mapping}
    (h : List.Forall₂ (fun y e => value y.1 = .ok e.1 ∧ value y.2 = .ok e.2) es m)
    (hm : ∀ e ∈ m, e.1.hasTag = false ∧ e.2.hasTag = false) : untaggedEntries es = .ok m := by
  cases es with
  | nil =>
    cases h
    rfl
  | cons e es =>
    obtain ⟨k, v⟩ := e
    obtain ⟨⟨k', v'⟩, m, ⟨hk, hv⟩, hrest, rfl⟩ := List.forall₂_cons_left_iff.1 h
    rw [List.forall_mem_cons] at hm
    simp only [untaggedEntries, bind_ok_iff, pure_ok_iff]
    exact ⟨k', untaggedValue_of_value k hk hm.1.1, v', untaggedValue_of_value v hv hm.1.2, m,
      untaggedEntries_of_values es hrest hm.2, rfl⟩
termination_by structural es

end

/-! ## Scalars -/

theorem hasSchemaTag_of_isLocal {name : String} (h : isLocal tag = true) :
    hasSchemaTag tag name = false := by
  rw [hasSchemaTag, beq_eq_false_iff_ne]
  rintro rfl
  simp [isLocal, localTag?, schema] at h

theorem resolveInteger_cases {p : Scalar.Plain} (h : Scalar.resolveInteger text = some p) :
    (∃ i, Scalar.integer? text.toList = some i ∧ Scalar.isWord i = true ∧ p = .integer i) ∨
      p = .oversized := by
  unfold Scalar.resolveInteger at h
  split at h
  · cases h
  · rename_i i hi
    split at h
    · cases h
      exact .inl ⟨i, hi, ‹_›, rfl⟩
    · split at h
      · cases h
        exact .inr rfl
      · cases h

theorem resolve_cases (text : String) :
    ((text = "" ∨ Scalar.isNull text = true) ∧ Scalar.resolve text = .null) ∨
      (∃ b, Scalar.bool? text = some b ∧ Scalar.resolve text = .bool b) ∨
      (∃ i, Scalar.integer? text.toList = some i ∧ Scalar.isWord i = true ∧
        Scalar.resolve text = .integer i) ∨
      Scalar.resolve text = .oversized ∨ (∃ x, Scalar.resolve text = .real x) ∨
        Scalar.resolve text = .text := by
  by_cases hnull : text = "" ∨ Scalar.isNull text = true
  · exact .inl ⟨hnull, if_pos hnull⟩
  refine .inr ?_
  unfold Scalar.resolve
  rw [if_neg hnull]
  rcases hb : Scalar.bool? text with _ | b
  · refine .inr ?_
    rcases hp : Scalar.resolveInteger text with _ | p
    · dsimp only
      split
      · exact .inr (.inr (.inr rfl))
      · split
        · exact .inr (.inr (.inl ⟨_, rfl⟩))
        · exact .inr (.inr (.inr rfl))
    · rcases resolveInteger_cases hp with ⟨i, hi, hword, rfl⟩ | rfl
      · exact .inl ⟨i, hi, hword, rfl⟩
      · exact .inr (.inl rfl)
  · exact .inl ⟨b, rfl, rfl⟩

theorem resolve_eq_null_iff :
    Scalar.resolve text = .null ↔ text = "" ∨ Scalar.isNull text = true := by
  refine ⟨fun h => ?_, fun h => if_pos h⟩
  rcases resolve_cases text with ⟨hnull, -⟩ | ⟨b, -, he⟩ | ⟨i, -, -, he⟩ | he | ⟨y, he⟩ | he
  · exact hnull
  all_goals
    rw [he] at h
    cases h

theorem bool?_of_resolve {b : Bool} (h : Scalar.resolve text = .bool b) :
    Scalar.bool? text = some b := by
  rcases resolve_cases text with ⟨-, he⟩ | ⟨c, hc, he⟩ | ⟨i, -, -, he⟩ | he | ⟨y, he⟩ | he
  all_goals
    rw [he] at h
    cases h
  exact hc

theorem integer?_of_resolve {i : Int} (h : Scalar.resolve text = .integer i) :
    Scalar.integer? text.toList = some i ∧ Scalar.isWord i = true := by
  rcases resolve_cases text with ⟨-, he⟩ | ⟨b, -, he⟩ | ⟨j, hj, hword, he⟩ | he | ⟨y, he⟩ | he
  all_goals
    rw [he] at h
    cases h
  exact ⟨hj, hword⟩

theorem natural?_of_integer {n : Nat} (h : Scalar.integer? text.toList = some (n : Int))
    (hword : Scalar.isWord n = true) (hsign : isNegativeZero text = false) :
    natural? text = some n := by
  have hhead : text.toList.head? ≠ some '-' := by
    intro hhead
    obtain ⟨cs, hcs⟩ : ∃ cs, text.toList = '-' :: cs := List.head?_eq_some_iff.1 hhead
    have hinteger := h
    rw [hcs, Scalar.integer?, Option.map_eq_some_iff] at hinteger
    obtain ⟨m, -, hm⟩ := hinteger
    have hzero : n = 0 := by
      have hneg : -(m : Int) = n := hm
      omega
    subst hzero
    simp [isNegativeZero, hhead, h] at hsign
  rw [natural?, if_neg hhead, h, Option.bind_some, if_pos hword, Int.toNat_natCast]

theorem scalar_of_value {n : Node} (hn : n.isOrdinary = true) (h : value n = .ok v)
    (hv : v.shape ∈ [Shape.bool, Shape.number, Shape.string]) :
    ∃ form text, n = .scalar none form text ∧ bareValue form text = .ok v ∧
      (form = .plain → isNegativeZero text = false) := by
  cases n with
  | scalar tag form text =>
    simp only [isOrdinary, Bool.and_eq_true, Bool.not_eq_true', Bool.and_eq_false_imp] at hn
    unfold value at h
    split at h
    · simp only [bind_ok_iff, pure_ok_iff] at h
      obtain ⟨w, -, rfl⟩ := h
      exact absurd hv (by simp [Value.shape])
    · rename_i hlocal
      cases tag with
      | none => exact ⟨form, text, rfl, h, by simpa using hn.2⟩
      | some tag =>
        rw [isLocal, hlocal] at hn
        cases hn.1
  | sequence tag items =>
    simp only [value, bind_ok_iff, pure_ok_iff] at h
    obtain ⟨vs, -, rfl⟩ := h
    rcases shape_underTag tag (.sequence vs) with h | h
    · rw [h] at hv
      exact absurd hv (by simp [Value.shape])
    · rw [h] at hv
      exact absurd hv (by simp)
  | mapping tag entries =>
    simp only [value, bind_ok_iff, pure_ok_iff] at h
    obtain ⟨es, -, rfl⟩ := h
    rcases shape_underTag tag (.mapping es) with h | h
    · rw [h] at hv
      exact absurd hv (by simp [Value.shape])
    · rw [h] at hv
      exact absurd hv (by simp)
  | absent =>
    cases h
    exact absurd hv (by decide)
  | cut => cases h

theorem plain_of_bareValue (h : bareValue form text = .ok v) (hv : ∀ s, v ≠ .string s) :
    form = .plain ∧ plainValue text = .ok v := by
  unfold bareValue at h
  split at h
  · exact ⟨‹_›, h⟩
  · cases h
    exact absurd rfl (hv text)

theorem resolve_of_plainValue (h : plainValue text = .ok v) :
    (v = .null ∧ Scalar.resolve text = .null) ∨ (∃ b, v = .bool b ∧ Scalar.resolve text = .bool b) ∨
      (∃ i, v = .number (.integer i) ∧ Scalar.resolve text = .integer i) ∨
        (∃ x, v = .number (.real x) ∧ Scalar.resolve text = .real x) ∨
          v = .string text ∧ Scalar.resolve text = .text := by
  unfold plainValue at h
  split at h <;> cases h <;> simp [*]

/-! ## What readers take a node for -/

/-- An ordinary node that stands for a value. -/
def Shows (n : Node) (v : Value) : Prop := n.isOrdinary = true ∧ value n = .ok v

namespace Shows

variable {n : Node}

theorem isUnset (h : n.Shows v) : n.isUnset = .ok (decide (v = .null)) := by
  obtain ⟨hn, hv⟩ := h
  have hunder (tag : Option String) (w : Value) (hw : w ≠ .null) : underTag tag w ≠ .null := by
    unfold underTag
    split
    · simp
    · exact hw
  cases n with
  | scalar tag form text =>
    rw [isOrdinary, Bool.and_eq_true] at hn
    unfold value at hv
    split at hv
    · rename_i t ht
      simp only [bind_ok_iff, pure_ok_iff] at hv
      obtain ⟨w, -, rfl⟩ := hv
      have hsome : tag ≠ none := by
        rintro rfl
        cases ht
      cases form <;> simp [Node.isUnset, hasSchemaTag_of_isLocal hn.1, hsome]
    · rename_i hlocal
      cases tag with
      | some tag =>
        rw [isLocal, hlocal] at hn
        cases hn.1
      | none =>
        cases form with
        | plain =>
          have hnull : v = .null ↔ text = "" ∨ Scalar.isNull text = true := by
            rw [← resolve_eq_null_iff]
            rcases resolve_of_plainValue hv
              with ⟨rfl, hr⟩ | ⟨b, rfl, hr⟩ | ⟨i, rfl, hr⟩ | ⟨y, rfl, hr⟩ |
              ⟨rfl, hr⟩ <;> simp [hr]
          simp [Node.isUnset, hasSchemaTag, hnull]
        | literal | quoted =>
          cases hv
          rfl
  | sequence tag items =>
    simp only [value, bind_ok_iff, pure_ok_iff] at hv
    obtain ⟨vs, -, rfl⟩ := hv
    simp [Node.isUnset, hunder tag (.sequence vs) (by simp)]
  | mapping tag entries =>
    simp only [value, bind_ok_iff, pure_ok_iff] at hv
    obtain ⟨es, -, rfl⟩ := hv
    simp [Node.isUnset, hunder tag (.mapping es) (by simp)]
  | absent =>
    cases hv
    rfl
  | cut => cases hv

theorem readText {s : String} (h : n.Shows (.string s)) : n.readText = .ok s := by
  obtain ⟨form, text, rfl, hbare, -⟩ := scalar_of_value h.1 h.2 (by simp [Value.shape])
  unfold bareValue at hbare
  split at hbare
  · rcases resolve_of_plainValue hbare with ⟨⟨⟩, -⟩ | ⟨b, ⟨⟩, -⟩ | ⟨i, ⟨⟩, -⟩ | ⟨y, ⟨⟩, -⟩ | ⟨hs, -⟩
    cases hs
    rfl
  · cases hbare
    rfl

theorem readFlag {b : Bool} (h : n.Shows (.bool b)) : n.readFlag = .ok b := by
  obtain ⟨form, text, rfl, hbare, -⟩ := scalar_of_value h.1 h.2 (by simp [Value.shape])
  obtain ⟨rfl, hplain⟩ := plain_of_bareValue hbare nofun
  rcases resolve_of_plainValue hplain
    with ⟨⟨⟩, -⟩ | ⟨c, hc, hresolve⟩ | ⟨i, ⟨⟩, -⟩ | ⟨y, ⟨⟩, -⟩ | ⟨⟨⟩, -⟩
  cases hc
  simp [Node.readFlag, isOpen, bool?_of_resolve hresolve]

theorem readCount {m : Nat} (h : n.Shows (.ofNat m)) : n.readCount = .ok m := by
  obtain ⟨form, text, rfl, hbare, hsign⟩ :=
    scalar_of_value h.1 h.2 (by simp [Value.shape, Value.ofNat])
  obtain ⟨rfl, hplain⟩ := plain_of_bareValue hbare nofun
  rcases resolve_of_plainValue hplain
    with ⟨⟨⟩, -⟩ | ⟨c, ⟨⟩, -⟩ | ⟨i, hi, hresolve⟩ | ⟨y, ⟨⟩, -⟩ | ⟨⟨⟩, -⟩
  cases hi
  obtain ⟨hinteger, hword⟩ := integer?_of_resolve hresolve
  simp [Node.readCount, isOpen, natural?_of_integer hinteger hword (hsign rfl)]

theorem forall₂_items {items : List Node} {vs : List Value} (hn : areOrdinaryItems items = true)
    (h : List.Forall₂ (fun n v => value n = .ok v) items vs) : List.Forall₂ Shows items vs := by
  induction h with
  | nil => exact .nil
  | cons hv _ ih =>
    rw [areOrdinaryItems, Bool.and_eq_true] at hn
    exact .cons ⟨hn.1, hv⟩ (ih hn.2)

theorem forall₂_entries {entries : List (Node × Node)} {es : Mapping}
    (hn : areOrdinaryEntries entries = true)
    (h : List.Forall₂ (fun y e => value y.1 = .ok e.1 ∧ value y.2 = .ok e.2) entries es) :
    List.Forall₂ (fun y e => y.1.Shows e.1 ∧ y.2.Shows e.2) entries es := by
  induction h with
  | nil => exact .nil
  | @cons y e entries es he _ ih =>
    obtain ⟨k, v⟩ := y
    simp only [areOrdinaryEntries, Bool.and_eq_true] at hn
    exact .cons ⟨⟨hn.1.1, he.1⟩, ⟨hn.1.2, he.2⟩⟩ (ih hn.2)

theorem not_scalar {tag : Option String} {form : ScalarForm} {text : String}
    (h : Shows (.scalar tag form text) v) (hv : v.shape ∈ [Shape.sequence, Shape.mapping]) :
    False := by
  have hvalue := h.2
  unfold value at hvalue
  split at hvalue
  · simp only [bind_ok_iff, pure_ok_iff] at hvalue
    obtain ⟨w, -, rfl⟩ := hvalue
    simp [Value.shape] at hv
  · have hscalar := isScalar_of_scalarValue hvalue
    cases v <;> simp [IsScalar, Value.shape] at hscalar hv

theorem readItems {vs : List Value} (h : n.Shows (.sequence vs)) :
    ∃ ns, n.readItems = .ok ns ∧ List.Forall₂ Shows ns vs := by
  cases n with
  | scalar tag form text => exact (not_scalar h (by simp [Value.shape])).elim
  | sequence tag items =>
    obtain ⟨hn, hv⟩ := h
    rw [isOrdinary, Bool.and_eq_true] at hn
    simp only [value, bind_ok_iff, pure_ok_iff] at hv
    obtain ⟨ws, hws, hunder⟩ := hv
    cases eq_of_underTag hunder (by simp [Value.shape])
    exact ⟨items, rfl, forall₂_items hn.2 (forall₂_of_itemValues hws)⟩
  | mapping tag entries =>
    obtain ⟨-, hv⟩ := h
    simp only [value, bind_ok_iff, pure_ok_iff] at hv
    obtain ⟨es, -, hunder⟩ := hv
    cases eq_of_underTag hunder (by simp [Value.shape])
  | absent => cases h.2
  | cut => cases h.2

theorem readEntries {es : Mapping} (wanted : String) (h : n.Shows (.mapping es)) :
    ∃ ns, n.readEntries wanted = .ok ns ∧
      List.Forall₂ (fun y e => y.1.Shows e.1 ∧ y.2.Shows e.2) ns es := by
  cases n with
  | scalar tag form text => exact (not_scalar h (by simp [Value.shape])).elim
  | sequence tag items =>
    obtain ⟨-, hv⟩ := h
    simp only [value, bind_ok_iff, pure_ok_iff] at hv
    obtain ⟨vs, -, hunder⟩ := hv
    cases eq_of_underTag hunder (by simp [Value.shape])
  | mapping tag entries =>
    obtain ⟨hn, hv⟩ := h
    rw [isOrdinary, Bool.and_eq_true] at hn
    simp only [value, bind_ok_iff, pure_ok_iff] at hv
    obtain ⟨fs, hfs, hunder⟩ := hv
    cases eq_of_underTag hunder (by simp [Value.shape])
    obtain ⟨new, rfl, hnew⟩ := forall₂_of_entryValues hfs
    exact ⟨entries, rfl, forall₂_entries hn.2 hnew⟩
  | absent => cases h.2
  | cut => cases h.2

end Shows

/-- **An ordinary node is taken for its value.** -/
instance : Source.Showing Node where
  Shows := Shows
  isUnset_of_shows := Shows.isUnset
  text_of_shows := Shows.readText
  flag_of_shows := Shows.readFlag
  count_of_shows := Shows.readCount
  items_of_shows := Shows.readItems
  entries_of_shows := Shows.readEntries
  name_of_shows := Shows.readText
  value_of_shows := And.right
  untaggedValue_of_shows h := untaggedValue_of_value _ h.2
  hasTag_of_untaggedValue := hasTag_of_untagged _

end Node

end ComposePods

import ComposePods.Proofs.Nodes

/-!
# What a node and its value answer

A typed reader can ask a node of a text or the value for which the node stands, and is not always
answered the same: a node gives its text for any scalar, a value only for a string. Here the two
answers are compared, question by question. They are the same where the value is of the kind that is
asked for.

* `Value.isText`, `Value.isFlag`, `Value.isInteger`, `Value.isItems`, `Value.isEntries`: what is
  asked for;
* `Node.stands`, `Node.unset`: what a node stands for;
* `Node.means_of_value`: what scalars stand for;
* **`Node.readText_value_iff`**, **`Node.readFlag_value_iff`**, **`Node.readCount_value_iff`**:
  scalars;
* **`Node.forall₂_of_readItems`**, **`Node.forall₂_of_readEntries`**: collections;
* `Node.untaggedValue_eq`: values without tags;
* `Node.value_of_unset`, `Node.form_of_null`: nothing that is set.
-/

namespace ComposePods

namespace Value

/-! ## What is asked for -/

/-- The value is a string. -/
def isText : Value → Bool
  | .string _ => true
  | _ => false

/-- The value is a boolean. -/
def isFlag : Value → Bool
  | .bool _ => true
  | _ => false

/-- The value is an integer. -/
def isInteger : Value → Bool
  | .number (.integer _) => true
  | _ => false

/-- The value is a sequence, or null for the empty one. -/
def isItems : Value → Bool
  | .sequence _ | .null => true
  | _ => false

/-- The value is a mapping, or null for the empty one. -/
def isEntries : Value → Bool
  | .mapping _ | .null => true
  | _ => false

variable {v : Value}

theorem isItems_iff : v.untagged.isItems = true ↔ ∃ ws, v.readItems = .ok ws := by
  unfold readItems
  cases v.untagged <;> simp [isItems]

theorem isEntries_iff (wanted : String) :
    v.untagged.isEntries = true ↔ ∃ m, v.readEntries wanted = .ok m := by
  unfold readEntries
  cases v.untagged <;> simp [isEntries]

end Value

namespace Node

/-- The node has a value, which without its tags is of some kind. -/
def stands (fits : Value → Bool) (n : Node) : Bool :=
  match n.value with
  | .ok v => fits v.untagged
  | .error _ => false

/-- Nothing is set at the node. -/
def unset (n : Node) : Bool :=
  match n.isUnset with
  | .ok b => b
  | .error _ => false

variable {n : Node} {v w : Value} {tag : Option String} {form : ScalarForm} {text : String}

theorem stands_of_value {fits : Value → Bool} (h : n.value = .ok v) :
    n.stands fits = fits v.untagged := by
  rw [stands, h]

theorem stands_items_iff (hv : n.value = .ok v) :
    n.stands Value.isItems = true ↔ ∃ ws, v.readItems = .ok ws := by
  rw [stands_of_value hv, Value.isItems_iff]

theorem stands_entries_iff (wanted : String) (hv : n.value = .ok v) :
    n.stands Value.isEntries = true ↔ ∃ m, v.readEntries wanted = .ok m := by
  rw [stands_of_value hv, Value.isEntries_iff]

@[simp] theorem untagged_underTag (tag : Option String) (v : Value) :
    (underTag tag v).untagged = v.untagged := by
  unfold underTag
  split
  · rfl
  · rfl

/-! ## Scalars -/

/-- What a scalar stands for, apart from its tags: its text, or what the text can be read as. -/
def Means (text : String) (v : Value) : Prop :=
  v = .string text ∨ (∃ b, v = .bool b ∧ Scalar.bool? text = some b) ∨
    (∃ i, v = .number (.integer i) ∧ Scalar.integer? text.toList = some i) ∨
      (∃ x, v = .number (.real x) ∧ Scalar.real? text = some x) ∨
        v = .null ∧ (text = "" ∨ Scalar.isNull text = true)

theorem real?_of_resolve {x : Binary64} (h : Scalar.resolve text = .real x) :
    Scalar.real? text = some x := by
  unfold Scalar.resolve at h
  split at h
  · cases h
  · split at h
    · cases h
    · split at h
      · rename_i p hp
        rcases resolveInteger_cases hp with ⟨i, -, -, rfl⟩ | rfl
        · cases h
        · cases h
      · split at h
        · cases h
        · split at h
          · rename_i y hy
            cases h
            exact hy
          · cases h

theorem means_of_bareValue (h : bareValue form text = .ok v) : Means text v := by
  unfold bareValue at h
  split at h
  · rcases resolve_of_plainValue h
      with ⟨rfl, hn⟩ | ⟨b, rfl, hb⟩ | ⟨i, rfl, hi⟩ | ⟨x, rfl, hx⟩ | ⟨rfl, -⟩
    · exact .inr (.inr (.inr (.inr ⟨rfl, resolve_eq_null_iff.1 hn⟩)))
    · exact .inr (.inl ⟨b, rfl, bool?_of_resolve hb⟩)
    · exact .inr (.inr (.inl ⟨i, rfl, (integer?_of_resolve hi).1⟩))
    · exact .inr (.inr (.inr (.inl ⟨x, rfl, real?_of_resolve hx⟩)))
    · exact .inl rfl
  · cases h
    exact .inl rfl

theorem integer?_of_integer (h : integer? text = some v) :
    ∃ i, v = .number (.integer i) ∧ Scalar.integer? text.toList = some i := by
  unfold integer? at h
  split at h
  · rename_i i hi
    cases h
    rcases resolveInteger_cases hi with ⟨j, hj, -, hij⟩ | hover
    · cases hij
      exact ⟨i, rfl, hj⟩
    · cases hover
  · cases h

theorem demand_ok_iff {o : Option Value} : demand o = .ok v ↔ o = some v := by
  cases o <;> simp [demand]

theorem means_of_scalarValue (h : scalarValue tag form text = .ok v) : Means text v := by
  unfold scalarValue at h
  split at h
  · exact means_of_bareValue h
  split at h
  · obtain ⟨b, hb, rfl⟩ := Option.map_eq_some_iff.1 (demand_ok_iff.1 h)
    exact .inr (.inl ⟨b, rfl, hb⟩)
  split at h
  · obtain ⟨i, rfl, hi⟩ := integer?_of_integer (demand_ok_iff.1 h)
    exact .inr (.inr (.inl ⟨i, rfl, hi⟩))
  split at h
  · obtain ⟨x, hx, rfl⟩ := Option.map_eq_some_iff.1 (demand_ok_iff.1 h)
    exact .inr (.inr (.inr (.inl ⟨x, rfl, hx⟩)))
  split at h
  · have hnull := demand_ok_iff.1 h
    split at hnull
    · rename_i htext
      cases hnull
      exact .inr (.inr (.inr (.inr ⟨rfl, .inr htext⟩)))
    · cases hnull
  · cases h
    exact .inl rfl

theorem untagged_of_means (h : Means text v) : v.untagged = v := by
  rcases h with rfl | ⟨b, rfl, -⟩ | ⟨i, rfl, -⟩ | ⟨x, rfl, -⟩ | ⟨rfl, -⟩ <;> rfl

/-- **What a scalar stands for**, whatever its tag is. -/
theorem means_of_value (h : value (.scalar tag form text) = .ok v) : Means text v.untagged := by
  unfold value at h
  split at h
  · simp only [bind_ok_iff, pure_ok_iff] at h
    obtain ⟨w, hw, rfl⟩ := h
    have hmeans := means_of_bareValue hw
    rw [Value.untagged, untagged_of_means hmeans]
    exact hmeans
  · have hmeans := means_of_scalarValue h
    rw [untagged_of_means hmeans]
    exact hmeans

theorem exists_scalar_of_readText {s : String} (h : n.readText = .ok s) :
    ∃ tag form, n = .scalar tag form s := by
  cases n with
  | scalar tag form text =>
    obtain rfl := Except.ok.inj h
    exact ⟨tag, form, rfl⟩
  | sequence | mapping | absent | cut => cases h

theorem exists_scalar_of_readFlag {b : Bool} (h : n.readFlag = .ok b) :
    ∃ tag form text, n = .scalar tag form text ∧ Scalar.bool? text = some b := by
  cases n with
  | scalar tag form text =>
    refine ⟨tag, form, text, rfl, ?_⟩
    rcases hopen : isOpen tag form "bool" <;> rcases hb : Scalar.bool? text with _ | c <;>
      simp [readFlag, hopen, hb, refuse] at h
    rw [h]
  | sequence | mapping | absent | cut => cases h

theorem integer?_of_natural {m : Nat} (h : natural? text = some m) :
    Scalar.integer? text.toList = some (m : Int) := by
  unfold natural? at h
  split at h
  · cases h
  · rename_i hsign
    obtain ⟨i, hi, h⟩ := Option.bind_eq_some_iff.1 h
    split at h
    · cases h
      have hnonneg : 0 ≤ i := by
        unfold Scalar.integer? at hi
        split at hi
        · rename_i hcs
          simp [hcs] at hsign
        · obtain ⟨k, -, rfl⟩ := Option.map_eq_some_iff.1 hi
          exact Int.natCast_nonneg k
        · obtain ⟨k, -, rfl⟩ := Option.map_eq_some_iff.1 hi
          exact Int.natCast_nonneg k
      rw [hi, Int.toNat_of_nonneg hnonneg]
    · cases h

theorem exists_scalar_of_readCount {m : Nat} (h : n.readCount = .ok m) :
    ∃ tag form text, n = .scalar tag form text ∧ Scalar.integer? text.toList = some (m : Int) := by
  cases n with
  | scalar tag form text =>
    refine ⟨tag, form, text, rfl, ?_⟩
    rcases hopen : isOpen tag form "int" <;> rcases hm : natural? text with _ | k <;>
      simp [readCount, hopen, hm, refuse] at h
    rw [← h]
    exact integer?_of_natural hm
  | sequence | mapping | absent | cut => cases h

/-- **A text is the same text to the value** if it is a text to the value. -/
theorem readText_value_iff {s : String} (h : n.readText = .ok s) (hv : n.value = .ok v) :
    v.readText = .ok s ↔ n.stands Value.isText = true := by
  obtain ⟨tag, form, rfl⟩ := exists_scalar_of_readText h
  rw [stands_of_value hv, Value.readText]
  rcases means_of_value hv with hw | ⟨b, hw, -⟩ | ⟨i, hw, -⟩ | ⟨x, hw, -⟩ | ⟨hw, -⟩ <;>
    simp [hw, Value.isText]

/-- **A boolean is the same boolean to the value** if it is a boolean to the value. -/
theorem readFlag_value_iff {b : Bool} (h : n.readFlag = .ok b) (hv : n.value = .ok v) :
    v.readFlag = .ok b ↔ n.stands Value.isFlag = true := by
  obtain ⟨tag, form, text, rfl, hb⟩ := exists_scalar_of_readFlag h
  rw [stands_of_value hv, Value.readFlag]
  rcases means_of_value hv with hw | ⟨c, hw, hc⟩ | ⟨i, hw, -⟩ | ⟨x, hw, -⟩ | ⟨hw, -⟩
  · simp [hw, Value.isFlag]
  · obtain rfl : b = c := Option.some.inj (hb.symm.trans hc)
    simp [hw, Value.isFlag]
  · simp [hw, Value.isFlag]
  · simp [hw, Value.isFlag]
  · simp [hw, Value.isFlag]

/-- **A number is the same number to the value** if it is an integer to the value. -/
theorem readCount_value_iff {m : Nat} (h : n.readCount = .ok m) (hv : n.value = .ok v) :
    v.readCount = .ok m ↔ n.stands Value.isInteger = true := by
  obtain ⟨tag, form, text, rfl, hm⟩ := exists_scalar_of_readCount h
  rw [stands_of_value hv, Value.readCount]
  rcases means_of_value hv with hw | ⟨b, hw, -⟩ | ⟨i, hw, hi⟩ | ⟨x, hw, -⟩ | ⟨hw, -⟩
  · simp [hw, Value.isInteger]
  · simp [hw, Value.isInteger]
  · obtain rfl : (m : Int) = i := Option.some.inj (hm.symm.trans hi)
    have hnonneg : ¬ (m : Int) < 0 := by omega
    simp [hw, Value.isInteger, hnonneg]
  · simp [hw, Value.isInteger]
  · simp [hw, Value.isInteger]

/-! ## Names -/

/-- The text can be read as nothing else. -/
def OnlyText (text : String) : Prop :=
  text ≠ "" ∧ Scalar.isNull text = false ∧ Scalar.bool? text = none ∧
    Scalar.integer? text.toList = none ∧
    Scalar.real? text = none

instance (text : String) : Decidable (OnlyText text) := by unfold OnlyText; infer_instance

/-- **A scalar whose text can be read as nothing else** stands for it, whatever its tag is. -/
theorem untagged_of_onlyText (h : OnlyText text) (hv : value (.scalar tag form text) = .ok v) :
    v.untagged = .string text := by
  obtain ⟨hempty, hnull, hbool, hinteger, hreal⟩ := h
  rcases means_of_value hv with hw | ⟨b, -, hb⟩ | ⟨i, -, hi⟩ | ⟨x, -, hx⟩ | ⟨-, hn⟩
  · exact hw
  · rw [hbool] at hb
    cases hb
  · rw [hinteger] at hi
    cases hi
  · rw [hreal] at hx
    cases hx
  · rcases hn with hn | hn
    · exact absurd hn hempty
    · rw [hnull] at hn
      cases hn

theorem onlyText_of_x {text : String} (h : Text.startsWith "x-" text = true) : OnlyText text := by
  obtain ⟨rest, hrest⟩ : ∃ rest, text.toList = 'x' :: '-' :: rest := by
    rw [Text.startsWith, List.isPrefixOf_iff_prefix] at h
    obtain ⟨rest, hrest⟩ := h
    exact ⟨rest, hrest.symm⟩
  have hne {s : String} (hs : s.toList.head? ≠ some 'x') : text ≠ s := by
    rintro rfl
    rw [hrest] at hs
    exact hs rfl
  refine ⟨hne (by decide), ?_, ?_, ?_, ?_⟩
  · simp only [Scalar.isNull, Bool.or_eq_false_iff, beq_eq_false_iff_ne]
    exact ⟨⟨⟨hne (by decide), hne (by decide)⟩, hne (by decide)⟩, hne (by decide)⟩
  · unfold Scalar.bool?
    rw [if_neg, if_neg]
    · simp only [not_or]
      exact ⟨hne (by decide), hne (by decide), hne (by decide)⟩
    · simp only [not_or]
      exact ⟨hne (by decide), hne (by decide), hne (by decide)⟩
  · rw [hrest]
    rfl
  · have hread : Binary64.read? ('x' :: '-' :: rest) = none := rfl
    have hinfinity (s : String) (hs : s.toList.head? ≠ some 'x') :
        'x' :: '-' :: rest ≠ s.toList := by
      rw [← hrest]
      exact fun heq => hne hs (String.toList_injective heq)
    unfold Scalar.real?
    simp only [hrest]
    change (if _ then _ else if _ then _ else if _ then _ else _) = none
    rw [if_neg, if_neg, if_neg, hread]
    · rfl
    · simp only [not_or]
      exact ⟨hne (by decide), hne (by decide), hne (by decide)⟩
    · simp only [not_or]
      exact ⟨hne (by decide), hne (by decide), hne (by decide)⟩
    · simp only [not_or]
      exact ⟨hinfinity _ (by decide), hinfinity _ (by decide), hinfinity _ (by decide)⟩

/-! ## Collections -/

/-- **The items of the value** are the values of the items. -/
theorem forall₂_of_readItems {ns : List Node} {ws : List Value} (h : n.readItems = .ok ns)
    (hv : n.value = .ok v) (hw : v.readItems = .ok ws) :
    List.Forall₂ (fun y w => value y = .ok w) ns ws := by
  cases n with
  | scalar tag form text =>
    have hns : ns = [] := by
      unfold readItems at h
      split at h <;> simp_all [refuse]
    have hws : ws = [] := by
      unfold Value.readItems at hw
      rcases means_of_value hv with hu | ⟨b, hu, -⟩ | ⟨i, hu, -⟩ | ⟨x, hu, -⟩ | ⟨hu, -⟩ <;> simp_all
    rw [hns, hws]
    exact .nil
  | sequence tag items =>
    obtain rfl := Except.ok.inj h
    simp only [value, bind_ok_iff, pure_ok_iff] at hv
    obtain ⟨vs, hvs, rfl⟩ := hv
    rw [Value.readItems, untagged_underTag] at hw
    obtain rfl := Except.ok.inj hw
    exact forall₂_of_itemValues hvs
  | absent =>
    obtain rfl := Except.ok.inj h
    obtain rfl := Except.ok.inj hv
    obtain rfl := Except.ok.inj hw
    exact .nil
  | mapping | cut => cases h

/-- **The entries of the value** are the values of the entries. -/
theorem forall₂_of_readEntries {wanted : String} {es : List (Node × Node)} {m : Mapping}
    (h : n.readEntries wanted = .ok es) (hv : n.value = .ok v) (hm : v.readEntries wanted = .ok m) :
    List.Forall₂ (fun y e => value y.1 = .ok e.1 ∧ value y.2 = .ok e.2) es m := by
  cases n with
  | scalar tag form text =>
    have hes : es = [] := by
      unfold readEntries at h
      split at h <;> simp_all [refuse]
    have hempty : m = [] := by
      unfold Value.readEntries at hm
      rcases means_of_value hv with hu | ⟨b, hu, -⟩ | ⟨i, hu, -⟩ | ⟨x, hu, -⟩ | ⟨hu, -⟩ <;> simp_all
    rw [hes, hempty]
    exact .nil
  | mapping tag entries =>
    obtain rfl := Except.ok.inj h
    simp only [value, bind_ok_iff, pure_ok_iff] at hv
    obtain ⟨fs, hfs, rfl⟩ := hv
    rw [Value.readEntries, untagged_underTag] at hm
    obtain rfl := Except.ok.inj hm
    obtain ⟨new, rfl, hnew⟩ := forall₂_of_entryValues hfs
    exact hnew
  | absent =>
    obtain rfl := Except.ok.inj h
    obtain rfl := Except.ok.inj hv
    obtain rfl := Except.ok.inj hm
    exact .nil
  | sequence | cut => cases h

/-! ## Values without tags -/

mutual

/-- **What is read where no tags may stand** is the value, if there is one. -/
theorem untaggedValue_eq (n : Node) {v w : Value} (hw : untaggedValue n = .ok w)
    (hv : value n = .ok v) : v = w := by
  cases n with
  | scalar tag form text =>
    unfold untaggedValue at hw
    unfold value at hv
    split at hw
    · cases hw
    · rename_i htag
      rw [htag, hw] at hv
      exact (Except.ok.inj hv).symm
  | sequence tag items =>
    unfold untaggedValue at hw
    split at hw
    · cases hw
    · rename_i htag
      simp only [value, underTag, htag, bind_ok_iff, pure_ok_iff] at hv hw
      obtain ⟨vs, hvs, rfl⟩ := hv
      obtain ⟨ws, hws, rfl⟩ := hw
      rw [untaggedItems_eq items hws (forall₂_of_itemValues hvs)]
  | mapping tag entries =>
    unfold untaggedValue at hw
    split at hw
    · cases hw
    · rename_i htag
      simp only [value, underTag, htag, bind_ok_iff, pure_ok_iff] at hv hw
      obtain ⟨m, hm, rfl⟩ := hv
      obtain ⟨ws, hws, rfl⟩ := hw
      obtain ⟨new, rfl, hnew⟩ := forall₂_of_entryValues hm
      rw [untaggedEntries_eq entries hws hnew]
  | absent => exact Except.ok.inj (hv.symm.trans hw)
  | cut => cases hw
termination_by structural n

theorem untaggedItems_eq (ns : List Node) {vs ws : List Value} (hws : untaggedItems ns = .ok ws)
    (hvs : List.Forall₂ (fun n v => value n = .ok v) ns vs) : vs = ws := by
  cases ns with
  | nil =>
    cases hws
    cases hvs
    rfl
  | cons n ns =>
    simp only [untaggedItems, bind_ok_iff, pure_ok_iff] at hws
    obtain ⟨w, hw, ws, hrest, rfl⟩ := hws
    obtain ⟨v, vs, hv, htail, rfl⟩ := List.forall₂_cons_left_iff.1 hvs
    rw [untaggedValue_eq n hw hv, untaggedItems_eq ns hrest htail]
termination_by structural ns

theorem untaggedEntries_eq (es : List (Node × Node)) {m m' : Mapping}
    (hm' : untaggedEntries es = .ok m')
    (hm : List.Forall₂ (fun y e => value y.1 = .ok e.1 ∧ value y.2 = .ok e.2) es m) : m = m' := by
  cases es with
  | nil =>
    cases hm'
    cases hm
    rfl
  | cons e es =>
    obtain ⟨k, v⟩ := e
    simp only [untaggedEntries, bind_ok_iff, pure_ok_iff] at hm'
    obtain ⟨k', hk', v', hv', m', hrest, rfl⟩ := hm'
    obtain ⟨⟨k₁, v₁⟩, m, ⟨hk, hv⟩, htail, rfl⟩ := List.forall₂_cons_left_iff.1 hm
    obtain rfl : k₁ = k' := untaggedValue_eq k hk' hk
    obtain rfl : v₁ = v' := untaggedValue_eq v hv' hv
    rw [untaggedEntries_eq es hrest htail]
termination_by structural es

end

/-! ## Nothing that is set -/

theorem unset_of_isUnset {b : Bool} (h : n.isUnset = .ok b) : n.unset = b := by rw [unset, h]

theorem scalarValue_null (h : hasSchemaTag tag "null" = true) (htext : Scalar.isNull text = true) :
    scalarValue tag form text = .ok .null := by
  have hne (name : String) (hname : name ≠ "null") : ¬ hasSchemaTag tag name = true := by
    rw [hasSchemaTag, beq_iff_eq] at h ⊢
    rw [h]
    intro heq
    exact hname ((String.append_right_inj _).1 (Option.some.inj heq)).symm
  have hsome : tag ≠ none := by
    rintro rfl
    cases h
  rw [scalarValue, if_neg hsome, if_neg (hne "bool" (by decide)), if_neg (hne "int" (by decide)),
    if_neg (hne "float" (by decide)), if_pos h, if_pos htext]
  rfl

theorem localTag?_of_hasSchemaTag {name : String} (h : hasSchemaTag tag name = true) :
    localTag? tag = none := by
  rcases htag : localTag? tag with _ | t
  · rfl
  · have hlocal : isLocal tag = true := by simp [isLocal, htag]
    rw [hasSchemaTag_of_isLocal hlocal] at h
    cases h

/-- **Where nothing is set**, the value is null. -/
theorem value_of_unset (h : n.isUnset = .ok true) : n.value = .ok .null := by
  cases n with
  | scalar tag form text =>
    cases form with
    | plain =>
      rw [isUnset] at h
      split at h
      · rename_i hschema
        split at h
        · rename_i htext
          rw [value, localTag?_of_hasSchemaTag hschema]
          exact scalarValue_null hschema htext
        · cases h
      · obtain ⟨rfl, htext⟩ : tag = none ∧ (text = "" ∨
          Scalar.isNull text = true) := by simpa using h
        have hresolve := resolve_eq_null_iff.2 htext
        rw [value, localTag?]
        change bareValue .plain text = _
        rw [bareValue, if_pos rfl, plainValue, hresolve]
    | literal | quoted => cases h
  | absent => rfl
  | sequence | mapping | cut => cases h

theorem form_of_null (h : n.isUnset = .ok false) (hv : n.value = .ok .null) :
    ∃ tag form text, n = .scalar tag form text ∧ form ≠ .plain := by
  cases n with
  | scalar tag form text =>
    refine ⟨tag, form, text, rfl, ?_⟩
    rintro rfl
    rw [isUnset] at h
    split at h
    · split at h
      · cases h
      · cases h
    · rename_i hschema
      have hset : ¬ (tag = none ∧ (text = "" ∨ Scalar.isNull text = true)) := by simpa using h
      unfold value at hv
      split at hv
      · simp only [bind_ok_iff, pure_ok_iff] at hv
        obtain ⟨w, -, hw⟩ := hv
        cases hw
      · unfold scalarValue at hv
        split at hv
        · rename_i htag
          rw [bareValue, if_pos rfl] at hv
          rcases resolve_of_plainValue hv
            with ⟨-, hr⟩ | ⟨b, hb, -⟩ | ⟨i, hi, -⟩ | ⟨x, hx, -⟩ | ⟨hs, -⟩
          · exact hset ⟨htag, resolve_eq_null_iff.1 hr⟩
          · cases hb
          · cases hi
          · cases hx
          · cases hs
        split at hv
        · obtain ⟨b, -, hb⟩ := Option.map_eq_some_iff.1 (demand_ok_iff.1 hv)
          cases hb
        split at hv
        · obtain ⟨i, hi, -⟩ := integer?_of_integer (demand_ok_iff.1 hv)
          cases hi
        split at hv
        · obtain ⟨x, -, hx⟩ := Option.map_eq_some_iff.1 (demand_ok_iff.1 hv)
          cases hx
        cases hv
  | absent => cases h
  | sequence tag items =>
    simp only [value, bind_ok_iff, pure_ok_iff] at hv
    obtain ⟨vs, -, hv⟩ := hv
    have hu := congrArg Value.untagged hv
    rw [untagged_underTag] at hu
    cases hu
  | mapping tag entries =>
    simp only [value, bind_ok_iff, pure_ok_iff] at hv
    obtain ⟨m, -, hv⟩ := hv
    have hu := congrArg Value.untagged hv
    rw [untagged_underTag] at hu
    cases hu
  | cut => cases h

end Node

end ComposePods

import ComposePods.Proofs.Meanings
import ComposePods.Proofs.Properties

/-!
# Properties of a node and of its value

What is read of a node is read of its value as well, unless the node gives a text, a boolean, a
number or a collection that its value is not. For each kind of properties it is said here of which
nodes just the same is read of their values. Properties that are first taken as a value never
differ; those that ask for a text do.

* `Source.Settles`, `Source.read_of_recordStep`: **the fields of a record stay as they have been
  read**;
* `optional_value_iff`, `listOf_value_iff`, `readForm_value`, `readMapping_value_iff`,
  `record_value_iff`;
* `HealthCheck.alikeField`, `Logging.alikeField`, `Kind.alike`: the node and its value say the same;
* **`Kind.read_value_iff`**: the same property is read of both exactly if they do.
-/

namespace ComposePods

/-! ## Records -/

namespace Source

variable {α σ : Type} [Source α] {known : List String} {read : String → α → σ → Except TypeError σ}

theorem recordStep_ok_iff {state next : List String × σ} {e : α × α} :
    recordStep known read state e = .ok next ↔
      ∃ name t, Source.name e.1 = .ok name ∧ name ∈ known ∧ name ∉ state.1 ∧
      read name e.2 state.2 = .ok t ∧
        next = (name :: state.1, t) := by
  rw [recordStep, bind_ok_iff]
  refine exists_congr fun name => ?_
  by_cases hknown : name ∈ known
  · by_cases hmet : name ∈ state.1
    · simp [hknown, hmet]
    · simp [hknown, hmet, @eq_comm _ next]
  · simp [hknown]

/-- A field that has been read stays as it is: to read it once more changes nothing, not even when
another field has been read since. -/
structure Settles (known : List String) (read : String → α → σ → Except TypeError σ) : Prop where
  again : ∀ name ∈ known, ∀ x s t, read name x s = .ok t → read name x t = .ok t
  other : ∀ name ∈ known, ∀ other ∈ known, name ≠ other → ∀ x y s t, read name x s = .ok s →
    read other y s = .ok t → read name x t = .ok t

/-- **The fields of a record stay as they have been read.** -/
theorem read_of_recordStep (hread : Settles known read) {es : List (α × α)}
    {start final : List String × σ} (h : es.foldlM (recordStep known read) start = .ok final) :
    ∀ e ∈ es, ∃ name ∈ known, Source.name e.1 = .ok name ∧ read name e.2 final.2 = .ok final.2 := by
  intro e he
  obtain ⟨a, b, after, hstep, hafter⟩ := exists_step_of_foldlM he h
  obtain ⟨name, t, hname, hknown, -, ht, rfl⟩ := recordStep_ok_iff.1 hstep
  refine ⟨name, hknown, hname, ?_⟩
  have hsettled : name ∈ final.1 ∧ read name e.2 final.2 = .ok final.2 := by
    refine foldlM_preserves (P := fun s => name ∈ s.1 ∧ read name e.2 s.2 = .ok s.2) ?_
      ⟨List.mem_cons_self, hread.again name hknown _ _ _ ht⟩ hafter
    rintro s e' - next ⟨hmet, hs⟩ hnext
    obtain ⟨name', t', -, hknown', hmet', ht', rfl⟩ := recordStep_ok_iff.1 hnext
    have hne : name ≠ name' := by
      rintro rfl
      exact hmet' hmet
    exact ⟨List.mem_cons_of_mem _ hmet, hread.other name hknown name' hknown' hne _ _ _ _ hs ht'⟩
  exact hsettled.2

end Source

open Source

/-! ## A node and its value -/

namespace Node

/-- The items of a sequence. -/
def itemList : Node → List Node
  | .sequence _ items => items
  | _ => []

/-- The entries of a mapping. -/
def entryList : Node → List (Node × Node)
  | .mapping _ entries => entries
  | _ => []

/-- The text of a scalar. -/
def label : Node → String
  | .scalar _ _ text => text
  | _ => ""

variable {n : Node} {v : Value}

/-- Nothing is set at the node, or it stands for what is asked for. -/
def standsIfSet (fits : Value → Bool) (n : Node) : Bool := n.unset || n.stands fits

/-- The value has entries as the node has, and all fields say the same. -/
def alikeFields (alike : String → Node → Bool) (n : Node) : Bool :=
  n.stands Value.isEntries && n.entryList.all fun e => alike e.1.label e.2

theorem itemList_of_readItems {ns : List Node} (h : n.readItems = .ok ns) : n.itemList = ns := by
  unfold readItems at h
  split at h
  · exact Except.ok.inj h
  · exact Except.ok.inj h
  · exact Except.ok.inj h
  · cases n <;> cases h

theorem entryList_of_readEntries {wanted : String} {es : List (Node × Node)}
    (h : n.readEntries wanted = .ok es) : n.entryList = es := by
  unfold readEntries at h
  split at h
  · exact Except.ok.inj h
  · exact Except.ok.inj h
  · exact Except.ok.inj h
  · cases n <;> cases h

theorem label_of_readText {name : String} (h : n.readText = .ok name) : n.label = name := by
  obtain ⟨tag, form, rfl⟩ := exists_scalar_of_readText h
  rfl

theorem ne_null_of_stands {fits : Value → Bool} (hfits : fits .null = false) (hv : n.value = .ok v)
    (h : n.stands fits = true) : v ≠ .null := by
  rintro rfl
  rw [stands_of_value hv] at h
  exact absurd h (by simp [Value.untagged, hfits])

theorem ne_null_of_readEntries {wanted : String} {es : List (Node × Node)}
    (h : n.readEntries wanted = .ok es) (hset : n.isUnset = .ok false) (hv : n.value = .ok v) :
    v ≠ .null := by
  rintro rfl
  obtain ⟨tag, form, text, rfl, hform⟩ := form_of_null hset hv
  cases form with
  | plain => exact hform rfl
  | literal | quoted => cases h

/-- **The name of a field that can be read as nothing else** is the same to the value. -/
theorem readName_of_onlyText {name : String} (hname : OnlyText name) (h : n.readText = .ok name)
    (hv : n.value = .ok v) : v.readName = .ok name := by
  obtain ⟨tag, form, rfl⟩ := exists_scalar_of_readText h
  rw [Value.readName, untagged_of_onlyText hname hv]

end Node

variable {β σ : Type} {n : Node} {v : Value}

theorem optional_value_iff {readNode : Node → Except TypeError β}
    {readValue : Value → Except TypeError β} {fits : Bool} {o : Option β}
    (h : Source.optional readNode n = .ok o) (hv : n.value = .ok v)
    (hread : ∀ b, readNode n = .ok b → (readValue v = .ok b ↔ fits = true))
    (hnull : ∀ b, readNode n = .ok b → n.isUnset = .ok false → fits = true → v ≠ .null) :
    Source.optional readValue v = .ok o ↔ (n.unset || fits) = true := by
  rw [Source.optional, bind_ok_iff] at h
  obtain ⟨b, hb, h⟩ := h
  have hb : n.isUnset = .ok b := hb
  rw [Node.unset_of_isUnset hb]
  cases b with
  | true =>
    rw [Node.value_of_unset hb] at hv
    cases hv
    exact iff_of_true h rfl
  | false =>
    obtain ⟨c, hc, rfl⟩ := map_ok_iff.1 h
    rw [Bool.false_or]
    by_cases hcase : v = .null
    · subst hcase
      refine iff_of_false (by rintro ⟨⟩) fun hfits => ?_
      exact hnull c hc hb hfits rfl
    · have hset : Source.optional readValue v = some <$> readValue v := by
        unfold Source.optional
        cases v with
        | null => exact absurd rfl hcase
        | bool | number | string | sequence | mapping | tagged => rfl
      rw [hset, map_ok_iff, ← hread c hc]
      simp

theorem optional_scalar_value_iff {readNode : Node → Except TypeError β}
    {readValue : Value → Except TypeError β} {fits : Value → Bool} (hfits : fits .null = false)
    (hread : ∀ b, readNode n = .ok b → (readValue v = .ok b ↔ n.stands fits = true)) {o : Option β}
    (h : Source.optional readNode n = .ok o) (hv : n.value = .ok v) :
    Source.optional readValue v = .ok o ↔ n.standsIfSet fits = true :=
  optional_value_iff h hv hread fun _ _ _ => Node.ne_null_of_stands hfits hv

theorem listOf_value_iff {readNode : Node → Except TypeError β}
    {readValue : Value → Except TypeError β} {fits : Node → Bool} {bs : List β}
    (h : listOf readNode n = .ok bs) (hv : n.value = .ok v)
    (hread : ∀ y w b, readNode y = .ok b → y.value = .ok w →
      (readValue w = .ok b ↔ fits y = true)) :
    listOf readValue v = .ok bs ↔ (n.stands Value.isItems && n.itemList.all fits) = true := by
  rw [listOf, bind_ok_iff] at h
  obtain ⟨ns, hns, h⟩ := h
  rw [mapM_ok_iff] at h
  have hitems {ws : List Value} (hws : v.readItems = .ok ws) :
      ws.mapM readValue = .ok bs ↔ ∀ y ∈ ns, fits y = true := by
    have hvalues := Node.forall₂_of_readItems hns hv hws
    rw [mapM_ok_iff]
    clear hns hws
    induction hvalues generalizing bs with
    | nil => simp_all
    | cons hyw _ ih =>
      obtain ⟨b, bs, hb, hbs, rfl⟩ := List.forall₂_cons_left_iff.1 h
      rw [List.forall₂_cons, List.forall_mem_cons, hread _ _ _ hb hyw]
      exact and_congr_right' (ih hbs)
  rw [listOf, bind_ok_iff, Bool.and_eq_true, Node.stands_items_iff hv,
    Node.itemList_of_readItems hns, List.all_eq_true]
  constructor
  · rintro ⟨ws, hws, hbs⟩
    exact ⟨⟨ws, hws⟩, (hitems hws).1 hbs⟩
  · rintro ⟨⟨ws, hws⟩, hfits⟩
    exact ⟨ws, hws, (hitems hws).2 hfits⟩

theorem untaggedValue_value {w : Value} (h : Source.untaggedValue n = .ok w)
    (hv : n.value = .ok v) : v = w ∧ Source.untaggedValue v = .ok v := by
  obtain rfl : v = w := Node.untaggedValue_eq n h hv
  have htag : v.hasTag = false := Node.hasTag_of_untagged _ h
  refine ⟨rfl, ?_⟩
  change (if v.hasTag then _ else _) = _
  rw [htag]
  rfl

/-- **Of several forms the same one is read**, since a node is first taken as its value. -/
theorem readForm_value {property : String} {read? : Value → Option β} {b : β}
    (h : readForm property read? n = .ok b) (hv : n.value = .ok v) :
    readForm property read? v = .ok b ∧ read? v = some b := by
  rw [readForm, bind_ok_iff] at h
  obtain ⟨w, hw, h⟩ := h
  obtain ⟨rfl, hsame⟩ := untaggedValue_value hw hv
  rw [readForm, hsame]
  split at h
  · rename_i c hc
    obtain rfl := pure_ok_iff.1 h
    exact ⟨by simp [hc], hc⟩
  · simp at h

theorem optional_readForm_value {property : String} {read? : Value → Option β}
    (hnull : read? .null = none) {o : Option β}
    (h : Source.optional (readForm property read?) n = .ok o) (hv : n.value = .ok v) :
    Source.optional (readForm property read?) v = .ok o := by
  have hread (b : β) (hb : readForm property read? n = .ok b) :
      readForm property read? v = .ok b ↔ true = true := iff_of_true (readForm_value hb hv).1 rfl
  refine (optional_value_iff h hv hread fun b hb _ _ hv' => ?_).2 (Bool.or_true _)
  subst hv'
  have hsome := (readForm_value hb hv).2
  rw [hnull] at hsome
  cases hsome

theorem listOf_readForm_value_iff {property : String} {read? : Value → Option β} {bs : List β}
    (h : listOf (readForm property read?) n = .ok bs) (hv : n.value = .ok v) :
    listOf (readForm property read?) v = .ok bs ↔ n.stands Value.isItems = true := by
  have hread : listOf (readForm property read?) v = .ok bs ↔
      (n.stands Value.isItems && n.itemList.all fun _ => true) = true :=
    listOf_value_iff h hv fun y w b hb hw => iff_of_true (readForm_value hb hw).1 rfl
  simpa using hread

theorem entries_value_iff {γ : Type} {wanted : String}
    {readNode : List (Node × Node) → Except TypeError γ} {readValue : Mapping → Except TypeError γ}
    {c : γ} (fits : List (Node × Node) → Bool) (h : (Source.entries wanted n >>= readNode) = .ok c)
    (hv : n.value = .ok v) (hread : ∀ es m, List.Forall₂ (fun y e => Node.value y.1 = .ok e.1 ∧
      Node.value y.2 = .ok e.2) es m →
      readNode es = .ok c → (readValue m = .ok c ↔ fits es = true)) :
    (Source.entries wanted v >>= readValue) = .ok c ↔
      (n.stands Value.isEntries && fits n.entryList) = true := by
  obtain ⟨es, hes, h⟩ := bind_ok_iff.1 h
  have hes : n.readEntries wanted = .ok es := hes
  rw [bind_ok_iff, Bool.and_eq_true, Node.stands_entries_iff wanted hv,
    Node.entryList_of_readEntries hes]
  constructor
  · rintro ⟨m, hm, hc⟩
    exact ⟨⟨m, hm⟩, (hread es m (Node.forall₂_of_readEntries hes hv hm) h).1 hc⟩
  · rintro ⟨⟨m, hm⟩, hfits⟩
    exact ⟨m, hm, (hread es m (Node.forall₂_of_readEntries hes hv hm) h).2 hfits⟩

theorem readMappingEntry_value {m m' : Mapping} {y : Node × Node} {e : Value × Value}
    (hye : Node.value y.1 = .ok e.1 ∧ Node.value y.2 = .ok e.2)
    (h : readMappingEntry m y = .ok m') : readMappingEntry m e = .ok m' := by
  simp only [readMappingEntry, bind_ok_iff] at h ⊢
  obtain ⟨key, hkey, h⟩ := h
  obtain rfl : e.1 = key := Except.ok.inj (hye.1.symm.trans hkey)
  refine ⟨e.1, rfl, ?_⟩
  split at h
  · simp at h
  · simp only [bind_ok_iff, pure_ok_iff] at h
    obtain ⟨w, hw, rfl⟩ := h
    obtain rfl : e.2 = w := Except.ok.inj (hye.2.symm.trans hw)
    rw [if_neg ‹_›]
    rfl

theorem readMapping_value_iff {m : Mapping} (h : readMapping n = .ok m) (hv : n.value = .ok v) :
    readMapping v = .ok m ↔ n.stands Value.isEntries = true := by
  have hread : readMapping v = .ok m ↔ (n.stands Value.isEntries && true) = true :=
    entries_value_iff (fun _ => true) h hv fun es m' hes hm =>
      iff_of_true (foldlM_of_forall₂ hes (fun _ _ _ _ => readMappingEntry_value) hm) rfl
  rw [Bool.and_true] at hread
  exact hread

theorem record_value_iff {wanted : String} {known : List String}
    {readNode : String → Node → σ → Except TypeError σ}
    {readValue : String → Value → σ → Except TypeError σ} {fits : String → Node → Bool}
    {start r : σ} (hknown : ∀ name ∈ known, Node.OnlyText name) (hnode : Settles known readNode)
    (hvalue : Settles known readValue)
    (hread : ∀ name ∈ known, ∀ y w s t, y.value = .ok w → readNode name y s = .ok t →
      (readValue name w s = .ok t ↔ fits name y = true))
    (h : record wanted known readNode start n = .ok r) (hv : n.value = .ok v) :
    record wanted known readValue start v = .ok r ↔ n.alikeFields fits = true := by
  refine entries_value_iff (fun es => es.all fun e => fits e.1.label e.2) h hv fun es m hes hr => ?_
  simp only [bind_ok_iff, pure_ok_iff] at hr ⊢
  obtain ⟨final, hfinal, rfl⟩ := hr
  rw [List.all_eq_true]
  have hnames := read_of_recordStep hnode hfinal
  constructor
  · -- Both runs end in one record, which has every field as it was read of either.
    rintro ⟨final', hfinal', hsame⟩ e he
    obtain ⟨name, hmem, hname, hfield⟩ := hnames e he
    obtain ⟨e', he', hkey, hval⟩ := exists_right_of_forall₂ hes e he
    obtain ⟨name', hmem', hname', hfield'⟩ := read_of_recordStep hvalue hfinal' e' he'
    have hsource : Source.name e'.1 = .ok name :=
      Node.readName_of_onlyText (hknown name hmem) hname hkey
    obtain rfl : name = name' := Except.ok.inj (hsource.symm.trans hname')
    rw [hsame] at hfield'
    rw [Node.label_of_readText hname]
    exact (hread name hmem _ _ _ _ hval hfield).1 hfield'
  · intro hfits
    refine ⟨final, ?_, rfl⟩
    refine foldlM_of_forall₂ ((List.forall₂_and_left _ _).2 ⟨hfits, hes⟩) ?_ hfinal
    rintro state e e' next ⟨hfit, hkey, hval⟩ hnext
    obtain ⟨name, t, hname, hmem, hmet, ht, rfl⟩ := recordStep_ok_iff.1 hnext
    rw [Node.label_of_readText hname] at hfit
    exact recordStep_ok_iff.2 ⟨name, t,
      Node.readName_of_onlyText (hknown name hmem) hname hkey, hmem, hmet,
      (hread name hmem _ _ _ _ hval ht).2 hfit, rfl⟩

/-! ## Health checks and logging -/

section Records

variable {α : Type} [Source α]

theorem HealthCheck.settles : Settles fields (readField (α := α)) where
  again := by
    intro name hname x s t h
    simp only [fields, List.mem_cons, List.not_mem_nil, or_false] at hname
    rcases hname with rfl | rfl | rfl | rfl | rfl | rfl
    all_goals
      obtain ⟨o, ho, hs⟩ := bind_ok_iff.1 h
      obtain rfl := pure_ok_iff.1 hs
      exact bind_ok_iff.2 ⟨o, ho, rfl⟩
  other := by
    intro name hname other hother hne x y s t hs ht
    simp only [fields, List.mem_cons, List.not_mem_nil, or_false] at hname hother
    rcases hname with rfl | rfl | rfl | rfl | rfl | rfl <;>
      rcases hother with rfl | rfl | rfl | rfl | rfl | rfl
    all_goals first | exact absurd rfl hne | skip
    all_goals
      obtain ⟨o, ho, hs⟩ := bind_ok_iff.1 hs
      obtain ⟨o', -, ht⟩ := bind_ok_iff.1 ht
      obtain rfl := pure_ok_iff.1 ht
      refine bind_ok_iff.2 ⟨o, ho, ?_⟩
      rw [← pure_ok_iff.1 hs]
      rfl

theorem Logging.settles : Settles fields (readField (α := α)) where
  again := by
    intro name hname x s t h
    simp only [fields, List.mem_cons, List.not_mem_nil, or_false] at hname
    rcases hname with rfl | rfl
    all_goals
      obtain ⟨o, ho, hs⟩ := bind_ok_iff.1 h
      obtain rfl := pure_ok_iff.1 hs
      exact bind_ok_iff.2 ⟨o, ho, rfl⟩
  other := by
    intro name hname other hother hne x y s t hs ht
    simp only [fields, List.mem_cons, List.not_mem_nil, or_false] at hname hother
    rcases hname with rfl | rfl <;> rcases hother with rfl | rfl
    all_goals first | exact absurd rfl hne | skip
    all_goals
      obtain ⟨o, ho, hs⟩ := bind_ok_iff.1 hs
      obtain ⟨o', -, ht⟩ := bind_ok_iff.1 ht
      obtain rfl := pure_ok_iff.1 ht
      refine bind_ok_iff.2 ⟨o, ho, ?_⟩
      rw [← pure_ok_iff.1 hs]
      rfl

end Records

theorem put_value_iff {γ : Type} {put : γ → σ} {readNode readValue : Except TypeError γ}
    {fits : Bool} {t : σ} (hput : ∀ a b, put a = put b → a = b)
    (h : (do return put (← readNode)) = .ok t)
    (hread : ∀ c, readNode = .ok c → (readValue = .ok c ↔ fits = true)) :
    (do return put (← readValue)) = .ok t ↔ fits = true := by
  obtain ⟨c, hc, ht⟩ := bind_ok_iff.1 h
  obtain rfl := pure_ok_iff.1 ht
  rw [← hread c hc, bind_ok_iff]
  constructor
  · rintro ⟨c', hc', heq⟩
    rw [hput c' c (pure_ok_iff.1 heq)] at hc'
    exact hc'
  · exact fun hc' => ⟨c, hc', rfl⟩

theorem optional_text_value_iff {o : Option String} (h : Source.optional Source.text n = .ok o)
    (hv : n.value = .ok v) : Source.optional Source.text v = .ok o ↔
    n.standsIfSet Value.isText = true :=
  optional_scalar_value_iff rfl (fun _ hb => Node.readText_value_iff hb hv) h hv

theorem optional_flag_value_iff {o : Option Bool} (h : Source.optional Source.flag n = .ok o)
    (hv : n.value = .ok v) : Source.optional Source.flag v = .ok o ↔
    n.standsIfSet Value.isFlag = true :=
  optional_scalar_value_iff rfl (fun _ hb => Node.readFlag_value_iff hb hv) h hv

theorem optional_count_value_iff {o : Option Nat} (h : Source.optional Source.count n = .ok o)
    (hv : n.value = .ok v) : Source.optional Source.count v = .ok o ↔
    n.standsIfSet Value.isInteger = true :=
  optional_scalar_value_iff rfl (fun _ hb => Node.readCount_value_iff hb hv) h hv

theorem value_bind_value {γ : Type} {next : Value → Except TypeError γ} {c : γ}
    (h : (Source.value n >>= next) = .ok c) (hv : n.value = .ok v) :
    (Source.value v >>= next) = .ok c := by
  obtain ⟨w, hw, h⟩ := bind_ok_iff.1 h
  obtain rfl : v = w := Except.ok.inj (hv.symm.trans hw)
  exact h

namespace HealthCheck

/-- The node of a field and its value say the same. -/
def alikeField (name : String) (n : Node) : Bool :=
  match name with
  | "test" => true
  | "interval" | "timeout" | "start_period" => n.standsIfSet Value.isText
  | "retries" => n.standsIfSet Value.isInteger
  | _ => n.standsIfSet Value.isFlag

theorem readField_value_iff {name : String} (hname : name ∈ fields) {s t : HealthCheck}
    (hv : n.value = .ok v) (h : readField name n s = .ok t) :
    readField name v s = .ok t ↔ alikeField name n = true := by
  simp only [fields, List.mem_cons, List.not_mem_nil, or_false] at hname
  rcases hname with rfl | rfl | rfl | rfl | rfl | rfl
  · exact put_value_iff (by simp) h fun o ho => iff_of_true (optional_readForm_value rfl ho hv) rfl
  · exact put_value_iff (by simp) h fun o ho => optional_text_value_iff ho hv
  · exact put_value_iff (by simp) h fun o ho => optional_text_value_iff ho hv
  · exact put_value_iff (by simp) h fun o ho => optional_text_value_iff ho hv
  · exact put_value_iff (by simp) h fun o ho => optional_count_value_iff ho hv
  · exact put_value_iff (by simp) h fun o ho => optional_flag_value_iff ho hv

theorem read_value_iff {c : HealthCheck} (h : HealthCheck.read n = .ok c) (hv : n.value = .ok v) :
    HealthCheck.read v = .ok c ↔ n.alikeFields alikeField = true :=
  record_value_iff (by decide +kernel) settles settles
    (fun _ hname _ _ _ _ hv h => readField_value_iff hname hv h) h hv

end HealthCheck

namespace Logging

/-- The node of a field and its value say the same. -/
def alikeField (name : String) (n : Node) : Bool :=
  match name with
  | "driver" => n.standsIfSet Value.isText
  | _ => true

theorem readField_value_iff {name : String} (hname : name ∈ fields) {s t : Logging}
    (hv : n.value = .ok v) (h : readField name n s = .ok t) :
    readField name v s = .ok t ↔ alikeField name n = true := by
  simp only [fields, List.mem_cons, List.not_mem_nil, or_false] at hname
  rcases hname with rfl | rfl
  · exact put_value_iff (by simp) h fun o ho => optional_text_value_iff ho hv
  · exact put_value_iff (by simp) h fun d hd => iff_of_true (value_bind_value hd hv) rfl

theorem read_value_iff {l : Logging} (h : Logging.read n = .ok l) (hv : n.value = .ok v) :
    Logging.read v = .ok l ↔ n.alikeFields alikeField = true :=
  record_value_iff (by decide +kernel) settles settles
    (fun _ hname _ _ _ _ hv h => readField_value_iff hname hv h) h hv

end Logging

/-! ## Kinds -/

namespace Kind

/-- A node of a property and its value say the same of it: a text, a boolean, a number or a
collection that is asked for is one to the value. What is first taken as a value says the same of
itself. -/
def alike (k : Kind) (n : Node) : Bool :=
  match k with
  | .text => n.standsIfSet Value.isText
  | .flag => n.standsIfSet Value.isFlag
  | .texts => n.stands Value.isItems && n.itemList.all (·.stands Value.isText)
  | .textsOrNumbers | .grants | .ports | .volumes => n.stands Value.isItems
  | .mapping => n.standsIfSet Value.isEntries
  | .healthCheck => n.unset || n.alikeFields HealthCheck.alikeField
  | .logging => n.unset || n.alikeFields Logging.alikeField
  | .textOrList | .textOrNumber | .pairs | .labels | .build | .networks => true

theorem ne_null_of_entries {γ : Type} {wanted : String}
    {next : List (Node × Node) → Except TypeError γ} {c : γ}
    (h : (Source.entries wanted n >>= next) = .ok c) (hset : n.isUnset = .ok false)
    (hv : n.value = .ok v) : v ≠ .null := by
  obtain ⟨es, hes, -⟩ := bind_ok_iff.1 h
  exact Node.ne_null_of_readEntries hes hset hv

/-- **The same property is read of a node and of its value** exactly if they say the same of it. -/
theorem read_value_iff {k : Kind} {c : k.Carrier} (h : k.read n = .ok c) (hv : n.value = .ok v) :
    k.read v = .ok c ↔ k.alike n = true := by
  cases k with
  | text => exact optional_text_value_iff h hv
  | flag => exact optional_flag_value_iff h hv
  | texts => exact listOf_value_iff h hv fun y w b hb hw => Node.readText_value_iff hb hw
  | textsOrNumbers | grants | ports | volumes => exact listOf_readForm_value_iff h hv
  | textOrList | textOrNumber | build | networks =>
    exact iff_of_true (optional_readForm_value rfl h hv) rfl
  | pairs => exact iff_of_true (value_bind_value h hv) rfl
  | labels => exact iff_of_true (value_bind_value h hv) rfl
  | mapping =>
    exact optional_value_iff h hv (fun m hm => readMapping_value_iff hm hv) fun m hm hset _ =>
      ne_null_of_entries hm hset hv
  | healthCheck =>
    exact optional_value_iff h hv (fun b hb => HealthCheck.read_value_iff hb hv) fun b hb hset _ =>
      ne_null_of_entries hb hset hv
  | logging =>
    exact optional_value_iff h hv (fun b hb => Logging.read_value_iff hb hv) fun b hb hset _ =>
      ne_null_of_entries hb hset hv

end Kind

end ComposePods

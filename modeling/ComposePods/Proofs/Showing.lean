import ComposePods.Compose.Health
import ComposePods.Proofs.Lookups
import ComposePods.Proofs.Records

/-!
# Values in sources

A typed property is read from a document value or straight from a text. The readers ask a source
their own questions and never look at the value that the source stands for; here these questions are
tied to that value, and then the readers that are built from them. So a round trip is proved once
for all sources.

* `Source.Showing`: a source in which document values are seen, and what it then answers;
* the instance for `Value`, in which every value is seen as it is;
* `Source.Runs`, `foldlM_of_shows`: a reader that goes over the entries of a record;
* `optional_of_shows`, `listOf_of_shows`, `record_of_shows`: readers built from the questions;
* `readForm_of_shows`, `readPairs_of_shows`, `readLabels_of_shows`, `readMapping_of_shows`: the
  readers of single properties.
-/

namespace ComposePods

namespace Source

/-- A source in which document values are seen. What it answers is decided by the value seen. -/
class Showing (α : Type) [Source α] where
  Shows : α → Value → Prop
  isUnset_of_shows {x : α} {v : Value} : Shows x v → isUnset x = .ok (decide (v = .null))
  text_of_shows {x : α} {s : String} : Shows x (.string s) → text x = .ok s
  flag_of_shows {x : α} {b : Bool} : Shows x (.bool b) → flag x = .ok b
  count_of_shows {x : α} {n : Nat} : Shows x (.ofNat n) → count x = .ok n
  items_of_shows {x : α} {vs : List Value} : Shows x (.sequence vs) →
    ∃ xs, items x = .ok xs ∧ List.Forall₂ Shows xs vs
  entries_of_shows {x : α} {es : Mapping} (wanted : String) : Shows x (.mapping es) →
    ∃ xs, entries wanted x = .ok xs ∧
      List.Forall₂ (fun y e => Shows y.1 e.1 ∧ Shows y.2 e.2) xs es
  name_of_shows {x : α} {s : String} : Shows x (.string s) → name x = .ok s
  value_of_shows {x : α} {v : Value} : Shows x v → value x = .ok v
  untaggedValue_of_shows {x : α} {v : Value} : Shows x v → v.hasTag = false →
    untaggedValue x = .ok v
  hasTag_of_untaggedValue {x : α} {v : Value} : untaggedValue x = .ok v → v.hasTag = false

/-- Every value is seen as it is. -/
instance : Showing Value where
  Shows x v := x = v
  isUnset_of_shows := by
    rintro x v rfl
    cases x <;> rfl
  text_of_shows := by
    rintro x s rfl
    rfl
  flag_of_shows := by
    rintro x b rfl
    rfl
  count_of_shows := by
    rintro x n rfl
    have hn : ¬(n : Int) < 0 := by omega
    simp [count, Value.readCount, Value.ofNat, Value.untagged, hn]
  items_of_shows := by
    rintro x vs rfl
    exact ⟨vs, rfl, List.forall₂_same.2 fun _ _ => rfl⟩
  entries_of_shows := by
    rintro x es wanted rfl
    exact ⟨es, rfl, List.forall₂_same.2 fun _ _ => ⟨rfl, rfl⟩⟩
  name_of_shows := by
    rintro x s rfl
    rfl
  value_of_shows := by
    rintro x v rfl
    rfl
  untaggedValue_of_shows := by
    rintro x v rfl h
    change (if x.hasTag then _ else Except.ok x) = Except.ok x
    rw [h]
    rfl
  hasTag_of_untaggedValue := by
    intro x v h
    change (if x.hasTag then Except.error TypeError.taggedForm else Except.ok x) = Except.ok v at h
    split at h
    · cases h
    · cases h
      exact Bool.eq_false_iff.2 ‹_›

end Source

open Source Source.Showing

section Readers

variable {α β σ : Type} [Source α] [Showing α] {x : α}

/-! ## Readers built from the questions -/

theorem optional_of_shows {read : α → Except TypeError β} {v : Value} {b : β} (h : Shows x v)
    (hv : v ≠ .null) (hread : read x = .ok b) : Source.optional read x = .ok (some b) := by
  rw [Source.optional, isUnset_of_shows h, hread]
  simp [hv, bind, Except.bind, Functor.map, Except.map]

theorem listOf_of_shows {read : α → Except TypeError β} {write : β → Value} {bs : List β}
    (h : Shows x (.sequence (bs.map write)))
    (hread : ∀ b ∈ bs, ∀ y, Shows y (write b) → read y = .ok b) : listOf read x = .ok bs := by
  obtain ⟨ys, hys, hshows⟩ := items_of_shows h
  rw [listOf, hys]
  refine mapM_ok_iff.2 ?_
  have hmem := (List.forall₂_and_left bs ys).2
    ⟨fun _ hb => hb, (List.forall₂_map_right_iff.1 hshows).flip⟩
  exact hmem.flip.imp fun y b hyb => hread b hyb.1 y hyb.2

/-- A reader goes from one state to another one over the fields that are set. -/
def Source.Runs (step : σ → α × α → Except TypeError σ) :
    List (String × Option Value) → σ → σ → Prop
  | [], s, t => s = t
  | (_, none) :: fields, s, t => Runs step fields s t
  | (name, some v) :: fields, s, t =>
    ∃ u, (∀ y : α × α, Shows y.1 (.string name) → Shows y.2 v → step s y = .ok u) ∧
      Runs step fields u t

theorem Source.Runs.field {step : σ → α × α → Except TypeError σ} {name : String}
    {write : β → Value} {o : Option β} {fields : List (String × Option Value)} {s t : σ}
    (put : Option β → σ) (hnone : s = put none)
    (hread : ∀ b ∈ o, ∀ y : α × α, Shows y.1 (.string name) → Shows y.2 (write b) →
      step s y = .ok (put (some b)))
    (h : Runs step fields (put o) t) : Runs step ((name, o.map write) :: fields) s t := by
  cases o with
  | none => exact hnone ▸ h
  | some b => exact ⟨put (some b), hread b rfl, h⟩

theorem Source.Runs.append {step : σ → α × α → Except TypeError σ}
    {fields fields' : List (String × Option Value)} {s t u : σ} (h : Runs step fields s t)
    (h' : Runs step fields' t u) : Runs step (fields ++ fields') s u := by
  induction fields generalizing s with
  | nil =>
    obtain rfl : s = t := h
    exact h'
  | cons f fields ih =>
    obtain ⟨name, o⟩ := f
    cases o with
    | none => exact ih h
    | some v =>
      obtain ⟨next, hnext, h⟩ := h
      exact ⟨next, hnext, ih h⟩

/-- **The entries of a record** take its reader over the fields that are set. -/
theorem foldlM_of_shows {step : σ → α × α → Except TypeError σ}
    {fields : List (String × Option Value)} {s t : σ} (wanted : String)
    (h : Shows x (.record fields)) (hruns : Runs step fields s t) :
    ∃ ys, entries wanted x = .ok ys ∧ ys.foldlM step s = .ok t := by
  obtain ⟨ys, hys, hshows⟩ := entries_of_shows wanted h
  refine ⟨ys, hys, ?_⟩
  clear h hys
  induction fields generalizing ys s with
  | nil =>
    cases hshows
    obtain rfl : s = t := hruns
    rfl
  | cons f fields ih =>
    obtain ⟨name, o⟩ := f
    cases o with
    | none => exact ih hruns ys hshows
    | some v =>
      obtain ⟨u, hu, hruns⟩ := hruns
      simp only [List.filterMap_cons, Option.map_some] at hshows
      obtain ⟨y, rest, ⟨hn, hv⟩, hrest, rfl⟩ := List.forall₂_cons_right_iff.1 hshows
      rw [List.foldlM_cons, hu y hn hv]
      exact ih hruns rest hrest

/-! ## Records -/

/-- The steps of a record's reader: each field that is set takes the record from one state to the
next. -/
def Source.Steps (read : String → α → σ → Except TypeError σ) :
    List (String × Option Value) → σ → σ → Prop
  | [], s, t => s = t
  | (_, none) :: fields, s, t => Steps read fields s t
  | (name, some v) :: fields, s, t =>
    ∃ u, (∀ y, Shows y v → read name y s = .ok u) ∧ Steps read fields u t

theorem Source.Steps.field {read : String → α → σ → Except TypeError σ} {name : String}
    {write : β → Value} {o : Option β} {fields : List (String × Option Value)} {s t : σ}
    (put : Option β → σ) (hnone : s = put none) (hread : ∀ b, ∀ y, Shows y (write b) →
      read name y s = .ok (put (some b)))
    (h : Steps read fields (put o) t) : Steps read ((name, o.map write) :: fields) s t := by
  cases o with
  | none => exact hnone ▸ h
  | some b => exact ⟨put (some b), hread b, h⟩

theorem runs_recordStep {known : List String} {read : String → α → σ → Except TypeError σ}
    {fields : List (String × Option Value)} {met : List String} {s final : σ}
    (hknown : ∀ f ∈ fields, f.1 ∈ known) (hnames : (fields.map Prod.fst).Nodup)
    (hmet : ∀ f ∈ fields, f.1 ∉ met) (hsteps : Steps read fields s final) :
    ∃ met', Runs (recordStep known read) fields (met, s) (met', final) := by
  induction fields generalizing met s with
  | nil =>
    obtain rfl : s = final := hsteps
    exact ⟨met, rfl⟩
  | cons f fields ih =>
    obtain ⟨n, o⟩ := f
    rw [List.map_cons, List.nodup_cons] at hnames
    rw [List.forall_mem_cons] at hknown hmet
    cases o with
    | none => exact ih hknown.2 hnames.2 hmet.2 hsteps
    | some v =>
      obtain ⟨u, hu, hsteps⟩ := hsteps
      have hnew : ∀ g ∈ fields, g.1 ∉ n :: met := by
        intro g hg hmem
        rcases List.mem_cons.1 hmem with heq | hmem
        · exact hnames.1 (List.mem_map.2 ⟨g, hg, heq⟩)
        · exact hmet.2 g hg hmem
      obtain ⟨met', hruns⟩ := ih hknown.2 hnames.2 hnew hsteps
      refine ⟨met', (n :: met, u), fun y hn hv => ?_, hruns⟩
      simp [recordStep, name_of_shows hn, hknown.1, hmet.1, hu _ hv]

/-- **A record is read field by field.** -/
theorem record_of_shows {wanted : String} {known : List String}
    {read : String → α → σ → Except TypeError σ} {fields : List (String × Option Value)}
    {start final : σ} (h : Shows x (.record fields)) (hknown : ∀ f ∈ fields, f.1 ∈ known)
    (hnames : (fields.map Prod.fst).Nodup) (hsteps : Steps read fields start final) :
    record wanted known read start x = .ok final := by
  obtain ⟨met, hruns⟩ := runs_recordStep hknown hnames (fun _ _ => List.not_mem_nil) hsteps
  obtain ⟨ys, hys, hfold⟩ := foldlM_of_shows wanted h hruns
  rw [record, hys]
  simp [hfold]

/-! ## Readers of single properties -/

theorem readForm_of_shows {property : String} {read? : Value → Option β} {v : Value} {b : β}
    (h : Shows x v) (htag : v.hasTag = false) (hread : read? v = some b) :
    readForm property read? x = .ok b := by
  rw [readForm, untaggedValue_of_shows h htag]
  simp [bind, Except.bind, hread]

end Readers

/-! ## Loosely written properties -/

section Loose

variable {α : Type} [Source α] [Showing α] {x : α}

theorem readPairs_of_shows {d : Dict (Option String)} (h : Shows x (.ofPairs d)) :
    readPairs x = .ok d := by
  rw [readPairs, value_of_shows h]
  simp [bind, Except.bind, Value.pairs?_ofPairs]

theorem readLabels_of_shows {d : Dict String} (h : Shows x (.ofLabels d)) :
    readLabels x = .ok d := by
  rw [readLabels, value_of_shows h]
  simp [bind, Except.bind, Value.labels?_ofLabels]

end Loose

/-! ## Mappings of document values -/

section Mappings

variable {α : Type} [Source α] [Showing α] {x : α}

theorem foldlM_readMappingEntry {read es : Mapping} {ys : List (α × α)}
    (hshows : List.Forall₂ (fun y e => Shows y.1 e.1 ∧ Shows y.2 e.2) ys es)
    (hm : Mapping.Distinct (read ++ es)) : ys.foldlM readMappingEntry read = .ok (read ++ es) := by
  induction hshows generalizing read with
  | nil => simp
  | @cons y e ys es hye _ ih =>
    have hnew := Mapping.not_contains_of_distinct hm
    have hstep : readMappingEntry read y = .ok (read ++ [e]) := by
      simp [readMappingEntry, value_of_shows hye.1, value_of_shows hye.2, hnew]
    have hmove : read ++ e :: es = read ++ [e] ++ es := by simp
    rw [List.foldlM_cons, hstep, hmove]
    exact ih (hmove ▸ hm)

/-- **A mapping without a repeated key** is read as it is. -/
theorem readMapping_of_shows {m : Mapping} (h : Shows x (.mapping m)) (hm : Mapping.Distinct m) :
    readMapping x = .ok m := by
  obtain ⟨ys, hys, hshows⟩ := entries_of_shows "a YAML mapping" h
  rw [readMapping, hys]
  exact foldlM_readMappingEntry hshows hm

theorem distinct_of_readMapping {α : Type} [Source α] {x : α} {m : Mapping}
    (h : readMapping x = .ok m) : Mapping.Distinct m := by
  rw [readMapping, bind_ok_iff] at h
  obtain ⟨ys, -, h⟩ := h
  refine foldlM_preserves (fun read y _ next hread hnext => ?_) List.Pairwise.nil h
  simp only [readMappingEntry, bind_ok_iff] at hnext
  obtain ⟨key, -, hnext⟩ := hnext
  split at hnext
  · simp at hnext
  · rename_i hnew
    simp only [bind_ok_iff, pure_ok_iff] at hnext
    obtain ⟨v, -, rfl⟩ := hnext
    exact Mapping.distinct_concat hread (Bool.eq_false_iff.2 hnew) _

end Mappings

end ComposePods

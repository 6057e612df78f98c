import ComposePods.Value.Order

/-!
# Mappings

A mapping is a list of entries in the order in which their keys first came. All look-ups compare
keys by `Value.same`.

* `Mapping.get?`, `Mapping.contains`, `Mapping.keys`;
* `Mapping.insert`: a new key comes last, a known key keeps its place;
* `Mapping.adjust`: change the value of a key in place;
* `Mapping.pluck`: take an entry out, the last entry moving into its place;
* `Mapping.Distinct`: no two entries have the same key.
-/

namespace ComposePods

namespace Mapping

/-- The keys of the entries, in order. -/
def keys (m : Mapping) : List Value := m.map Prod.fst

/-- The value of the first entry with the key. -/
def get? : Mapping → Value → Option Value
  | [], _ => none
  | (l, v) :: rest, k => if l.same k then some v else get? rest k

/-- Some entry has the key. -/
def contains (m : Mapping) (k : Value) : Bool := (get? m k).isSome

/-- Change the value of the first entry with the key; without one nothing changes. -/
def adjust (f : Value → Value) : Mapping → Value → Mapping
  | [], _ => []
  | (l, v) :: rest, k => if l.same k then (l, f v) :: rest else (l, v) :: adjust f rest k

/-- Set the value of a key: a known key keeps its place, a new key comes last. -/
def insert : Mapping → Value → Value → Mapping
  | [], k, v => [(k, v)]
  | (l, w) :: rest, k, v => if l.same k then (l, v) :: rest else (l, w) :: insert rest k v

/-- The entries inserted one after the other into an empty mapping. -/
def ofList (entries : List (Value × Value)) : Mapping :=
  entries.foldl (fun m e => insert m e.1 e.2) []

/-- Insert the entries of `own` one after the other over `base`. -/
def overlay (base own : Mapping) : Mapping := own.foldl (fun m e => insert m e.1 e.2) base

/-- The value of a key and the other entries, the last of which takes the place of the one
removed. -/
def pluck (m : Mapping) (k : Value) : Option Value × Mapping :=
  match m.findIdx? (fun e => e.1.same k) with
  | none => (none, m)
  | some i =>
    let rest := m.dropLast
    match m.getLast? with
    | some last => (get? m k, if i < rest.length then rest.set i last else rest)
    | none => (none, m)

/-- No two entries have the same key. -/
def Distinct (m : Mapping) : Prop := m.Pairwise fun a b => a.1.same b.1 = false

instance (m : Mapping) : Decidable (Distinct m) := by unfold Distinct; infer_instance

/-! ## Look-ups after each operation -/

theorem get?_insert_self (m : Mapping) (k v : Value) : get? (insert m k v) k = some v := by
  induction m with
  | nil => simp [insert, get?]
  | cons e rest ih =>
    obtain ⟨l, w⟩ := e
    by_cases h : l.same k <;> simp [insert, get?, h, ih]

theorem get?_insert_of_ne (m : Mapping) {k k' : Value} (v : Value) (h : k.same k' = false) :
    get? (insert m k v) k' = get? m k' := by
  induction m with
  | nil => simp [insert, get?, h]
  | cons e rest ih =>
    obtain ⟨l, w⟩ := e
    by_cases hl : l.same k
    · have hk' : l.same k' = false := by
        rw [Bool.eq_false_iff]
        intro hlk
        rw [Value.same_trans (by rw [Value.same_comm]; exact hl) hlk] at h
        cases h
      simp [insert, get?, hl, hk']
    · by_cases hk' : l.same k' <;> simp [insert, get?, hl, hk', ih]

theorem keys_adjust (f : Value → Value) (m : Mapping) (k : Value) :
    keys (adjust f m k) = keys m := by
  induction m with
  | nil => rfl
  | cons e rest ih =>
    obtain ⟨l, w⟩ := e
    by_cases hl : l.same k <;> simp_all [adjust, keys]

end Mapping

end ComposePods

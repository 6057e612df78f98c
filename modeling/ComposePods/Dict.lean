/-!
# Dictionaries

A dictionary maps strings to values of one type and keeps its entries in ascending order of their
keys, so that two dictionaries with the same entries are equal.

* `Dict`: the entries with the proof of their order;
* `Dict.insert`, `Dict.get?`, `Dict.erase`, `Dict.ofList`, `Dict.map`.
-/

namespace ComposePods

/-- Entries in strictly ascending order of their keys. -/
def Ascending {α : Type} (entries : List (String × α)) : Prop :=
  entries.Pairwise fun a b => compare a.1 b.1 = .lt

/-- A finite map from strings, its entries in ascending order of the keys. -/
structure Dict (α : Type) where
  entries : List (String × α)
  ascending : Ascending entries

namespace Dict

variable {α β : Type}

instance [DecidableEq α] : DecidableEq (Dict α) := fun a b =>
  if h : a.entries = b.entries then isTrue (by cases a; cases b; cases h; rfl)
  else isFalse fun e => h (e ▸ rfl)

/-- The dictionary without entries. -/
def empty : Dict α := ⟨[], List.Pairwise.nil⟩

instance : Inhabited (Dict α) := ⟨empty⟩

/-- Put an entry in its place, replacing one of the same key. -/
def insertEntry (k : String) (v : α) : List (String × α) → List (String × α)
  | [] => [(k, v)]
  | (l, w) :: rest =>
    match compare k l with
    | .lt => (k, v) :: (l, w) :: rest
    | .eq => (k, v) :: rest
    | .gt => (l, w) :: insertEntry k v rest

theorem mem_insertEntry {k : String} {v : α} {es : List (String × α)} {e : String × α}
    (h : e ∈ insertEntry k v es) : e = (k, v) ∨ e ∈ es := by
  induction es with
  | nil => simpa [insertEntry] using h
  | cons x rest ih =>
    obtain ⟨l, w⟩ := x
    unfold insertEntry at h
    split at h
    · simpa using h
    · rcases List.mem_cons.1 h with h | h
      · exact .inl h
      · exact .inr (List.mem_cons_of_mem _ h)
    · rcases List.mem_cons.1 h with h | h
      · exact .inr (h ▸ List.mem_cons_self)
      · exact (ih h).imp_right (List.mem_cons_of_mem _)

theorem ascending_insertEntry (k : String) (v : α) {es : List (String × α)} (h : Ascending es) :
    Ascending (insertEntry k v es) := by
  induction es with
  | nil => simp [insertEntry, Ascending]
  | cons x rest ih =>
    obtain ⟨l, w⟩ := x
    obtain ⟨hl, hr⟩ := List.pairwise_cons.1 h
    unfold insertEntry
    split
    · rename_i hkl
      refine List.pairwise_cons.2 ⟨fun e he => ?_, h⟩
      rcases List.mem_cons.1 he with rfl | he
      · exact hkl
      · exact Std.TransCmp.lt_trans hkl (hl e he)
    · rename_i hkl
      obtain rfl : k = l := Std.LawfulEqCmp.eq_of_compare hkl
      exact List.pairwise_cons.2 ⟨hl, hr⟩
    · rename_i hkl
      refine List.pairwise_cons.2 ⟨fun e he => ?_, ih hr⟩
      rcases mem_insertEntry he with rfl | he
      · exact Std.OrientedCmp.lt_of_gt hkl
      · exact hl e he

/-- Set the value of a key. -/
def insert (d : Dict α) (k : String) (v : α) : Dict α :=
  ⟨insertEntry k v d.entries, ascending_insertEntry k v d.ascending⟩

/-- The value of a key. -/
def get? (d : Dict α) (k : String) : Option α := d.entries.lookup k

/-- Some entry has the key. -/
def contains (d : Dict α) (k : String) : Bool := d.entries.any (·.1 == k)

/-- The keys, ascending. -/
def keys (d : Dict α) : List String := d.entries.map Prod.fst

/-- There is no entry. -/
def isEmpty (d : Dict α) : Bool := d.entries.isEmpty

/-- The entries other than that of the key. -/
def erase (d : Dict α) (k : String) : Dict α :=
  ⟨d.entries.filter (·.1 != k), d.ascending.filter _⟩

/-- The entries inserted one after the other: of two values of a key the last stays. -/
def ofList (entries : List (String × α)) : Dict α :=
  entries.foldl (fun d e => d.insert e.1 e.2) empty

/-- Apply a function to every value. -/
def map (f : α → β) (d : Dict α) : Dict β :=
  ⟨d.entries.map fun e => (e.1, f e.2), by
    have h := d.ascending
    simp only [Ascending, List.pairwise_map] at *
    exact h⟩

@[simp] theorem entries_empty : (empty : Dict α).entries = [] := rfl

@[ext] theorem ext {a b : Dict α} (h : a.entries = b.entries) : a = b := by
  cases a; cases b; cases h; rfl

end Dict

end ComposePods

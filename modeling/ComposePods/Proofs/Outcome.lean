import Mathlib.Data.List.Forall2

/-!
# Steps that may fail

A reader is a sequence of steps each of which may fail. It succeeds exactly when all of its steps
do, so a success can be taken apart step by step and put together again.

* `bind_ok_iff`, `pure_ok_iff`, `map_ok_iff`, `throw_ne_ok`: success of one step;
* `bind_error_iff`, `pure_ne_error`: failure of one step;
* `mapM_ok_iff`, `exists_mapM_ok_iff`, `mapM_some_iff`, `mapM_congr`: a step for every item of a
  list;
* `mapM_error_iff`, `foldlM_error_iff`: the steps before the one that fails succeed;
* `Agree`, `Agree.mapM`: two outcomes that are the same error or have related results;
* `exists_foldlM_ok_iff`: a run succeeds exactly if all of its steps do;
* **`foldlM_preserves`**: what every step keeps holds at the end;
* `foldlM_of_forall₂`, `exists_step_of_foldlM`: two runs in step, and one step of a run;
* `RaisesOnly`: the errors that a step can end with.
-/

namespace ComposePods

variable {ε ε' α β γ σ : Type}

/-! ## One step after another -/

@[simp] theorem bind_ok_iff {first : Except ε α} {next : α → Except ε β} {b : β} :
    first >>= next = .ok b ↔ ∃ a, first = .ok a ∧ next a = .ok b := by
  cases first <;> simp [bind, Except.bind]

@[simp] theorem pure_ok_iff {a b : α} : (pure a : Except ε α) = .ok b ↔ a = b := by
  simp [pure, Except.pure]

@[simp] theorem map_ok_iff {first : Except ε α} {f : α → β} {b : β} :
    f <$> first = .ok b ↔ ∃ a, first = .ok a ∧ f a = b := by
  cases first <;> simp [Functor.map, Except.map]

@[simp] theorem throw_ne_ok {e : ε} {a : α} : (throw e : Except ε α) ≠ .ok a := by
  simp [throw, throwThe, MonadExceptOf.throw]

theorem bind_error_iff {first : Except ε α} {next : α → Except ε β} {e : ε} :
    first >>= next = .error e ↔ first = .error e ∨ ∃ a, first = .ok a ∧ next a = .error e := by
  cases first <;> simp [bind, Except.bind]

@[simp] theorem pure_ne_error {a : α} {e : ε} : (pure a : Except ε α) ≠ .error e := nofun

@[simp] theorem mapError_ok_iff {first : Except ε α} {word : ε → ε'} {a : α} :
    first.mapError word = .ok a ↔ first = .ok a := by
  cases first <;> simp [Except.mapError]

@[simp] theorem mapError_error_iff {first : Except ε α} {word : ε → ε'} {e' : ε'} :
    first.mapError word = .error e' ↔ ∃ e, first = .error e ∧ word e = e' := by
  cases first <;> simp [Except.mapError]

theorem exists_ok_of_isOk {first : Except ε α} (h : first.isOk = true) : ∃ a, first = .ok a := by
  cases first with
  | error e => cases h
  | ok a => exact ⟨a, rfl⟩

theorem toOption_some_iff {first : Except ε α} {a : α} :
    first.toOption = some a ↔ first = .ok a := by
  cases first <;> simp [Except.toOption]

theorem mapError_bind (first : Except ε α) (next : α → Except ε β) (word : ε → ε') :
    (first >>= next).mapError word = first.mapError word >>= fun a => (next a).mapError word := by
  cases first <;> rfl

/-! ## A step for every item -/

theorem mapM_ok_iff {f : α → Except ε β} {xs : List α} {ys : List β} :
    xs.mapM f = .ok ys ↔ List.Forall₂ (fun x y => f x = .ok y) xs ys := by
  induction xs generalizing ys with
  | nil => cases ys <;> simp
  | cons x xs ih =>
    rw [List.mapM_cons, bind_ok_iff]
    cases ys <;> simp [ih]

theorem exists_right_of_forall₂ {R : α → β → Prop} {xs : List α} {ys : List β}
    (h : List.Forall₂ R xs ys) : ∀ x ∈ xs, ∃ y ∈ ys, R x y := by
  induction h with
  | nil => exact nofun
  | cons hxy _ ih =>
    refine List.forall_mem_cons.2 ⟨⟨_, List.mem_cons_self, hxy⟩, fun x hx => ?_⟩
    obtain ⟨y, hy, hR⟩ := ih x hx
    exact ⟨y, List.mem_cons_of_mem _ hy, hR⟩

theorem exists_ok_of_mapM_ok {f : α → Except ε β} {xs : List α} {ys : List β}
    (h : xs.mapM f = .ok ys) : ∀ x ∈ xs, ∃ y, f x = .ok y := by
  intro x hx
  obtain ⟨y, -, hy⟩ := exists_right_of_forall₂ (mapM_ok_iff.1 h) x hx
  exact ⟨y, hy⟩

theorem mapM_error_iff {f : α → Except ε β} {xs : List α} {e : ε} :
    xs.mapM f = .error e ↔
      ∃ before x after, xs = before ++ x :: after ∧ (∀ y ∈ before, ∃ b, f y = .ok b) ∧
      f x = .error e := by
  induction xs with
  | nil => simp
  | cons x xs ih =>
    simp only [List.mapM_cons, bind_error_iff, pure_ne_error, and_false, exists_false, or_false, ih]
    constructor
    · rintro (hx | ⟨b, hx, before, y, after, rfl, hbefore, hy⟩)
      · exact ⟨[], x, xs, rfl, nofun, hx⟩
      · exact ⟨x :: before, y, after, rfl, List.forall_mem_cons.2 ⟨⟨b, hx⟩, hbefore⟩, hy⟩
    · rintro ⟨before, y, after, hsplit, hbefore, hy⟩
      rcases List.cons_eq_append_iff.1 hsplit with ⟨rfl, htail⟩ | ⟨before, rfl, rfl⟩
      · cases htail
        exact .inl hy
      · obtain ⟨⟨b, hx⟩, hbefore⟩ := List.forall_mem_cons.1 hbefore
        exact .inr ⟨b, hx, before, y, after, rfl, hbefore, hy⟩

theorem exists_mapM_ok_iff {f : α → Except ε β} {xs : List α} :
    (∃ ys, xs.mapM f = .ok ys) ↔ ∀ x ∈ xs, ∃ y, f x = .ok y := by
  constructor
  · rintro ⟨ys, h⟩
    exact exists_ok_of_mapM_ok h
  · intro h
    rcases hxs : xs.mapM f with e | ys
    · obtain ⟨before, x, after, rfl, -, hx⟩ := mapM_error_iff.1 hxs
      obtain ⟨y, hy⟩ := h x (List.mem_append_right _ List.mem_cons_self)
      rw [hx] at hy
      cases hy
    · exact ⟨ys, rfl⟩

theorem mapM_eq_of_forall₂ {f : α → Except ε γ} {g : β → Except ε γ} {xs : List α} {ys : List β}
    (h : List.Forall₂ (fun x y => f x = g y) xs ys) : xs.mapM f = ys.mapM g := by
  induction h with
  | nil => rfl
  | cons hxy _ ih => rw [List.mapM_cons, List.mapM_cons, hxy, ih]

theorem mapM_congr {f g : α → Except ε β} {xs : List α} (h : ∀ x ∈ xs, f x = g x) :
    xs.mapM f = xs.mapM g :=
  mapM_eq_of_forall₂ (List.forall₂_same.2 h)

theorem mapM_mapError (f : α → Except ε β) (xs : List α) (word : ε → ε') :
    (xs.mapM fun x => (f x).mapError word) = (xs.mapM f).mapError word := by
  induction xs with
  | nil => rfl
  | cons x xs ih =>
    rw [List.mapM_cons, List.mapM_cons, ih, mapError_bind]
    simp only [mapError_bind]
    rfl

theorem exists_map_of_mapM_ok [Inhabited β] {f : α → Except ε β} {xs : List α} {ys : List β}
    (h : xs.mapM f = .ok ys) : ∃ g : α → β, (∀ x ∈ xs, f x = .ok (g x)) ∧ ys = xs.map g := by
  let g : α → β := fun x => (f x).toOption.getD default
  have hg {x : α} {y : β} (hx : f x = .ok y) : g x = y := by simp [g, hx, Except.toOption]
  refine ⟨g, ?_⟩
  rw [mapM_ok_iff] at h
  induction h with
  | nil => simp
  | cons hx _ ih =>
    obtain ⟨ih, rfl⟩ := ih
    refine ⟨?_, by rw [List.map_cons, hg hx]⟩
    intro x hmem
    rcases List.mem_cons.1 hmem with rfl | hmem
    · rw [hg hx, hx]
    · exact ih x hmem

theorem mapM_some_iff {f : α → Option β} {xs : List α} {ys : List β} :
    xs.mapM f = some ys ↔ List.Forall₂ (fun x y => f x = some y) xs ys := by
  induction xs generalizing ys with
  | nil => cases ys <;> simp
  | cons x xs ih =>
    rw [List.mapM_cons]
    cases ys <;> simp [Option.bind_eq_some_iff, ih]

/-! ## Two outcomes -/

/-- Two outcomes are the same error, or successes whose results are related. -/
inductive Agree (R : α → β → Prop) : Except ε α → Except ε β → Prop where
  | ok {a : α} {b : β} (h : R a b) : Agree R (.ok a) (.ok b)
  | error (e : ε) : Agree R (.error e) (.error e)

namespace Agree

theorem bind {R : α → β → Prop} {S : γ → σ → Prop} {x : Except ε α} {y : Except ε β}
    {next : α → Except ε γ} {next' : β → Except ε σ} (h : Agree R x y)
    (hnext : ∀ a b, R a b → Agree S (next a) (next' b)) :
    Agree S (x >>= next) (y >>= next') := by
  cases h with
  | ok hab => exact hnext _ _ hab
  | error e => exact .error e

theorem bind_eq {R : α → β → Prop} {x : Except ε α} {y : Except ε β} {next : α → Except ε γ}
    {next' : β → Except ε γ} (h : Agree R x y) (hnext : ∀ a b, R a b → next a = next' b) :
    x >>= next = y >>= next' := by
  cases h with
  | ok hab => exact hnext _ _ hab
  | error e => rfl

theorem mapM {P : α → β → Prop} {R : γ → σ → Prop} {f : α → Except ε γ} {g : β → Except ε σ}
    {xs : List α} {ys : List β} (h : List.Forall₂ P xs ys)
    (hstep : ∀ x y, P x y → Agree R (f x) (g y)) :
    Agree (List.Forall₂ R) (xs.mapM f) (ys.mapM g) := by
  induction h with
  | nil => exact .ok .nil
  | cons hxy _ ih =>
    rw [List.mapM_cons, List.mapM_cons]
    exact (hstep _ _ hxy).bind fun a b hab => ih.bind fun as bs hs => .ok (.cons hab hs)

end Agree

/-! ## Steps on a state -/

/-- **What every step keeps holds at the end.** -/
theorem foldlM_preserves {P : σ → Prop} {step : σ → α → Except ε σ} {xs : List α} {s t : σ}
    (keeps : ∀ s, ∀ x ∈ xs, ∀ t, P s → step s x = .ok t → P t) (hs : P s)
    (h : xs.foldlM step s = .ok t) : P t := by
  induction xs generalizing s with
  | nil =>
    obtain rfl : s = t := by simpa using h
    exact hs
  | cons x xs ih =>
    rw [List.foldlM_cons, bind_ok_iff] at h
    obtain ⟨u, hu, h⟩ := h
    exact ih (fun s y hy => keeps s y (List.mem_cons_of_mem _ hy))
      (keeps s x List.mem_cons_self u hs hu) h

theorem foldlM_of_forall₂ {R : α → β → Prop} {step : σ → α → Except ε σ}
    {step' : σ → β → Except ε σ} {xs : List α} {ys : List β} {s u : σ} (hxs : List.Forall₂ R xs ys)
    (hstep : ∀ s x y t, R x y → step s x = .ok t → step' s y = .ok t)
    (h : xs.foldlM step s = .ok u) : ys.foldlM step' s = .ok u := by
  induction hxs generalizing s with
  | nil => exact h
  | cons hxy _ ih =>
    rw [List.foldlM_cons, bind_ok_iff] at h ⊢
    obtain ⟨t, ht, h⟩ := h
    exact ⟨t, hstep _ _ _ _ hxy ht, ih h⟩

theorem exists_step_of_foldlM {step : σ → α → Except ε σ} {xs : List α} {x : α} {s u : σ}
    (hx : x ∈ xs) (h : xs.foldlM step s = .ok u) :
    ∃ a b, ∃ after : List α, step a x = .ok b ∧ after.foldlM step b = .ok u := by
  induction xs generalizing s with
  | nil => cases hx
  | cons y ys ih =>
    rw [List.foldlM_cons, bind_ok_iff] at h
    obtain ⟨t, ht, h⟩ := h
    rcases List.mem_cons.1 hx with rfl | hx
    · exact ⟨s, t, ys, ht, h⟩
    · exact ih hx h

theorem exists_foldlM_ok_iff {step : σ → α → Except ε σ} {P : α → Prop}
    (hstep : ∀ s x, (∃ t, step s x = .ok t) ↔ P x) {xs : List α} {s : σ} :
    (∃ t, xs.foldlM step s = .ok t) ↔ ∀ x ∈ xs, P x := by
  induction xs generalizing s with
  | nil => exact ⟨fun _ => nofun, fun _ => ⟨s, rfl⟩⟩
  | cons x xs ih =>
    simp only [List.foldlM_cons, bind_ok_iff, List.forall_mem_cons, ← hstep s x]
    constructor
    · rintro ⟨t, u, hu, ht⟩
      exact ⟨⟨u, hu⟩, ih.1 ⟨t, ht⟩⟩
    · rintro ⟨⟨u, hu⟩, hxs⟩
      obtain ⟨t, ht⟩ := (@ih u).2 hxs
      exact ⟨t, u, hu, ht⟩

theorem foldlM_error_iff {step : σ → α → Except ε σ} {xs : List α} {s : σ} {e : ε} :
    xs.foldlM step s = .error e ↔
      ∃ before x after t, xs = before ++ x :: after ∧ before.foldlM step s = .ok t ∧
      step t x = .error e := by
  induction xs generalizing s with
  | nil => simp
  | cons x xs ih =>
    simp only [List.foldlM_cons, bind_error_iff, ih]
    constructor
    · rintro (hx | ⟨u, hx, before, y, after, t, rfl, hbefore, hy⟩)
      · exact ⟨[], x, xs, s, rfl, rfl, hx⟩
      · refine ⟨x :: before, y, after, t, rfl, ?_, hy⟩
        rw [List.foldlM_cons, hx]
        exact hbefore
    · rintro ⟨before, y, after, t, hsplit, hbefore, hy⟩
      rcases List.cons_eq_append_iff.1 hsplit with ⟨rfl, htail⟩ | ⟨before, rfl, rfl⟩
      · cases htail
        obtain rfl : s = t := pure_ok_iff.1 hbefore
        exact .inl hy
      · rw [List.foldlM_cons, bind_ok_iff] at hbefore
        obtain ⟨u, hx, hbefore⟩ := hbefore
        exact .inr ⟨u, hx, before, y, after, t, rfl, hbefore, hy⟩

theorem foldlM_some_preserves {P : σ → Prop} {step : σ → α → Option σ} {xs : List α}
    {s t : σ} (keeps : ∀ s, ∀ x ∈ xs, ∀ t, P s → step s x = some t → P t) (hs : P s)
    (h : xs.foldlM step s = some t) : P t := by
  induction xs generalizing s with
  | nil =>
    obtain rfl : s = t := by simpa using h
    exact hs
  | cons x xs ih =>
    rw [List.foldlM_cons, Option.bind_eq_bind, Option.bind_eq_some_iff] at h
    obtain ⟨u, hu, h⟩ := h
    exact ih (fun s y hy => keeps s y (List.mem_cons_of_mem _ hy))
      (keeps s x List.mem_cons_self u hs hu) h

/-! ## Errors of one kind -/

/-- All errors that an outcome can be are of one kind. -/
def RaisesOnly {ε α : Type} (P : ε → Prop) (x : Except ε α) : Prop := ∀ e, x = .error e → P e

namespace RaisesOnly

variable {P Q : ε → Prop}

theorem ok (a : α) : RaisesOnly P (.ok a : Except ε α) := nofun

theorem error {e : ε} (h : P e) : RaisesOnly P (.error e : Except ε α) := by
  rintro _ ⟨⟩
  exact h

theorem mono {x : Except ε α} (h : RaisesOnly Q x) (hkind : ∀ e, Q e → P e) : RaisesOnly P x :=
  fun e he => hkind e (h e he)

theorem exists_error {x : Except ε α} (h : RaisesOnly P x) (hfail : ∀ a, x ≠ .ok a) :
    ∃ e, P e ∧ x = .error e := by
  cases x with
  | error e => exact ⟨e, h e rfl, rfl⟩
  | ok a => exact absurd rfl (hfail a)

theorem bind_of_ok {first : Except ε α} {next : α → Except ε β} (hfirst : RaisesOnly P first)
    (hnext : ∀ a, first = .ok a → RaisesOnly P (next a)) : RaisesOnly P (first >>= next) := by
  intro e he
  rcases bind_error_iff.1 he with he | ⟨a, ha, he⟩
  · exact hfirst e he
  · exact hnext a ha e he

theorem bind {first : Except ε α} {next : α → Except ε β} (hfirst : RaisesOnly P first)
    (hnext : ∀ a, RaisesOnly P (next a)) : RaisesOnly P (first >>= next) :=
  hfirst.bind_of_ok fun a _ => hnext a

theorem mapM {f : α → Except ε β} {xs : List α} (h : ∀ x ∈ xs, RaisesOnly P (f x)) :
    RaisesOnly P (xs.mapM f) := by
  intro e he
  obtain ⟨before, x, after, rfl, -, hx⟩ := mapM_error_iff.1 he
  exact h x (List.mem_append_right _ List.mem_cons_self) e hx

theorem foldlM {step : σ → α → Except ε σ} {xs : List α} {s : σ}
    (h : ∀ s, ∀ x ∈ xs, RaisesOnly P (step s x)) : RaisesOnly P (xs.foldlM step s) := by
  intro e he
  obtain ⟨before, x, after, t, rfl, -, hx⟩ := foldlM_error_iff.1 he
  exact h t x (List.mem_append_right _ List.mem_cons_self) e hx

theorem mapError {x : Except ε α} {word : ε → ε'} {P' : ε' → Prop} (h : RaisesOnly P x)
    (hword : ∀ e, P e → P' (word e)) : RaisesOnly P' (x.mapError word) := by
  intro e' herror
  obtain ⟨e, he, rfl⟩ := mapError_error_iff.1 herror
  exact hword e (h e he)

theorem of_mapError {x : Except ε α} {word : ε → ε'} {P' : ε' → Prop} (hword : ∀ e, P' (word e)) :
    RaisesOnly P' (x.mapError word) :=
  mapError (P := fun _ => True) (fun _ _ => trivial) fun e _ => hword e

end RaisesOnly

end ComposePods

import ComposePods.Proofs.Paths
import Mathlib.Algebra.Order.Group.Int
import Mathlib.Data.List.Induction
import Mathlib.Logic.Function.Iterate
import Mathlib.Order.Basic

/-!
# Lexical normal forms of paths

The normal form of a path starts at the root or some levels above the current directory and goes
down from there: idle segments are dropped, a `..` cancels the name before it, is absorbed at the
root, and stays at the start of a relative path. A path that is resolved has the normal form of the
path that is only joined, unless a `..` of the path takes a component away that is no name, or finds
none to take away.

* `Path.Normal`, `Path.normal`: normal forms;
* `Path.Normal.after`, **`Path.Normal.foldl_move`**: a relative path seen from any place;
* `Path.normal_join`, `Path.normal_resolve`: the two ways to see a path from a directory;
* `Path.Normal.height`, **`Path.Normal.iterate_up_foldl_move_iff`**: the components that as many
  `..` take back;
* **`Path.normal_resolve_iff`**: when a resolved path names the same place as the joined one.
-/

namespace ComposePods

namespace Path

/-! ## Normal forms -/

/-- Where the names of a path start: at the root, or some levels above the current directory. -/
inductive Start where
  | root
  | above (levels : Nat)
  deriving DecidableEq

/-- A path in normal form: its start, and the names on the way down from there, the last one
first. -/
structure Normal where
  start : Start
  names : List String
  deriving DecidableEq

/-- The segment is the name of something below a directory. -/
def IsName (segment : String) : Prop := isIdle segment = false ∧ segment ≠ ".."

instance (segment : String) : Decidable (IsName segment) := by unfold IsName; infer_instance

namespace Normal

/-- The root. -/
def root : Normal := ⟨.root, []⟩

/-- The current directory. -/
def here : Normal := ⟨.above 0, []⟩

/-- How many levels above the current directory the path starts. -/
def levels (p : Normal) : Nat :=
  match p.start with
  | .root => 0
  | .above n => n

/-- One level up: the last name is taken back, the root has nothing above it. -/
def up : Normal → Normal
  | ⟨start, _ :: names⟩ => ⟨start, names⟩
  | ⟨.root, []⟩ => root
  | ⟨.above n, []⟩ => ⟨.above (n + 1), []⟩

/-- The place that a segment names. -/
def move (p : Normal) (segment : String) : Normal :=
  if isIdle segment then p
  else if segment = ".." then p.up
  else ⟨p.start, segment :: p.names⟩

/-- The place that some names lead down to, the last one first. -/
def descend (p : Normal) (names : List String) : Normal := ⟨p.start, names ++ p.names⟩

/-- A relative path seen from a place: so many levels up and then down. -/
def after (q p : Normal) : Normal := (up^[q.levels] p).descend q.names

end Normal

open ComposePods.Path.Normal

/-- Where a path starts. -/
def origin (path : String) : Normal := if isAbsolute path then root else here

/-- **The normal form of a path.** -/
def normal (path : String) : Normal := (segments path).foldl move (origin path)

/-- How many levels a path leads up before it goes down. -/
def climbs (path : String) : Nat := (normal path).levels

/-! ## Moves -/

namespace Normal

variable {p q : Normal} {segment : String} {names l : List String} {n : Nat}

theorem move_of_isIdle (p : Normal) (h : isIdle segment = true) : p.move segment = p := if_pos h

theorem move_parent (p : Normal) : p.move ".." = p.up := rfl

theorem move_of_isName (p : Normal) (h : IsName segment) :
    p.move segment = ⟨p.start, segment :: p.names⟩ := by
  rw [move, h.1, if_neg Bool.false_ne_true, if_neg h.2]

theorem segment_cases (segment : String) :
    isIdle segment = true ∨ segment = ".." ∨ IsName segment := by
  unfold IsName
  cases isIdle segment <;> simp [em]

theorem foldl_move_filter (p : Normal) (l : List String) :
    (l.filter (!isIdle ·)).foldl move p = l.foldl move p := by
  induction l generalizing p with
  | nil => rfl
  | cons s l ih =>
    cases hs : isIdle s with
    | true => simp [hs, ih, move_of_isIdle p hs]
    | false => simp [hs, ih]

theorem foldl_move_of_names (p : Normal) (h : ∀ s ∈ l, IsName s) :
    l.foldl move p = p.descend l.reverse := by
  induction l generalizing p with
  | nil => rfl
  | cons s l ih =>
    rw [List.forall_mem_cons] at h
    rw [List.foldl_cons, move_of_isName p h.1, ih _ h.2, List.reverse_cons, descend, descend,
      List.append_assoc]
    rfl

theorem descend_inj : p.descend names = q.descend names ↔ p = q := by
  obtain ⟨start, ns⟩ := p
  obtain ⟨start', ns'⟩ := q
  simp [descend]

theorem isName_of_mem_foldl (h : ∀ s ∈ p.names, IsName s) (l : List String) :
    ∀ s ∈ (l.foldl move p).names, IsName s := by
  refine List.foldlRecOn (motive := fun q : Normal => ∀ s ∈ q.names, IsName s) l _ h
    fun q hq segment _ => ?_
  obtain ⟨start, names⟩ := q
  rcases segment_cases segment with hidle | rfl | hname
  · rw [move_of_isIdle _ hidle]
    exact hq
  · rw [move_parent]
    rcases names with _ | ⟨last, names⟩
    · cases start <;> exact nofun
    · exact fun s hs => hq s (List.mem_cons_of_mem _ hs)
  · rw [move_of_isName _ hname]
    exact List.forall_mem_cons.2 ⟨hname, hq⟩

/-! ### Relative paths -/

/-- The names do not start at the root. -/
def IsRelative (p : Normal) : Prop := p.start ≠ .root

theorem isRelative_move (h : p.IsRelative) (segment : String) : (p.move segment).IsRelative := by
  obtain ⟨start, names⟩ := p
  rcases segment_cases segment with hidle | rfl | hname
  · rwa [move_of_isIdle _ hidle]
  · rcases names with _ | ⟨last, names⟩
    · cases start with
      | root => exact absurd rfl h
      | above n => exact nofun
    · exact h
  · rwa [move_of_isName _ hname]

theorem isRelative_foldl (l : List String) : (l.foldl move here).IsRelative :=
  List.foldlRecOn (motive := IsRelative) l _ (show here.IsRelative from nofun) fun _ h s _ =>
    isRelative_move h s

theorem move_after (h : q.IsRelative) (p : Normal) (segment : String) :
    (q.after p).move segment = (q.move segment).after p := by
  obtain ⟨start, names⟩ := q
  cases start with
  | root => exact absurd rfl h
  | above n =>
    rcases segment_cases segment with hidle | rfl | hname
    · rw [move_of_isIdle _ hidle, move_of_isIdle _ hidle]
    · rcases names with _ | ⟨last, names⟩
      · exact (Function.iterate_succ_apply' up n p).symm
      · rfl
    · rw [move_of_isName _ hname, move_of_isName _ hname]
      rfl

/-- **A relative path leads from any place as its normal form does**: some levels up and then
down. -/
theorem foldl_move (p : Normal) (l : List String) :
    l.foldl move p = (l.foldl move here).after p := by
  induction l using List.reverseRecOn with
  | nil => rfl
  | append_singleton l s ih =>
    rw [List.foldl_concat, List.foldl_concat, ih, move_after (isRelative_foldl l)]

/-- What a relative path leaves of some components, with its own names behind them. -/
def keep (q : Normal) (cs : List String) : List String :=
  cs.take (cs.length - q.levels) ++ q.names.reverse

theorem stepComponents_keep (h : q.IsRelative) (cs : List String) (hidle : isIdle segment = false) :
    stepComponents (q.keep cs) segment = (q.move segment).keep cs := by
  obtain ⟨start, names⟩ := q
  cases start with
  | root => exact absurd rfl h
  | above n =>
    unfold stepComponents
    split
    · rename_i hsegment
      subst hsegment
      rw [move_parent]
      rcases names with _ | ⟨last, names⟩
      · simp only [keep, levels, up, List.reverse_nil, List.append_nil, List.dropLast_eq_take,
          List.length_take, List.take_take]
        congr 1
        omega
      · rw [keep, List.reverse_cons, ← List.append_assoc, List.dropLast_concat]
        rfl
    · rename_i hsegment
      rw [move_of_isName _ ⟨hidle, hsegment⟩, keep, keep, List.reverse_cons, List.append_assoc]
      rfl

/-- **The steps of a relative path** take as many components away as it leads up, and add its
names. -/
theorem foldl_stepComponents (cs : List String) (hl : ∀ s ∈ l, isIdle s = false) :
    l.foldl stepComponents cs = (l.foldl move here).keep cs := by
  induction l using List.reverseRecOn with
  | nil => simp [keep, here, levels]
  | append_singleton l s ih =>
    rw [List.forall_mem_append] at hl
    rw [List.foldl_concat, List.foldl_concat, ih hl.1,
      stepComponents_keep (isRelative_foldl l) cs (hl.2 s List.mem_cons_self)]

/-! ### Heights -/

/-- How many levels a place is below the current directory, or below the root. -/
def height (p : Normal) : Int := p.names.length - p.levels

theorem height_up (h : p.up ≠ root) : p.up.height + 1 = p.height := by
  obtain ⟨start, names⟩ := p
  rcases names with _ | ⟨last, names⟩
  · cases start with
    | root => exact absurd rfl h
    | above n =>
      simp only [height, levels, up, List.length_nil]
      omega
  · simp only [height, levels, up, List.length_cons]
    omega

theorem height_up_le (p : Normal) : p.up.height ≤ p.height := by
  by_cases h : p.up = root
  · obtain ⟨start, names⟩ := p
    rcases names with _ | ⟨last, names⟩
    · cases start with
      | root => exact le_rfl
      | above n => cases h
    · cases h
      simp [height, levels, up]
  · have := height_up h
    omega

theorem height_iterate_up (h : up^[n] p ≠ root) : (up^[n] p).height + n = p.height := by
  induction n with
  | zero => simp
  | succ n ih =>
    rw [Function.iterate_succ_apply'] at h ⊢
    have hbelow : up^[n] p ≠ root := fun hroot => h (by rw [hroot]; rfl)
    have hup := height_up h
    have := ih hbelow
    omega

theorem height_foldl_le (p : Normal) (l : List String) :
    (l.foldl move p).height ≤ p.height + l.countP (IsName ·) := by
  induction l generalizing p with
  | nil => simp
  | cons s l ih =>
    rw [List.foldl_cons, List.countP_cons]
    have htail := ih (p.move s)
    rcases segment_cases s with hidle | rfl | hname
    · rw [move_of_isIdle _ hidle] at htail ⊢
      omega
    · rw [move_parent] at htail ⊢
      have := height_up_le p
      omega
    · have hdown : (p.move s).height = p.height + 1 := by
        rw [move_of_isName _ hname]
        simp only [height, levels, List.length_cons]
        omega
      simp only [hname, decide_true, if_true]
      omega

theorem start_move_of_root (h : p.start = .root) (segment : String) :
    (p.move segment).start = .root := by
  obtain ⟨start, names⟩ := p
  obtain rfl : start = .root := h
  rcases segment_cases segment with hidle | rfl | hname
  · rw [move_of_isIdle _ hidle]
  · rcases names with _ | ⟨last, names⟩ <;> rfl
  · rw [move_of_isName _ hname]

theorem start_foldl_of_root (h : p.start = .root) (l : List String) :
    (l.foldl move p).start = .root :=
  List.foldlRecOn (motive := fun q : Normal => q.start = .root) l _ h fun _ hq s _ =>
    start_move_of_root hq s

theorem start_iterate_up_of_root (h : p.start = .root) : (up^[n] p).start = .root := by
  induction n with
  | zero => exact h
  | succ n ih =>
    rw [Function.iterate_succ_apply']
    exact start_move_of_root ih ".."

theorem iterate_up_descend (p : Normal) (names : List String) :
    up^[names.length] (p.descend names) = p := by
  induction names with
  | nil => rfl
  | cons s names ih =>
    rw [List.length_cons, Function.iterate_succ_apply]
    exact ih

/-- **As many levels up as there are segments, or more**, lead back to where the segments start if
that is the root, or if all of them are names and no level is left over. -/
theorem iterate_up_foldl_move_iff (hn : l.length ≤ n) :
    up^[n] (l.foldl move p) = p ↔ p = root ∨ l.length = n ∧ ∀ s ∈ l, IsName s := by
  have hcount : l.countP (IsName ·) ≤ l.length := List.countP_le_length
  have hheight := height_foldl_le p l
  constructor
  · intro h
    by_cases hp : p = root
    · exact .inl hp
    · have hback := height_iterate_up (n := n) (p := l.foldl move p) (by rwa [h])
      rw [h] at hback
      refine .inr ⟨by omega, ?_⟩
      have hall : l.countP (IsName ·) = l.length := by omega
      simpa using List.countP_eq_length.1 hall
  · rintro (rfl | ⟨rfl, hnames⟩)
    · by_contra hroot
      have hback := height_iterate_up hroot
      have hstart : (up^[n] (l.foldl move root)).start = .root :=
        start_iterate_up_of_root (start_foldl_of_root rfl l)
      generalize up^[n] (l.foldl move root) = q at hroot hback hstart
      obtain ⟨start, names⟩ := q
      obtain rfl : start = .root := hstart
      have hzero : root.height = 0 := rfl
      have hnames : names ≠ [] := fun h => hroot (by rw [h]; rfl)
      have := List.length_pos_iff.2 hnames
      simp only [height, levels] at hback hheight hzero
      omega
    · rw [foldl_move_of_names p hnames]
      simpa using iterate_up_descend p l.reverse

end Normal

/-! ## Paths seen from a directory -/

variable {directory path : String}

theorem normal_eq (path : String) : normal path = (components path).foldl move (origin path) := by
  rw [normal, ← foldl_move_filter _ (components path), filter_components, foldl_move_filter]

theorem origin_of_relative (h : isAbsolute path = false) : origin path = here := by
  rw [origin, h, if_neg Bool.false_ne_true]

theorem climbs_of_isAbsolute (h : isAbsolute path = true) : climbs path = 0 := by
  have hstart : (normal path).start = .root := by
    rw [normal, origin, if_pos h]
    exact start_foldl_of_root rfl _
  rw [climbs, levels, hstart]

/-- **A relative path that is joined** is the path as it is seen from the directory. -/
theorem normal_join (directory : String) (hpath : isAbsolute path = false) :
    normal (join directory path) = (normal path).after (normal directory) := by
  have hrelative : normal path = (segments path).foldl move here := by
    rw [normal, origin_of_relative hpath]
  rw [hrelative, ← foldl_move, join]
  by_cases hdirectory : directory = ""
  · have hpush : push "" path = path := by simp [push]
    rw [hdirectory, hpush, hrelative]
    rfl
  · rw [normal_eq, components_push_of_ne hdirectory hpath, List.foldl_append,
      foldl_move_filter, origin, isAbsolute_push directory hpath, normal_eq directory, origin]

theorem components_resolve_eq (directory : String) (hpath : isAbsolute path = false) :
    components (resolve directory path) =
      (components directory).take ((components directory).length - climbs path) ++
        (normal path).names.reverse := by
  rw [components_resolve directory hpath, foldl_stepComponents _ fun s hs => (of_mem_filter hs).2,
    foldl_move_filter, climbs, normal, origin_of_relative hpath, keep]

theorem components_iterate_pop (directory : String) (n : Nat) :
    components (pop^[n] directory) =
    (components directory).take ((components directory).length - n) := by
  induction n with
  | zero => simp
  | succ n ih =>
    rw [Function.iterate_succ_apply', components_pop, ih, List.dropLast_eq_take, List.length_take,
      List.take_take]
    congr 1
    omega

theorem isAbsolute_iterate_pop (directory : String) (n : Nat) :
    isAbsolute (pop^[n] directory) = isAbsolute directory := by
  induction n with
  | zero => rfl
  | succ n ih => rw [Function.iterate_succ_apply', isAbsolute_pop, ih]

/-- **A relative path that is resolved** goes down from what is left of the directory. -/
theorem normal_resolve (directory : String) (hpath : isAbsolute path = false) :
    normal (resolve directory path) =
    (normal (pop^[climbs path] directory)).descend (normal path).names := by
  have hnames : ∀ s ∈ (normal path).names.reverse, IsName s := by
    intro s hs
    refine isName_of_mem_foldl ?_ _ s (List.mem_reverse.1 hs)
    rw [origin_of_relative hpath]
    exact nofun
  rw [normal_eq, components_resolve_eq directory hpath, List.foldl_append,
    foldl_move_of_names _ hnames, List.reverse_reverse, normal_eq (pop^[climbs path] directory),
    components_iterate_pop, origin, origin,
    isAbsolute_iterate_pop, isAbsolute_resolve, hpath, Bool.false_or]

/-- So many components can be taken away from the directory instead of going up as often: they are
names, or the root is all that is left. -/
def Retraces (directory : String) (n : Nat) : Prop :=
  normal (pop^[n] directory) = root ∨
    n ≤ (components directory).length ∧
      ∀ c ∈ (components directory).drop ((components directory).length - n), IsName c

theorem retraces_iff {n : Nat} : up^[n] (normal directory) = normal (pop^[n] directory) ↔
    Retraces directory n := by
  have hsplit : normal directory =
      ((components directory).drop ((components directory).length - n)).foldl move
      (normal (pop^[n] directory)) := by
    rw [normal_eq (pop^[n] directory), components_iterate_pop, origin,
      isAbsolute_iterate_pop, ← List.foldl_append, List.take_append_drop, normal_eq, origin]
  have hlength : ((components directory).drop ((components directory).length - n)).length ≤ n := by
    rw [List.length_drop]
    omega
  rw [hsplit, iterate_up_foldl_move_iff hlength, Retraces, List.length_drop]
  refine or_congr_right (and_congr_left fun _ => ?_)
  omega

/-- **When a resolved path names the same place as the joined one.** Resolving takes the components
of the directory away one by one where the path leads up. This leads to the same place exactly if
the components that are taken away are names, one for every level, or if only the root is left in
the end. So in a directory that is written without `.` and `..` all paths are seen alike, unless a
relative directory has too few components. -/
theorem normal_resolve_iff (directory path : String) :
    (normal (resolve directory path) = normal (join directory path) ↔
      Retraces directory (climbs path)) ∧
      ((∀ c ∈ components directory, IsName c) →
        isAbsolute directory = true ∨ climbs path ≤ (components directory).length →
        normal (resolve directory path) = normal (join directory path)) := by
  have hiff : normal (resolve directory path) = normal (join directory path) ↔
      Retraces directory (climbs path) := by
    rcases hpath : isAbsolute path with _ | _
    · rw [← retraces_iff, normal_resolve directory hpath, normal_join directory hpath, after,
        descend_inj, eq_comm]
      rfl
    · have hretraces : Retraces directory 0 := .inr ⟨Nat.zero_le _, by simp⟩
      rw [climbs_of_isAbsolute hpath]
      exact iff_of_true (by rw [resolve, join, push, if_pos hpath, if_pos hpath]) hretraces
  refine ⟨hiff, fun hnames hup => hiff.2 ?_⟩
  by_cases hfew : climbs path ≤ (components directory).length
  · exact .inr ⟨hfew, fun c hc => hnames c (List.mem_of_mem_drop hc)⟩
  · have habsolute := hup.resolve_right hfew
    refine .inl ?_
    rw [normal_eq, components_iterate_pop, Nat.sub_eq_zero_of_le (by omega), List.take_zero, origin,
      isAbsolute_iterate_pop, habsolute]
    rfl

/-- An empty working directory has no component to take away, so the step up is lost. -/
theorem resolve_loses_climb :
    resolve "" "../x" = "x" ∧ join "" "../x" = "../x" ∧
    normal (resolve "" "../x") ≠ normal (join "" "../x") := by
  decide +kernel

end Path

end ComposePods

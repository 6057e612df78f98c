import ComposePods.Path
import Mathlib.Data.List.Basic

/-!
# Components of a path

The components of a path are its segments without the idle ones; only a `.` at its very start is
one. A step down adds a component and a step up takes the last one away, so a path that is resolved
from a directory keeps the components of the directory from the left, and the directory decides
whether it starts at the root.

* `Path.segments_ofSegments`, `Path.ofSegments_segments`: a path is its segments;
* `Path.isAbsolute_iff`: what the segments say about the root;
* `Path.components`, **`Path.components_pop`**, **`Path.components_push`**: up and down;
* `Path.components_resolve`, **`Path.isAbsolute_resolve`**: all steps of a path.
-/

namespace ComposePods

/-! ## Parts of a text -/

theorem Text.splitAt_eq (p : Char → Bool) (cs : List Char) : splitAt p cs = cs.splitOnP p := by
  induction cs with
  | nil => rfl
  | cons c cs ih =>
    rw [splitAt, List.splitOnP_cons_eq_if_modifyHead, ih]
    have hne := List.splitOnP_ne_nil p cs
    cases h : cs.splitOnP p with
    | nil => exact absurd h hne
    | cons part parts => rfl

theorem Text.splitAt_append_cons {p : Char → Bool} {c : Char} (hc : p c = true)
    (cs ds : List Char) : splitAt p (cs ++ c :: ds) = splitAt p cs ++ splitAt p ds := by
  rw [splitAt_eq, splitAt_eq, splitAt_eq, List.splitOnP_append_cons cs ds hc]

theorem Text.eq_false_of_mem_splitAt {p : Char → Bool} {cs part : List Char}
    (h : part ∈ splitAt p cs) : ∀ c ∈ part, p c = false := by
  induction cs generalizing part with
  | nil =>
    obtain rfl : part = [] := by simpa [splitAt] using h
    exact nofun
  | cons d ds ih =>
    rw [splitAt] at h
    split at h
    · rcases List.mem_cons.1 h with rfl | h
      · exact nofun
      · exact ih h
    · rename_i hd
      split at h
      · obtain rfl := List.mem_singleton.1 h
        simpa using hd
      · rename_i first parts hsplit
        rw [hsplit] at ih
        rcases List.mem_cons.1 h with rfl | h
        · exact List.forall_mem_cons.2 ⟨by simpa using hd, ih List.mem_cons_self⟩
        · exact ih (List.mem_cons_of_mem _ h)

namespace Path

/-! ## Segments -/

/-- The text has no slash. -/
def IsSegment (s : String) : Prop := '/' ∉ s.toList

variable {path base directory segment s : String} {rest : List String}

theorem segments_eq (path : String) :
    segments path = (path.toList.splitOn '/').map String.ofList := by
  rw [segments, Text.splitAt_eq]
  rfl

theorem exists_segments (path : String) : ∃ s rest, segments path = s :: rest := by
  have hne : segments path ≠ [] := by simp [segments_eq, List.splitOn, List.splitOnP_ne_nil]
  exact List.exists_cons_of_ne_nil hne

theorem isSegment_of_mem (h : s ∈ segments path) : IsSegment s := by
  obtain ⟨part, hpart, rfl⟩ := List.mem_map.1 h
  rw [IsSegment, String.toList_ofList]
  intro hslash
  have := Text.eq_false_of_mem_splitAt hpart _ hslash
  simp at this

theorem isSegment_of_segments (h : segments path = s :: rest) : IsSegment s :=
  isSegment_of_mem (h ▸ List.mem_cons_self)

/-- **A path is its segments.** -/
theorem ofSegments_segments (path : String) : ofSegments (segments path) = path := by
  have htexts : ((path.toList.splitOn '/').map String.ofList).map String.toList =
      path.toList.splitOn '/' := by
    simp [Function.comp_def]
  rw [ofSegments, ← String.toList_inj, String.toList_intercalate, segments_eq, htexts]
  exact List.intercalate_splitOn '/'

theorem segments_ofSegments {l : List String} (hne : l ≠ []) (h : ∀ s ∈ l, IsSegment s) :
    segments (ofSegments l) = l := by
  have hparts : (String.toList (ofSegments l)).splitOn '/' = l.map String.toList := by
    rw [ofSegments, String.toList_intercalate]
    refine List.splitOn_intercalate '/' ?_ (by simpa using hne)
    intro part hpart
    obtain ⟨s, hs, rfl⟩ := List.mem_map.1 hpart
    exact h s hs
  rw [segments_eq, hparts]
  simp [Function.comp_def]

theorem segments_of_isSegment (h : IsSegment s) : segments s = [s] := by
  have hone := segments_ofSegments (l := [s]) (by simp) (by simpa using h)
  rwa [show ofSegments [s] = s by simp [ofSegments]] at hone

theorem segments_append_slash (base path : String) :
    segments (base ++ "/" ++ path) = segments base ++ segments path := by
  rw [segments, String.toList_append, String.toList_append]
  change (Text.splitAt _ (base.toList ++ ['/'] ++ path.toList)).map _ = _
  rw [List.append_assoc, List.singleton_append, Text.splitAt_append_cons (by rfl), List.map_append]
  rfl

/-- **A path starts at the root** if its first segment is empty and not its only one. -/
theorem isAbsolute_iff (h : segments path = s :: rest) :
    isAbsolute path = true ↔ s = "" ∧ rest ≠ [] := by
  have hpath : path = ofSegments (s :: rest) := by rw [← h, ofSegments_segments]
  have hs : IsSegment s := isSegment_of_segments h
  cases rest with
  | nil =>
    obtain rfl : path = s := by simpa [ofSegments] using hpath
    simp only [isAbsolute, ne_eq, not_true, and_false, iff_false, beq_iff_eq]
    intro hhead
    exact hs (List.mem_of_mem_head? hhead)
  | cons t ts =>
    have htext : path.toList = s.toList ++ '/' :: (ofSegments (t :: ts)).toList := by
      rw [hpath, ofSegments, String.toList_intercalate, List.map_cons, List.map_cons,
        List.intercalate_cons_cons, ofSegments, String.toList_intercalate, List.map_cons]
      simp
    rw [isAbsolute, htext]
    rcases hempty : s.toList with _ | ⟨c, cs⟩
    · simp [String.toList_eq_nil_iff.1 hempty]
    · have hne : s ≠ "" := by
        rintro rfl
        simp at hempty
      have hc : c ≠ '/' := by
        rintro rfl
        exact hs (by simp [hempty])
      simp [hne, hc]

/-! ## Components -/

/-- The components of a path: its segments that are not idle, and a `.` at its start. -/
def components (path : String) : List String :=
  match segments path with
  | [] => []
  | s :: rest => (if s = "" then [] else [s]) ++ rest.filter (!isIdle ·)

theorem components_eq (h : segments path = s :: rest) :
    components path = (if s = "" then [] else [s]) ++ rest.filter (!isIdle ·) := by
  rw [components, h]

theorem filter_components (path : String) :
    (components path).filter (!isIdle ·) = (segments path).filter (!isIdle ·) := by
  obtain ⟨s, rest, h⟩ := exists_segments path
  rw [components_eq h, h, List.filter_append, List.filter_filter]
  simp only [Bool.and_self]
  split
  · rename_i hs
    rw [List.filter_cons_of_neg (by simp [hs, isIdle])]
    rfl
  · rw [← List.filter_append]
    rfl

/-! ### Up -/

theorem trimReversed_concat (l : List String) (s : String) :
    trimReversed (l ++ [s]) = l.dropWhile isIdle ++ [s] := by
  induction l with
  | nil => rfl
  | cons t l ih =>
    obtain ⟨u, us, hcons⟩ :=
      List.exists_cons_of_ne_nil (List.append_ne_nil_of_right_ne_nil l (List.cons_ne_nil s []))
    rw [hcons] at ih
    rw [List.cons_append, hcons, trimReversed, ih]
    cases ht : isIdle t with
    | false => simp [ht, hcons]
    | true => simp [ht]

theorem filter_dropWhile (l : List String) :
    (l.dropWhile isIdle).filter (!isIdle ·) = l.filter (!isIdle ·) := by
  induction l with
  | nil => rfl
  | cons s l ih => cases hs : isIdle s <;> simp [hs, ih]

theorem pop_cases (h : segments path = s :: rest) :
    (rest.filter (!isIdle ·) = [] ∧ pop path = if s = "" then path else "") ∨
      ∃ before last, rest.filter (!isIdle ·) = before.filter (!isIdle ·) ++ [last] ∧
        (∀ t ∈ before, IsSegment t) ∧
        pop path = if s = "" ∧ before = [] then "/" else ofSegments (s :: before) := by
  have hparent : trimReversed (segments path).reverse = rest.reverse.dropWhile isIdle ++ [s] := by
    rw [h, List.reverse_cons, trimReversed_concat]
  have hfilter : rest.filter (!isIdle ·) =
      ((rest.reverse.dropWhile isIdle).filter (!isIdle ·)).reverse := by
    rw [filter_dropWhile, List.filter_reverse, List.reverse_reverse]
  rw [pop, parent?, hparent]
  rcases hdrop : rest.reverse.dropWhile isIdle with _ | ⟨last, before⟩
  · rw [hdrop] at hfilter
    refine .inl ⟨hfilter, ?_⟩
    by_cases hs : s = "" <;> simp [hs]
  · rw [hdrop] at hfilter
    have hlast : isIdle last = false := by
      have hhead := List.head?_dropWhile_not isIdle rest.reverse
      rw [hdrop] at hhead
      exact hhead
    refine .inr ⟨(before.dropWhile isIdle).reverse, last, ?_, ?_, ?_⟩
    · rw [hfilter, List.filter_cons_of_pos (by simp [hlast]), List.reverse_cons,
        List.filter_reverse, filter_dropWhile]
    · intro t ht
      have hmem : t ∈ rest.reverse.dropWhile isIdle := by
        rw [hdrop]
        exact List.mem_cons_of_mem _ ((List.dropWhile_suffix _).subset (List.mem_reverse.1 ht))
      have hpart : t ∈ segments path := by
        rw [h]
        exact List.mem_cons_of_mem _ (List.mem_reverse.1 ((List.dropWhile_suffix _).subset hmem))
      exact isSegment_of_mem hpart
    · obtain ⟨u, us, hcons⟩ := List.exists_cons_of_ne_nil
        (List.append_ne_nil_of_right_ne_nil before (List.cons_ne_nil s []))
      rw [List.cons_append, hcons]
      dsimp only
      rw [← hcons, trimReversed_concat]
      rcases hbefore : before.dropWhile isIdle with _ | ⟨t, ts⟩
      · by_cases hs : s = ""
        · simp [hs]
        · simp [hs]
      · simp

/-- **Up**: the last component is taken away, if there is one. -/
theorem components_pop (path : String) : components (pop path) = (components path).dropLast := by
  obtain ⟨s, rest, h⟩ := exists_segments path
  have hs : IsSegment s := isSegment_of_segments h
  rw [components_eq h]
  rcases pop_cases h with ⟨hrest, hpop⟩ | ⟨before, last, hrest, hbefore, hpop⟩
  · rw [hpop, hrest]
    split
    · rw [components_eq h, hrest]
      simp [*]
    · rfl
  · rw [hpop, hrest, ← List.append_assoc, List.dropLast_concat]
    split
    · rename_i hroot
      rw [hroot.1, hroot.2]
      rfl
    · refine components_eq (segments_ofSegments (List.cons_ne_nil s before) ?_)
      exact List.forall_mem_cons.2 ⟨hs, hbefore⟩

theorem isAbsolute_pop (path : String) : isAbsolute (pop path) = isAbsolute path := by
  obtain ⟨s, rest, h⟩ := exists_segments path
  have hs : IsSegment s := isSegment_of_segments h
  rw [Bool.eq_iff_iff, isAbsolute_iff h]
  rcases pop_cases h with ⟨-, hpop⟩ | ⟨before, last, hrest, hbefore, hpop⟩
  · rw [hpop]
    split
    · exact isAbsolute_iff h
    · rename_i hs
      simp only [hs, false_and, iff_false]
      exact nofun
  · have hne : rest ≠ [] := by
      rintro rfl
      simp at hrest
    rw [hpop]
    split
    · rename_i hroot
      exact iff_of_true (by decide) ⟨hroot.1, hne⟩
    · rename_i hroot
      rw [isAbsolute_iff (segments_ofSegments (List.cons_ne_nil s before)
        (List.forall_mem_cons.2 ⟨hs, hbefore⟩))]
      tauto

/-! ### Down -/

theorem isAbsolute_append (h : base ≠ "") (path : String) :
    isAbsolute (base ++ path) = isAbsolute base := by
  obtain ⟨c, cs, hbase⟩ := List.exists_cons_of_ne_nil (mt String.toList_eq_nil_iff.1 h)
  rw [isAbsolute, isAbsolute, String.toList_append, hbase]
  rfl

theorem components_append_slash (base path : String) :
    components (base ++ "/" ++ path) = components base ++ (segments path).filter (!isIdle ·) := by
  obtain ⟨s, rest, h⟩ := exists_segments base
  have hboth : segments (base ++ "/" ++ path) = s :: (rest ++ segments path) := by
    rw [segments_append_slash, h, List.cons_append]
  rw [components_eq h, components_eq hboth, List.filter_append, List.append_assoc]

theorem components_push_of_ne (hbase : base ≠ "") (hpath : isAbsolute path = false) :
    components (push base path) = components base ++ (segments path).filter (!isIdle ·) := by
  rw [push, hpath, if_neg Bool.false_ne_true]
  split
  · rename_i h
    obtain ⟨cs, hcs⟩ := List.getLast?_eq_some_iff.1 (h.resolve_left hbase)
    obtain rfl : base = String.ofList cs ++ "/" := String.toList_injective (by simp [hcs])
    have hfront := components_append_slash (String.ofList cs) ""
    rw [String.append_empty] at hfront
    rw [components_append_slash, hfront]
    simp [segments, Text.splitAt, isIdle]
  · exact components_append_slash base path

theorem isAbsolute_of_isSegment (h : IsSegment s) : isAbsolute s = false := by
  rw [Bool.eq_false_iff, ne_eq, isAbsolute_iff (segments_of_isSegment h)]
  simp

/-- **Down**: a segment becomes the last component. -/
theorem components_push (base : String) (hsegment : IsSegment segment)
    (hidle : isIdle segment = false) :
    components (push base segment) = components base ++ [segment] := by
  have hsegments := segments_of_isSegment hsegment
  have hne : segment ≠ "" := by
    rintro rfl
    cases hidle
  by_cases hbase : base = ""
  · have hpush : push "" segment = segment := by simp [push]
    rw [hbase, hpush, components_eq hsegments, if_neg hne]
    rfl
  · rw [components_push_of_ne hbase (isAbsolute_of_isSegment hsegment), hsegments]
    simp [hidle]

theorem isAbsolute_push (base : String) (hpath : isAbsolute path = false) :
    isAbsolute (push base path) = isAbsolute base := by
  rw [push, hpath, if_neg Bool.false_ne_true]
  by_cases hbase : base = ""
  · rw [hbase, if_pos (Or.inl rfl), String.empty_append, hpath]
    rfl
  · split
    · exact isAbsolute_append hbase path
    · rw [String.append_assoc]
      exact isAbsolute_append hbase _

/-! ### All steps of a path -/

/-- What one step does to the components. -/
def stepComponents (cs : List String) (segment : String) : List String :=
  if segment = ".." then cs.dropLast else cs ++ [segment]

theorem components_step (directory : String) (hsegment : IsSegment segment)
    (hidle : isIdle segment = false) :
    components (step directory segment) = stepComponents (components directory) segment := by
  unfold step stepComponents
  split
  · exact components_pop directory
  · exact components_push directory hsegment hidle

theorem isAbsolute_step (directory : String) (hsegment : IsSegment segment) :
    isAbsolute (step directory segment) = isAbsolute directory := by
  unfold step
  split
  · exact isAbsolute_pop directory
  · exact isAbsolute_push directory (isAbsolute_of_isSegment hsegment)

theorem of_mem_filter (h : s ∈ (segments path).filter (!isIdle ·)) :
    IsSegment s ∧ isIdle s = false := by
  obtain ⟨hs, hidle⟩ := List.mem_filter.1 h
  exact ⟨isSegment_of_mem hs, by simpa using hidle⟩

theorem components_resolve (directory : String) (hpath : isAbsolute path = false) :
    components (resolve directory path) =
      ((segments path).filter (!isIdle ·)).foldl stepComponents (components directory) := by
  have hsteps : ∀ s ∈ (segments path).filter (!isIdle ·), IsSegment s ∧ isIdle s = false :=
    fun _ => of_mem_filter
  rw [resolve, hpath, if_neg Bool.false_ne_true]
  generalize (segments path).filter (!isIdle ·) = l at hsteps
  induction l generalizing directory with
  | nil => rfl
  | cons s l ih =>
    obtain ⟨⟨hs, hidle⟩, hl⟩ := List.forall_mem_cons.1 hsteps
    rw [List.foldl_cons, List.foldl_cons, ih _ hl, components_step directory hs hidle]

/-- **A path that is resolved starts at the root** if it did before or the directory does. -/
theorem isAbsolute_resolve (directory path : String) :
    isAbsolute (resolve directory path) = (isAbsolute path || isAbsolute directory) := by
  rw [resolve]
  split
  · rename_i hpath
    rw [hpath, Bool.true_or]
  · rename_i hpath
    rw [Bool.not_eq_true] at hpath
    rw [hpath, Bool.false_or]
    refine List.foldlRecOn (motive := fun d : String => isAbsolute d = isAbsolute directory) _ _ rfl
      fun d hd s hs => ?_
    exact (isAbsolute_step d (of_mem_filter hs).1).trans hd

end Path

end ComposePods

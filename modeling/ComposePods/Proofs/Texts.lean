import ComposePods.Text.Blank
import Mathlib.Data.List.TakeWhile

/-!
# Texts parted and trimmed

A text is parted at its first separator, and white space is cut off both its ends.

* `Text.splitOnce_eq_some_iff`, `Text.splitOnce_eq_none_iff`: a text parted at its first separator;
* `Text.IsTrimmed`, **`Text.isTrimmed_trim`**: no white space is left at either end.
-/

namespace ComposePods

namespace Text

variable {c : Char} {s a b : String}

/-! ## Texts parted once -/

theorem splitOnce_eq_some_iff :
    splitOnce c s = some (a, b) ↔ s.toList = a.toList ++ c :: b.toList ∧ c ∉ a.toList := by
  unfold splitOnce
  dsimp only
  constructor
  · intro h
    split at h
    · cases h
    · rename_i d rest hdrop
      obtain ⟨rfl, rfl⟩ := Prod.mk.inj (Option.some.inj h)
      have hd := List.head?_dropWhile_not (· != c) s.toList
      rw [hdrop] at hd
      obtain rfl : d = c := by simpa using hd
      rw [String.toList_ofList, String.toList_ofList, ← hdrop]
      refine ⟨List.takeWhile_append_dropWhile.symm, fun hmem => ?_⟩
      simpa using List.mem_takeWhile_imp hmem
  · rintro ⟨hs, ha⟩
    have hall : ∀ d ∈ a.toList, (d != c) = true := by
      intro d hd
      simpa using fun h : d = c => ha (h ▸ hd)
    rw [hs, List.dropWhile_append_of_pos hall, List.takeWhile_append_of_pos hall]
    simp

theorem splitOnce_eq_none_iff : splitOnce c s = none ↔ c ∉ s.toList := by
  have hdrop : splitOnce c s = none ↔ s.toList.dropWhile (· != c) = [] := by
    unfold splitOnce
    dsimp only
    split <;> simp [*]
  rw [hdrop, List.dropWhile_eq_nil_iff]
  constructor
  · intro h hmem
    simpa using h c hmem
  · intro h d hd
    simpa using fun hdc : d = c => h (hdc ▸ hd)

/-! ## Texts without white space around -/

/-- Neither the first nor the last character is white space. -/
def IsTrimmed (s : String) : Prop :=
  (∀ c ∈ s.toList.head?, isBlank c = false) ∧ ∀ c ∈ s.toList.getLast?, isBlank c = false

theorem head?_dropWhile_isBlank (cs : List Char) :
    ∀ c ∈ (cs.dropWhile isBlank).head?, isBlank c = false := by
  intro c hc
  have hhead := List.head?_dropWhile_not isBlank cs
  rw [Option.mem_def.1 hc] at hhead
  simpa using hhead

/-- **No white space is left** where it has been cut off. -/
theorem isTrimmed_trim (s : String) : IsTrimmed (trim s) := by
  rw [IsTrimmed, trim, String.toList_ofList, dropEnd]
  constructor
  · intro c hc
    -- What is left when the end is cut off begins like what there was before.
    obtain ⟨cut, hcut⟩ : ((s.toList.dropWhile isBlank).reverse.dropWhile isBlank).reverse <+:
        s.toList.dropWhile isBlank := by
      rw [← List.reverse_suffix, List.reverse_reverse]
      exact List.dropWhile_suffix isBlank
    refine head?_dropWhile_isBlank s.toList c ?_
    rw [← hcut, List.head?_append, Option.mem_def.1 hc]
    rfl
  · rw [List.getLast?_reverse]
    exact head?_dropWhile_isBlank _

end Text

end ComposePods

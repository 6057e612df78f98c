import ComposePods.Pod.Transform
import ComposePods.Proofs.Labels

/-!
# Label prefixes

The labels of components and those of copies have a prefix each. Acceptable settings have two
different prefixes, so the two labels of one name differ. Whether all labels of the one kind differ
from all of the other kind is another matter: they do exactly if neither prefix begins with the
other one.

* `Text.append_eq_append_iff`: texts that begin alike;
* `Settings.check_ok_iff`: acceptable settings;
* `Settings.Separate`: neither prefix begins with the other one;
* `Settings.componentLabel_eq_copyLabel_iff`: the labels that are both of a component and of copies;
* **`Settings.separate_spec`**: what separate prefixes are for.
-/

namespace ComposePods

/-! ## Texts that begin alike -/

theorem Text.append_eq_append_iff {a b x y : String} :
    a ++ x = b ++ y ↔
      (∃ rest, b = a ++ rest ∧ x = rest ++ y) ∨ ∃ rest, a = b ++ rest ∧ y = rest ++ x := by
  constructor
  · intro h
    have hlist := congrArg String.toList h
    rw [String.toList_append, String.toList_append, List.append_eq_append_iff] at hlist
    refine hlist.imp ?_ ?_
    · rintro ⟨rest, hb, hx⟩
      exact ⟨String.ofList rest, String.toList_injective (by simp [hb]),
        String.toList_injective (by simp [hx])⟩
    · rintro ⟨rest, ha, hy⟩
      exact ⟨String.ofList rest, String.toList_injective (by simp [ha]),
        String.toList_injective (by simp [hy])⟩
  · rintro (⟨rest, rfl, rfl⟩ | ⟨rest, rfl, rfl⟩)
    · rw [String.append_assoc]
    · rw [String.append_assoc]

namespace Settings

variable {s : Settings}

/-! ## Acceptable settings -/

theorem check_ok_iff :
    s.check = .ok () ↔ Text.trim s.controllerImage ≠ "" ∧ s.componentLabelPrefix ≠ "" ∧
      s.copyLabelPrefix ≠ "" ∧ s.componentLabelPrefix ≠ s.copyLabelPrefix ∧
      Text.startsWith "x-" s.extensionKey = true := by
  unfold check
  split
  · simp [*]
  · split
    · rename_i h
      rcases h with h | h <;> simp [h]
    · rename_i h
      rw [not_or] at h
      split
      · simp [*]
      · split <;> simp [*]

/-- **The two labels of one name differ** if the settings are acceptable. -/
theorem componentLabel_ne_copyLabel_of_check (h : s.check = .ok ()) (name : String) :
    s.componentLabel name ≠ s.copyLabel name := by
  obtain ⟨-, -, -, hne, -⟩ := check_ok_iff.1 h
  exact fun hsame => hne ((String.append_left_inj name).1 hsame)

/-! ## Separate prefixes -/

/-- Neither prefix begins with the other one. -/
def Separate (s : Settings) : Prop :=
  Text.startsWith s.componentLabelPrefix s.copyLabelPrefix = false ∧
    Text.startsWith s.copyLabelPrefix s.componentLabelPrefix = false

instance (s : Settings) : Decidable s.Separate := by unfold Separate; infer_instance

/-- **The labels that are both of a component and of copies**: one prefix begins with the other one,
and what it has more begins the other name. -/
theorem componentLabel_eq_copyLabel_iff {component target : String} :
    s.componentLabel component = s.copyLabel target ↔
      (∃ rest, s.copyLabelPrefix = s.componentLabelPrefix ++ rest ∧ component = rest ++ target) ∨
        ∃ rest, s.componentLabelPrefix = s.copyLabelPrefix ++ rest ∧ target = rest ++ component :=
  Text.append_eq_append_iff

theorem separate_iff_forall_label :
    s.Separate ↔ ∀ label, ¬ (Text.startsWith s.componentLabelPrefix label = true ∧
      Text.startsWith s.copyLabelPrefix label = true) := by
  simp only [Separate, Bool.eq_false_iff, ne_eq, Text.startsWith_iff]
  constructor
  · rintro ⟨hcopy, hcomponent⟩ label ⟨⟨component, rfl⟩, target, h⟩
    rcases Text.append_eq_append_iff.1 h with ⟨rest, h, -⟩ | ⟨rest, h, -⟩
    · exact hcopy ⟨rest, h⟩
    · exact hcomponent ⟨rest, h⟩
  · intro h
    exact ⟨fun hcopy => h _ ⟨hcopy, "", (String.append_empty).symm⟩,
      fun hcomponent => h _ ⟨⟨"", (String.append_empty).symm⟩, hcomponent⟩⟩

theorem separate_iff_forall_names :
    s.Separate ↔ ∀ component target, s.componentLabel component ≠ s.copyLabel target := by
  rw [separate_iff_forall_label]
  simp only [Text.startsWith_iff]
  constructor
  · intro h component target hsame
    exact h _ ⟨⟨component, rfl⟩, target, hsame⟩
  · rintro h label ⟨⟨component, rfl⟩, target, hsame⟩
    exact h component target hsame

theorem Separate.disjoint (h : s.Separate) (o : Stages) :
    List.Disjoint ((o.main.1 :: o.components.keys).map s.componentLabel)
    (o.copies.keys.map s.copyLabel) := by
  intro label hcomponent hcopy
  obtain ⟨component, -, rfl⟩ := List.mem_map.1 hcomponent
  obtain ⟨target, -, hsame⟩ := List.mem_map.1 hcopy
  exact separate_iff_forall_names.1 h component target hsame.symm

/-- **What separate prefixes are for.** No component and no target of copies have the same label
exactly if neither prefix begins with the other one; then a label tells its kind by how it begins,
and the copies of a controller collide with none of its components. Acceptable settings promise
less: that the two labels of one name differ. If one prefix begins with the other one, the names
whose labels collide are those that make up the difference. -/
theorem separate_spec (s : Settings) :
    (s.Separate ↔ ∀ component target, s.componentLabel component ≠ s.copyLabel target) ∧
      (s.Separate ↔ ∀ label, ¬ (Text.startsWith s.componentLabelPrefix label = true ∧
        Text.startsWith s.copyLabelPrefix label = true)) ∧
      (s.Separate → ∀ o : Stages, List.Disjoint
        ((o.main.1 :: o.components.keys).map s.componentLabel) (o.copies.keys.map s.copyLabel)) ∧
      (s.check = .ok () → ∀ name, s.componentLabel name ≠ s.copyLabel name) ∧
      ∀ component target, s.componentLabel component = s.copyLabel target ↔
        (∃ rest, s.copyLabelPrefix = s.componentLabelPrefix ++ rest ∧ component = rest ++ target) ∨
          ∃ rest, s.componentLabelPrefix = s.copyLabelPrefix ++ rest ∧ target = rest ++ component :=
  ⟨separate_iff_forall_names, separate_iff_forall_label, Separate.disjoint,
    componentLabel_ne_copyLabel_of_check, fun _ _ => componentLabel_eq_copyLabel_iff⟩

/-- The standard prefixes are separate. -/
theorem separate_spec_standard :
    standard.check = .ok () ∧ standard.Separate ∧
      ∀ component target, standard.componentLabel component ≠ standard.copyLabel target :=
  have hseparate : standard.Separate := by decide
  ⟨by decide +kernel, hseparate, (separate_spec standard).1.1 hseparate⟩

/-- Acceptable settings, and a manifest whose main component has the label of copies. -/
theorem labels_collide :
    let s := standard.apply
      (Overrides.parse ["podlike.label.component-prefix=pod.",
        "podlike.label.copy-prefix=pod.copy."])
    let text := "services:\n  web:\n    image: nginx\n    x-podlike:\n      transformer:\n" ++
      "        inline: 'copy.web: \x7b\x7d'\n      copy:\n        inline: 'web: /a:/b'\n"
    s.check = .ok () ∧ s.componentLabel "copy.web" = s.copyLabel "web" ∧
      Project.transformText .none text "/work" s =
      .error (.error (.labelCollision "web" "pod.copy.web")) := by
  decide +kernel

end Settings

end ComposePods

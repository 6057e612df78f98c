import ComposePods.Pod.Definitions
import ComposePods.Proofs.Outcome
import Mathlib.Data.List.Nodup

/-!
# Definitions of a tree

Every entry of a tree defines one service, named by the text of the entry's key. The services come
sorted by name, and those of one name in the order of their entries.

* `Definitions.ofEntry_ok_iff`, `Definitions.ofEntry_mapping_ok_iff`: what an entry defines;
* `Definitions.ofTree_ok_iff`, `Definitions.mem_ofTree`: what a tree defines;
* `Definitions.byName_filter`: sorting keeps the order of services of one name;
* `Definitions.byName_eq_of_perm`: services of different names come in one order only.
-/

namespace ComposePods

namespace Definitions

variable {directory service : String} {layer : Layer}

/-! ## Sorting -/

theorem byName_perm (ss : List Service) : (byName ss).Perm ss := List.mergeSort_perm ss _

theorem isLE_or_isLE (a b : String) : ((compare a b).isLE || (compare b a).isLE) = true := by
  rcases h : compare a b
  · rfl
  · rfl
  · rw [Std.OrientedCmp.lt_of_gt h]
    rfl

theorem isLE_name_trans (a b c : Service) (hab : (compare a.name b.name).isLE = true)
    (hbc : (compare b.name c.name).isLE = true) : (compare a.name c.name).isLE = true :=
  Std.TransCmp.isLE_trans hab hbc

theorem isLE_name_total (a b : Service) :
    ((compare a.name b.name).isLE || (compare b.name a.name).isLE) = true :=
  isLE_or_isLE a.name b.name

theorem byName_sorted (ss : List Service) :
    (byName ss).Pairwise fun a b => (compare a.name b.name).isLE = true :=
  List.pairwise_mergeSort isLE_name_trans isLE_name_total ss

theorem byName_eq_of_perm {ss ts : List Service} (h : ss.Perm ts)
    (hnames : (ss.map (·.name)).Nodup) : byName ss = byName ts := by
  have hperm : (byName ss).Perm (byName ts) :=
    (byName_perm ss).trans (h.trans (byName_perm ts).symm)
  refine hperm.eq_of_pairwise (fun a b ha hb hab hba => ?_) (byName_sorted ss) (byName_sorted ts)
  have hname : a.name = b.name :=
    Std.LawfulEqCmp.eq_of_compare (Std.OrientedCmp.isLE_antisymm hab hba)
  have ha : a ∈ ss := (byName_perm ss).mem_iff.1 ha
  have hb : b ∈ ss := h.mem_iff.2 ((byName_perm ts).mem_iff.1 hb)
  exact List.inj_on_of_nodup_map hnames ha hb hname

/-- **Sorting keeps the order of services of one name.** -/
theorem byName_filter (ss : List Service) (name : String) :
    (byName ss).filter (fun s => s.name = name) = ss.filter fun s => s.name = name := by
  have hsorted : (ss.filter fun s => s.name = name).Pairwise
      fun a b => (compare a.name b.name).isLE = true := by
    apply List.pairwise_of_forall_mem_list
    intro a ha b hb
    have ha : a.name = name := by simpa using (List.mem_filter.1 ha).2
    have hb : b.name = name := by simpa using (List.mem_filter.1 hb).2
    have heq : compare name name = .eq := Std.ReflCmp.compare_self
    rw [ha, hb, heq]
    rfl
  have hsub : (ss.filter fun s => s.name = name).Sublist (byName ss) :=
    List.sublist_mergeSort isLE_name_trans isLE_name_total hsorted List.filter_sublist
  have hfilter : (ss.filter fun s => s.name = name).Sublist
      ((byName ss).filter fun s => s.name = name) := by
    have := hsub.filter fun s => decide (s.name = name)
    simpa only [List.filter_filter, Bool.and_self] using this
  exact (hfilter.eq_of_length ((byName_perm ss).filter _).length_eq.symm).symm

/-! ## Entries -/

theorem nameOf_ok_iff {key : Value} {name : String} :
    nameOf service layer key = .ok name ↔
      key.scalarText? = .ok name ∧ Service.isName name = true := by
  unfold nameOf
  rcases key.scalarText? with e | text
  · simp
  · by_cases hok : Service.isName text = true
    · simp only [if_pos hok, Except.ok.injEq]
      constructor
      · rintro rfl
        exact ⟨rfl, hok⟩
      · exact And.left
    · simp only [if_neg hok, Except.ok.injEq]
      constructor
      · rintro ⟨⟩
      · rintro ⟨rfl, h⟩
        exact absurd h hok

theorem bodyOf_ok_iff {name : String} {v : Value} {body : Mapping} :
    bodyOf service layer name v = .ok body ↔ v = .mapping body ∨ v = .null ∧ body = [] := by
  cases v <;> simp [bodyOf, eq_comm]

theorem serviceOf_ok_iff {name : String} {body : Mapping} {s : Service} :
    serviceOf directory service layer name body = .ok s ↔
      ∃ t, Service.read (Value.mapping body) = .ok t ∧ t.unsupported = [] ∧
        s = ({ t with name } : Service).locate directory := by
  unfold serviceOf
  split
  · simp [*]
  · rename_i t ht
    by_cases h : ({ t with name } : Service).unsupported = []
    · simp only [if_pos h, Except.ok.injEq]
      constructor
      · rintro rfl
        exact ⟨t, ht, h, rfl⟩
      · rintro ⟨t', ht', -, rfl⟩
        rw [ht] at ht'
        cases ht'
        rfl
    · simp only [if_neg h]
      constructor
      · rintro ⟨⟩
      · rintro ⟨t', ht', h', -⟩
        rw [ht] at ht'
        cases ht'
        exact absurd h' h

/-- **What an entry defines**: the service of its body, under the text of its key. -/
theorem ofEntry_ok_iff {e : Value × Value} {s : Service} :
    ofEntry directory service layer e = .ok s ↔
      ∃ name body t, e.1.scalarText? = .ok name ∧ Service.isName name = true ∧
        (e.2 = .mapping body ∨ e.2 = .null ∧ body = []) ∧
        Service.read (Value.mapping body) = .ok t ∧ t.unsupported = [] ∧
        s = ({ t with name } : Service).locate directory := by
  simp only [ofEntry, bind_ok_iff, nameOf_ok_iff, bodyOf_ok_iff, serviceOf_ok_iff]
  constructor
  · rintro ⟨name, ⟨hname, hok⟩, body, hbody, t, ht, hs, rfl⟩
    exact ⟨name, body, t, hname, hok, hbody, ht, hs, rfl⟩
  · rintro ⟨name, body, t, hname, hok, hbody, ht, hs, rfl⟩
    exact ⟨name, ⟨hname, hok⟩, body, hbody, t, ht, hs, rfl⟩

theorem ofEntry_mapping_ok_iff {name : String} {body : Mapping} {s : Service} :
    ofEntry directory service layer (.string name, .mapping body) = .ok s ↔
      Service.isName name = true ∧ ∃ t, Service.read (Value.mapping body) = .ok t ∧
      t.unsupported = [] ∧
        s = ({ t with name } : Service).locate directory := by
  rw [ofEntry_ok_iff]
  constructor
  · rintro ⟨name', body', t, hname, hok, hbody, ht, hs, rfl⟩
    obtain rfl : name = name' := Except.ok.inj hname
    rcases hbody with hbody | ⟨hnull, -⟩
    · cases hbody
      exact ⟨hok, t, ht, hs, rfl⟩
    · cases hnull
  · rintro ⟨hok, t, ht, hs, rfl⟩
    exact ⟨name, body, t, rfl, hok, .inl rfl, ht, hs, rfl⟩

theorem name_of_ofEntry {e : Value × Value} {s : Service}
    (h : ofEntry directory service layer e = .ok s) : e.1.scalarText? = .ok s.name := by
  obtain ⟨name, body, t, hname, -, -, -, -, rfl⟩ := ofEntry_ok_iff.1 h
  exact hname

/-! ## Trees -/

/-- **What a tree defines**: one service for each entry, sorted by name. -/
theorem ofTree_ok_iff {tree : Mapping} {ss : List Service} :
    ofTree directory service layer tree = .ok ss ↔
      ∃ ts, List.Forall₂ (fun e t => ofEntry directory service layer e = .ok t) tree ts ∧
        ss = byName ts := by
  rw [ofTree, bind_ok_iff]
  simp only [pure_ok_iff, mapM_ok_iff]
  exact exists_congr fun ts => and_congr_right' eq_comm

theorem mem_ofTree {tree : Mapping} {ss : List Service} {s : Service}
    (h : ofTree directory service layer tree = .ok ss) (hs : s ∈ ss) :
    ∃ e ∈ tree, ofEntry directory service layer e = .ok s := by
  obtain ⟨ts, hts, rfl⟩ := ofTree_ok_iff.1 h
  rw [(byName_perm ts).mem_iff] at hs
  exact exists_right_of_forall₂ hts.flip s hs

end Definitions

end ComposePods

import ComposePods.Proofs.Distinctness
import ComposePods.Proofs.Errors

/-!
# Which trees define services

A tree defines services if every one of its entries defines one; what the other entries are does not
matter to it. So the order in which the entries come does not matter to whether there are services,
and the services come sorted by name. Only services of one name keep the order of their entries.

* `Service.isName_iff`: the texts that name services;
* `Definitions.Acceptable`: the entries that define a service, said without the services;
* `Definitions.Defines`: the service of an entry;
* `Definitions.ofTree_perm`: the entries of a tree in another order;
* **`Definitions.ofTree_settles`**: what a tree defines, and when it does.
-/

namespace ComposePods

namespace Service

/-- A letter, a digit, a dot, an underscore or a dash. -/
def IsNameChar (ch : Char) : Prop :=
  'a' ≤ ch ∧ ch ≤ 'z' ∨ 'A' ≤ ch ∧ ch ≤ 'Z' ∨ '0' ≤ ch ∧ ch ≤ '9' ∨ ch = '.' ∨ ch = '_' ∨ ch = '-'

theorem isNameChar_iff {ch : Char} : isNameChar ch = true ↔ IsNameChar ch := by
  have hupper : ch.isUpper = decide ('A' ≤ ch ∧ ch ≤ 'Z') := rfl
  have hlower : ch.isLower = (decide ('a' ≤ ch) && decide (ch ≤ 'z')) := rfl
  have hdigit : ch.isDigit = (decide ('0' ≤ ch) && decide (ch ≤ '9')) := rfl
  have halphanum : ch.isAlphanum = (ch.isUpper || ch.isLower || ch.isDigit) := rfl
  rw [isNameChar, halphanum, hupper, hlower, hdigit, IsNameChar]
  simp only [Bool.or_eq_true, Bool.and_eq_true, decide_eq_true_eq, beq_iff_eq]
  grind

/-- **The texts that name services** are those of such characters that are not empty. -/
theorem isName_iff {name : String} :
    isName name = true ↔ name ≠ "" ∧ ∀ ch ∈ name.toList, IsNameChar ch := by
  simp only [isName, Bool.and_eq_true, Bool.not_eq_true', List.isEmpty_eq_false_iff,
    List.all_eq_true, isNameChar_iff, ne_eq, String.toList_eq_nil_iff]

theorem unsupported_eq_nil_iff {s : Service} :
    s.unsupported = [] ↔ ∀ key ∈ s.extensions.keys, ∃ rest, key = "x-" ++ rest := by
  simp only [unsupported, isExtension, List.filter_eq_nil_iff, Bool.not_eq_true', Bool.not_eq_false,
    Text.startsWith_iff]

end Service

namespace Definitions

open Mapping

variable {directory service : String} {layer : Layer} {e : Value × Value} {tree tree' : Mapping}

/-! ## Entries -/

/-- A body is null, or a mapping of properties in which all further ones are extensions. -/
def IsBody (v : Value) : Prop :=
  v = .null ∨ ∃ body t, v = .mapping body ∧ Service.read v = .ok t ∧
    ∀ key ∈ t.extensions.keys, ∃ rest, key = "x-" ++ rest

/-- The key of an entry is a scalar whose text can name a service, and the other side is a body. -/
structure Acceptable (e : Value × Value) : Prop where
  name : ∃ name, e.1.scalarText? = .ok name ∧ name ≠ "" ∧ ∀ ch ∈ name.toList, Service.IsNameChar ch
  body : IsBody e.2

/-- An entry defines the service that its body describes, null for nothing, with its host paths
resolved and the text of its key for a name. -/
def Defines (directory : String) (e : Value × Value) (s : Service) : Prop :=
  ∃ name body t, e.1.scalarText? = .ok name ∧ (e.2 = .mapping body ∨ e.2 = .null ∧ body = []) ∧
    Service.read (Value.mapping body) = .ok t ∧ s = ({ t with name } : Service).locate directory

theorem read_nil : Service.read (Value.mapping []) = .ok (Service.empty "") := rfl

theorem isBody_iff {v : Value} : IsBody v ↔ ∃ body t, (v = .mapping body ∨ v = .null ∧ body = []) ∧
    Service.read (Value.mapping body) = .ok t ∧ t.unsupported = [] := by
  simp only [Service.unsupported_eq_nil_iff]
  constructor
  · rintro (rfl | ⟨body, t, rfl, ht, hkeys⟩)
    · exact ⟨[], _, .inr ⟨rfl, rfl⟩, read_nil, nofun⟩
    · exact ⟨body, t, .inl rfl, ht, hkeys⟩
  · rintro ⟨body, t, rfl | ⟨rfl, -⟩, ht, hkeys⟩
    · exact .inr ⟨body, t, rfl, ht, hkeys⟩
    · exact .inl rfl

/-- **An entry that is acceptable** defines a service, and no other one does. -/
theorem exists_ofEntry_iff : (∃ s, ofEntry directory service layer e = .ok s) ↔ Acceptable e := by
  simp only [ofEntry_ok_iff]
  constructor
  · rintro ⟨_, name, body, t, hname, hok, hbody, ht, hs, -⟩
    exact ⟨⟨name, hname, Service.isName_iff.1 hok⟩, isBody_iff.2 ⟨body, t, hbody, ht, hs⟩⟩
  · rintro ⟨⟨name, hname, hok⟩, hbody⟩
    obtain ⟨body, t, hbody, ht, hs⟩ := isBody_iff.1 hbody
    exact ⟨_, name, body, t, hname, Service.isName_iff.2 hok, hbody, ht, hs, rfl⟩

theorem defines_of_ofEntry {s : Service} (h : ofEntry directory service layer e = .ok s) :
    Defines directory e s := by
  obtain ⟨name, body, t, hname, -, hbody, ht, -, rfl⟩ := ofEntry_ok_iff.1 h
  exact ⟨name, body, t, hname, hbody, ht, rfl⟩

/-! ## Trees -/

/-- **A tree defines services** exactly if all of its entries are acceptable. -/
theorem exists_ofTree_iff :
    (∃ ss, ofTree directory service layer tree = .ok ss) ↔ ∀ e ∈ tree, Acceptable e := by
  constructor
  · rintro ⟨ss, h⟩ e he
    obtain ⟨ts, hts, -⟩ := ofTree_ok_iff.1 h
    obtain ⟨t, -, ht⟩ := exists_right_of_forall₂ hts e he
    exact exists_ofEntry_iff.1 ⟨t, ht⟩
  · intro h
    have hentries : ∀ e ∈ tree, ∃ s, ofEntry directory service layer e = .ok s := fun e he =>
      exists_ofEntry_iff.2 (h e he)
    obtain ⟨ts, hts⟩ := exists_mapM_ok_iff.2 hentries
    exact ⟨byName ts, ofTree_ok_iff.2 ⟨ts, mapM_ok_iff.1 hts, rfl⟩⟩

theorem ofTree_refused (h : ¬ ∀ e ∈ tree, Acceptable e) :
    ∃ error, ofTree directory service layer tree = .error (.schema service layer error) := by
  have hfail : ∀ ss, ofTree directory service layer tree ≠ .ok ss :=
    fun ss hss => h (exists_ofTree_iff.1 ⟨ss, hss⟩)
  obtain ⟨e, ⟨error, rfl⟩, he⟩ := (raises_ofTree directory service layer tree).exists_error hfail
  exact ⟨error, he⟩

theorem nodup_of_ofEntry {ts : List Service} (htree : Distinct tree)
    (htexts : Value.TextsDistinct (keys tree))
    (h : List.Forall₂ (fun e t => ofEntry directory service layer e = .ok t) tree ts) :
    (ts.map (·.name)).Nodup := by
  refine Value.nodup_of_textsDistinct (distinct_iff.1 htree) htexts ?_
  rw [keys, List.forall₂_map_left_iff, List.forall₂_map_right_iff]
  exact h.imp fun _ _ => name_of_ofEntry

/-- **The order of the entries does not matter**, if different keys have different texts. -/
theorem ofTree_perm (h : tree.Perm tree') (htree : Distinct tree)
    (htexts : Value.TextsDistinct (keys tree)) {ss : List Service}
    (hss : ofTree directory service layer tree = .ok ss) :
    ofTree directory service layer tree' = .ok ss := by
  obtain ⟨ts, hts, rfl⟩ := ofTree_ok_iff.1 hss
  have : Inhabited Service := ⟨Service.empty ""⟩
  obtain ⟨g, hg, rfl⟩ := exists_map_of_mapM_ok (mapM_ok_iff.2 hts)
  have hts' : List.Forall₂ (fun e t => ofEntry directory service layer e = .ok t) tree'
      (tree'.map g) :=
    List.forall₂_map_right_iff.2 (List.forall₂_same.2 fun e he => hg e (h.mem_iff.2 he))
  have hsorted := byName_eq_of_perm (h.map g) (nodup_of_ofEntry htree htexts hts)
  exact ofTree_ok_iff.2 ⟨tree'.map g, hts', hsorted⟩

/-- **What a tree defines.** A tree defines services exactly if the text of every root key can name
one and every body is null or a mapping of properties without any that are neither known nor
extensions; otherwise it is refused, for the service and the layer that it is for. There is one
definition for each root key, and they are sorted by name; where names are equal, the order of the
entries counts. Where names are not, it counts for nothing. -/
theorem ofTree_settles (directory service : String) (layer : Layer) (tree : Mapping) :
    ((∃ ss, ofTree directory service layer tree = .ok ss) ↔ ∀ e ∈ tree, Acceptable e) ∧
      ((¬ ∀ e ∈ tree, Acceptable e) →
        ∃ error, ofTree directory service layer tree = .error (.schema service layer error)) ∧
      (∀ ss, ofTree directory service layer tree = .ok ss →
        ∃ ts, List.Forall₂ (Defines directory) tree ts ∧ ss.Perm ts ∧
          (ss.Pairwise fun a b => (compare a.name b.name).isLE = true) ∧
          ∀ name, (ss.filter fun s => s.name = name) = ts.filter fun s => s.name = name) ∧
      ∀ tree', tree.Perm tree' → Distinct tree → Value.TextsDistinct (keys tree) →
        (∃ ss, ofTree directory service layer tree = .ok ss ∧
          ofTree directory service layer tree' = .ok ss) ∨
          ∃ error error', ofTree directory service layer tree =
            .error (.schema service layer error) ∧
            ofTree directory service layer tree' = .error (.schema service layer error') := by
  refine ⟨exists_ofTree_iff, ofTree_refused, fun ss hss => ?_, fun tree' hperm htree htexts => ?_⟩
  · obtain ⟨ts, hts, rfl⟩ := ofTree_ok_iff.1 hss
    exact ⟨ts, hts.imp fun _ _ => defines_of_ofEntry, byName_perm ts, byName_sorted ts,
      byName_filter ts⟩
  · by_cases hall : ∀ e ∈ tree, Acceptable e
    · obtain ⟨ss, hss⟩ := exists_ofTree_iff.2 hall
      exact .inl ⟨ss, hss, ofTree_perm hperm htree htexts hss⟩
    · have hall' : ¬ ∀ e ∈ tree', Acceptable e := fun h => hall fun e he => h e (hperm.mem_iff.1 he)
      obtain ⟨error, herror⟩ := ofTree_refused hall
      obtain ⟨error', herror'⟩ := ofTree_refused hall'
      exact .inr ⟨error, error', herror, herror'⟩

/-- Root keys of three kinds in two orders, one of them without a body, and root keys and bodies
that are refused. -/
theorem ofTree_settles_kinds :
    let number : Value := .number (.integer 80)
    let tree : Mapping :=
      [(.string "zeta", .mapping [(.string "image", .string "z"), (.string "x-note", .null)]),
        (number, .null), (.tagged "!t" (.bool true), .mapping [])]
    let refused : Mapping :=
      [(.null, .null), (.string "", .null), (.string "a b", .null), (.string "a", .sequence []),
        (.string "a", .mapping [(.string "env", number)]),
        (.string "a", .mapping [(.string "image", .mapping [])])]
    Distinct tree ∧ Value.TextsDistinct (keys tree) ∧ (∀ e ∈ tree, Acceptable e) ∧
      (∃ ss, ofTree "/work" "web" .component tree = .ok ss ∧
        ofTree "/work" "web" .component tree.reverse = .ok ss) ∧
      ∀ e ∈ refused, ∃ error, ofTree "/work" "web" .component [e] =
        .error (.schema "web" .component error) := by
  intro number tree refused
  have htree : Distinct tree := by decide +kernel
  have htexts : Value.TextsDistinct (keys tree) := by decide +kernel
  obtain ⟨ss, hss⟩ : ∃ ss, ofTree "/work" "web" .component tree = .ok ss :=
    exists_ok_of_isOk (by decide +kernel)
  have hfails : ∀ e ∈ refused, (ofTree "/work" "web" .component [e]).isOk = false := by
    decide +kernel
  obtain ⟨haccepts, -, -, horder⟩ := ofTree_settles "/work" "web" .component tree
  refine ⟨htree, htexts, haccepts.1 ⟨ss, hss⟩, ?_, fun e he => ?_⟩
  · rcases horder tree.reverse tree.reverse_perm.symm htree htexts
      with hboth | ⟨error, error', herror, -⟩
    · exact hboth
    · cases hss.symm.trans herror
  · obtain ⟨haccepts, hrefused, -⟩ := ofTree_settles "/work" "web" .component [e]
    refine hrefused fun hall => ?_
    obtain ⟨ts, hts⟩ := haccepts.2 hall
    have hfail := hfails e he
    rw [hts] at hfail
    cases hfail

end Definitions

end ComposePods

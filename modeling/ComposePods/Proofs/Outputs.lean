import ComposePods.Pod.Controller
import ComposePods.Proofs.Definitions
import ComposePods.Proofs.Entries

/-!
# Outputs of the side components and the copies

The side components and the copies are collected under the texts of their root keys. Root keys that
are different values may have the same text, as a number and the string of its digits have; then the
last of their outputs takes the place of the others, which is not told. All outputs are there
exactly if the texts of the root keys are distinct.

* `Dict.Collects`: what is left of some outputs under their names;
* `Context.IsComponent`, `Context.IsCopy`: the output of one root key;
* **`Context.outputs_collected`**: what is left of the outputs of all root keys;
* `Context.component_lost`: an output that is not there.
-/

namespace ComposePods

/-! ## Outputs under their names -/

namespace Dict

variable {α : Type}

/-- The dictionary is what is left of some outputs under their names: each name has one entry, the
last output of the name, and all outputs are there exactly if no two of them have the same name. -/
structure Collects (d : Dict α) (outputs : List (String × α)) : Prop where
  keys : d.keys.Perm (outputs.map Prod.fst).dedup
  last : ∀ name, d.get? name = ((outputs.filter fun o => o.1 = name).getLast?).map Prod.snd
  all_iff : d.entries.Perm outputs ↔ (outputs.map Prod.fst).Nodup

theorem collects_ofList (outputs : List (String × α)) : (ofList outputs).Collects outputs where
  keys := keys_ofList_perm outputs
  last := get?_ofList outputs
  all_iff := perm_ofList_iff

theorem collects_ofList_of_perm {outputs sorted : List (String × α)} (hperm : sorted.Perm outputs)
    (hfilter : ∀ name, sorted.filter (fun o => o.1 = name) = outputs.filter fun o => o.1 = name) :
    (ofList sorted).Collects outputs where
  keys := (keys_ofList_perm sorted).trans (hperm.map Prod.fst).dedup
  last name := by rw [get?_ofList, hfilter]
  all_iff := by
    rw [← (hperm.map Prod.fst).nodup_iff, ← perm_ofList_iff]
    exact ⟨fun h => h.trans hperm.symm, fun h => h.trans hperm⟩

end Dict

namespace Context

open Controller Definitions

variable (c : Context)

/-- The output of a root key of the side components: its name is the text of the key, its text that
of the service that the entry defines. -/
def IsComponent (e : Value × Value) (o : String × String) : Prop :=
  e.1.scalarText? = .ok o.1 ∧
    ∃ s, ofEntry c.directory c.service.name .component e = .ok s ∧ serviceText s = .ok o.2

/-- The output of a root key of the copies: its name is the text of the key, its text that of the
list of copies. -/
def IsCopy (e : Value × Value) (o : String × String) : Prop :=
  e.1.scalarText? = .ok o.1 ∧
    ∃ pairs, Copies.pairs e.2 c.service.name = .ok pairs ∧ textOf (Value.strings pairs) = .ok o.2

variable {c}

theorem componentEntry_ok_iff {s : Service} {o : String × String} :
    componentEntry s = .ok o ↔ o.1 = s.name ∧ serviceText s = .ok o.2 := by
  obtain ⟨name, text⟩ := o
  simp only [componentEntry, bind_ok_iff, pure_ok_iff, Prod.mk.injEq]
  constructor
  · rintro ⟨_, h, rfl, rfl⟩
    exact ⟨rfl, h⟩
  · rintro ⟨rfl, h⟩
    exact ⟨text, h, rfl, rfl⟩

theorem isComponent_of_ofEntry {e : Value × Value} {s : Service} {o : String × String}
    (he : ofEntry c.directory c.service.name .component e = .ok s) (ho : componentEntry s = .ok o) :
    c.IsComponent e o := by
  obtain ⟨hname, htext⟩ := componentEntry_ok_iff.1 ho
  exact ⟨by rw [hname]; exact name_of_ofEntry he, s, he, htext⟩

theorem isCopy_of_copyEntry {e : Value × Value} {o : String × String} (h : c.copyEntry e = .ok o) :
    c.IsCopy e o := by
  simp only [copyEntry, bind_ok_iff, pure_ok_iff] at h
  obtain ⟨target, htarget, pairs, hpairs, text, htext, rfl⟩ := h
  refine ⟨?_, pairs, hpairs, htext⟩
  unfold Copies.scalar at htarget
  split at htarget
  · rename_i hs
    rw [hs, Except.ok.inj htarget]
  · cases htarget

theorem componentTexts_ok_iff {fragments : List Mapping} {d : Dict String} :
    c.componentTexts fragments = .ok d ↔
      ∃ ts outputs, List.Forall₂
          (fun e t => ofEntry c.directory c.service.name .component e = .ok t)
          (Mapping.mergeAll fragments) ts ∧
        (byName ts).mapM componentEntry = .ok outputs ∧ d = .ofList outputs := by
  simp only [componentTexts, definitions, bind_ok_iff, pure_ok_iff, ofTree_ok_iff]
  constructor
  · rintro ⟨_, ⟨ts, hts, rfl⟩, outputs, houtputs, rfl⟩
    exact ⟨ts, outputs, hts, houtputs, rfl⟩
  · rintro ⟨ts, outputs, hts, houtputs, rfl⟩
    exact ⟨_, ⟨ts, hts, rfl⟩, outputs, houtputs, rfl⟩

theorem componentTexts_collects {fragments : List Mapping} {d : Dict String}
    (h : c.componentTexts fragments = .ok d) :
    ∃ outputs, List.Forall₂ c.IsComponent (Mapping.mergeAll fragments) outputs ∧
      d.Collects outputs := by
  obtain ⟨ts, es, hts, hes, rfl⟩ := componentTexts_ok_iff.1 h
  obtain ⟨g, hg, rfl⟩ := exists_map_of_mapM_ok hes
  -- The outputs in the order of the root keys: the sorted ones are these in another order.
  have hg {t : Service} (ht : t ∈ ts) : componentEntry t = .ok (g t) :=
    hg t ((byName_perm ts).mem_iff.2 ht)
  refine ⟨ts.map g, ?_, Dict.collects_ofList_of_perm ((byName_perm ts).map g) fun name => ?_⟩
  · rw [List.forall₂_map_right_iff]
    have hboth := ((List.forall₂_and_left ts (Mapping.mergeAll fragments)).2
      ⟨fun _ => hg, hts.flip⟩).flip
    exact hboth.imp fun e t h => isComponent_of_ofEntry h.2 h.1
  · have hname (t : Service) (ht : t ∈ ts) :
        (decide ((g t).1 = name)) = decide (t.name = name) := by
      rw [(componentEntry_ok_iff.1 (hg ht)).1]
    rw [List.filter_map, List.filter_map]
    congr 1
    have h1 := List.filter_congr hname
    have h2 := List.filter_congr fun t ht => hname t ((byName_perm ts).mem_iff.1 ht)
    exact h2.trans ((byName_filter ts name).trans h1.symm)

theorem copyTexts_collects {fragments : List Mapping} {d : Dict String}
    (h : c.copyTexts fragments = .ok d) :
    ∃ outputs, List.Forall₂ c.IsCopy (Mapping.mergeAll fragments) outputs ∧ d.Collects outputs := by
  simp only [copyTexts, bind_ok_iff, pure_ok_iff] at h
  obtain ⟨outputs, houtputs, rfl⟩ := h
  refine ⟨outputs, ?_, Dict.collects_ofList outputs⟩
  exact (mapM_ok_iff.1 houtputs).imp fun _ _ => isCopy_of_copyEntry

/-- **What is left of the outputs of all root keys.** Of root keys of the same text the last one
counts, and all outputs of a layer are there exactly if no two of its root keys have the same
text. -/
theorem outputs_collected (c : Context) (fragments : List Mapping) :
    (∀ d, c.componentTexts fragments = .ok d →
      ∃ outputs, List.Forall₂ c.IsComponent (Mapping.mergeAll fragments) outputs ∧
        d.Collects outputs) ∧
      ∀ d, c.copyTexts fragments = .ok d →
        ∃ outputs, List.Forall₂ c.IsCopy (Mapping.mergeAll fragments) outputs ∧
        d.Collects outputs :=
  ⟨fun _ h => componentTexts_collects h, fun _ h => copyTexts_collects h⟩

/-- Two root keys in two fragments, for side components and for copies. -/
theorem outputs_collected_db_log :
    let c := Context.ofService Project.empty "/work" (Service.empty "web") Templates.empty
    let components : List Mapping :=
      [[(.string "db", .mapping [(.string "image", .string "postgres")])],
        [(.string "log", .mapping [(.string "user", .string "root")])]]
    let copied : List Mapping :=
      [[(.string "db", .sequence [.string "/a:/b", .string "/c:/d"])],
        [(.string "log", .string "/e:/f")]]
    ∃ d k, c.componentTexts components = .ok d ∧ c.copyTexts copied = .ok k ∧
      d.entries = [("db", "image: postgres\n"), ("log", "user: root\n")] ∧
      k.entries = [("db", "- /a:/b\n- /c:/d\n"), ("log", "- /e:/f\n")] ∧
      (∃ outputs, List.Forall₂ c.IsComponent (Mapping.mergeAll components) outputs ∧
        d.Collects outputs) ∧
      ∃ outputs, List.Forall₂ c.IsCopy (Mapping.mergeAll copied) outputs ∧ k.Collects outputs := by
  intro c components copied
  let db := (Service.empty "db").set .image (some "postgres")
  let log := (Service.empty "log").set .user (some "root")
  have hread : ((Mapping.mergeAll components).mapM
      (ofEntry c.directory c.service.name .component)).toOption = some [db, log] := by
    decide +kernel
  have hsorted : byName [db, log] = [db, log] := List.mergeSort_of_pairwise (by decide +kernel)
  have htexts : ([db, log].mapM componentEntry).toOption =
      some [("db", "image: postgres\n"), ("log", "user: root\n")] := by decide +kernel
  rw [toOption_some_iff] at hread htexts
  rw [← hsorted] at htexts
  have hd : c.componentTexts components = .ok _ :=
    componentTexts_ok_iff.2 ⟨[db, log], _, mapM_ok_iff.1 hread, htexts, rfl⟩
  obtain ⟨k, hk, hentries⟩ : ∃ k, c.copyTexts copied = .ok k ∧
      k.entries = [("db", "- /a:/b\n- /c:/d\n"), ("log", "- /e:/f\n")] := by
    have hcopies : (c.copyTexts copied).toOption.map Dict.entries =
        some [("db", "- /a:/b\n- /c:/d\n"), ("log", "- /e:/f\n")] := by decide +kernel
    obtain ⟨k, hk, hentries⟩ := Option.map_eq_some_iff.1 hcopies
    exact ⟨k, toOption_some_iff.1 hk, hentries⟩
  have hlast := outputs_collected c
  exact ⟨_, k, hd, hk, by decide +kernel, hentries, (hlast components).1 _ hd,
    (hlast copied).2 k hk⟩

/-- **An output that is not there.** The number 8080 and the string of its digits are different root
keys, and of their components only the last one is left. -/
theorem component_lost :
    let c := Context.ofService Project.empty "/work" (Service.empty "web") Templates.empty
    let fragments : List Mapping :=
      [[(.number (.integer 8080), .mapping [(.string "image", .string "a")]),
        (.string "8080", .mapping [(.string "user", .string "b")])]]
    Mapping.Distinct (Mapping.mergeAll fragments) ∧ (Mapping.mergeAll fragments).length = 2 ∧
      ∃ d, c.componentTexts fragments = .ok d ∧ d.entries = [("8080", "user: b\n")] := by
  intro c fragments
  let a := (Service.empty "8080").set .image (some "a")
  let b := (Service.empty "8080").set .user (some "b")
  have hts : ((Mapping.mergeAll fragments).mapM
      (ofEntry c.directory c.service.name .component)).toOption = some [a, b] := by decide +kernel
  have hsorted : byName [a, b] = [a, b] := List.mergeSort_of_pairwise (by decide +kernel)
  have houtputs : ([a, b].mapM componentEntry).toOption =
      some [("8080", "image: a\n"), ("8080", "user: b\n")] := by decide +kernel
  rw [toOption_some_iff] at hts houtputs
  rw [← hsorted] at houtputs
  have h : c.componentTexts fragments = _ :=
    componentTexts_ok_iff.2 ⟨[a, b], _, mapM_ok_iff.1 hts, houtputs, rfl⟩
  exact ⟨by decide +kernel, by decide +kernel, _, h, by decide +kernel⟩

end Context

end ComposePods

import ComposePods.Compose.Loose
import ComposePods.Proofs.Lookups
import ComposePods.Proofs.Outcome
import ComposePods.Typing.Source

/-!
# Values that repeat no key

No mapping of a document has two entries of the same key, at whatever depth it stands. Looking up,
inserting and changing values in place keep it so.

* `Value.keysDistinct_mapping_iff`: what it means for a mapping;
* `Value.keysDistinct_of_get?`, `Value.keysDistinct_insert`, `Value.keysDistinct_adjust`,
  `Value.keysDistinct_overlay`: what is found, and what is put in;
* `Value.TextsDistinct`, `Value.nodup_of_textsDistinct`: different keys that have different texts
  too.
-/

namespace ComposePods

namespace Value

open Mapping

theorem keysDistinctItems_iff {vs : List Value} :
    keysDistinctItems vs = true ↔ ∀ v ∈ vs, v.keysDistinct = true := by
  induction vs with
  | nil => simp [keysDistinctItems]
  | cons v vs ih => simp [keysDistinctItems, ih]

theorem keysDistinctEntries_iff {es : Mapping} :
    keysDistinctEntries es = true ↔
    ∀ e ∈ es, e.1.keysDistinct = true ∧ e.2.keysDistinct = true := by
  induction es with
  | nil => simp [keysDistinctEntries]
  | cons e es ih =>
    obtain ⟨k, v⟩ := e
    simp [keysDistinctEntries, ih]

theorem keysDistinct_mapping_iff {m : Mapping} :
    (Value.mapping m).keysDistinct = true ↔
      (∀ e ∈ m, e.1.keysDistinct = true ∧ e.2.keysDistinct = true) ∧ m.Distinct := by
  rw [keysDistinct, Bool.and_eq_true, keysDistinctEntries_iff, decide_eq_true_eq]

theorem keysDistinct_of_get? {m : Mapping} (hm : (Value.mapping m).keysDistinct = true)
    {k : Value} : ∀ v ∈ get? m k, v.keysDistinct = true := by
  intro v hv
  obtain ⟨l, hl, -⟩ := exists_mem_of_get? hv
  exact ((keysDistinct_mapping_iff.1 hm).1 _ hl).2

theorem keysDistinct_insert {m : Mapping} {k v : Value} (hm : (Value.mapping m).keysDistinct = true)
    (hk : k.keysDistinct = true) (hv : v.keysDistinct = true) :
    (Value.mapping (insert m k v)).keysDistinct = true := by
  rw [keysDistinct_mapping_iff] at hm ⊢
  obtain ⟨hentries, hm⟩ := hm
  refine ⟨?_, distinct_insert hm k v⟩
  clear hm
  induction m with
  | nil => exact List.forall_mem_singleton.2 ⟨hk, hv⟩
  | cons e rest ih =>
    obtain ⟨l, w⟩ := e
    obtain ⟨he, hrest⟩ := List.forall_mem_cons.1 hentries
    rw [Mapping.insert]
    split
    · exact List.forall_mem_cons.2 ⟨⟨he.1, hv⟩, hrest⟩
    · exact List.forall_mem_cons.2 ⟨he, ih hrest⟩

theorem keysDistinct_adjust {m : Mapping} {k : Value} (hm : (Value.mapping m).keysDistinct = true)
    {f : Value → Value} (hf : ∀ v ∈ get? m k, (f v).keysDistinct = true) :
    (Value.mapping (adjust f m k)).keysDistinct = true := by
  rw [keysDistinct_mapping_iff] at hm ⊢
  obtain ⟨hentries, hm⟩ := hm
  refine ⟨?_, distinct_adjust hm f k⟩
  clear hm
  induction m with
  | nil => exact nofun
  | cons e rest ih =>
    obtain ⟨l, w⟩ := e
    obtain ⟨he, hrest⟩ := List.forall_mem_cons.1 hentries
    rw [get?] at hf
    rw [adjust]
    by_cases hl : l.same k = true
    · rw [if_pos hl] at hf ⊢
      exact List.forall_mem_cons.2 ⟨⟨he.1, hf w rfl⟩, hrest⟩
    · rw [if_neg hl] at hf ⊢
      exact List.forall_mem_cons.2 ⟨he, ih hf hrest⟩

theorem keysDistinct_overlay {base own : Mapping} (hbase : (Value.mapping base).keysDistinct = true)
    (hown : (Value.mapping own).keysDistinct = true) :
    (Value.mapping (overlay base own)).keysDistinct = true := by
  have hentries := (keysDistinct_mapping_iff.1 hown).1
  clear hown
  induction own generalizing base with
  | nil => exact hbase
  | cons e own ih =>
    obtain ⟨⟨hk, hv⟩, hentries⟩ := List.forall_mem_cons.1 hentries
    exact ih (keysDistinct_insert hbase hk hv) hentries

/-- Keys that have the same text are the same key. -/
def TextsDistinct (ks : List Value) : Prop :=
  ∀ k ∈ ks, ∀ l ∈ ks, ∀ text, k.scalarText? = .ok text → l.scalarText? = .ok text → k.same l = true

theorem textsDistinct_iff {ks : List Value} :
    TextsDistinct ks ↔ ∀ k ∈ ks, ∀ l ∈ ks, k.scalarText?.isOk = true →
    k.scalarText? = l.scalarText? →
      k.same l = true := by
  constructor
  · intro h k hk l hl hok heq
    obtain ⟨text, htext⟩ := exists_ok_of_isOk hok
    exact h k hk l hl text htext (heq.symm.trans htext)
  · intro h k hk l hl text hk' hl'
    exact h k hk l hl (by rw [hk']; rfl) (hk'.trans hl'.symm)

instance (ks : List Value) : Decidable (TextsDistinct ks) :=
  decidable_of_iff _ textsDistinct_iff.symm

theorem TextsDistinct.mono {ks ls : List Value} (h : TextsDistinct ls) (hsub : ks ⊆ ls) :
    TextsDistinct ks :=
  fun k hk l hl => h k (hsub hk) l (hsub hl)

theorem nodup_of_textsDistinct {ks : List Value} (hks : ks.Pairwise fun k l => k.same l = false)
    (htexts : TextsDistinct ks) {texts : List String}
    (h : List.Forall₂ (fun k text => k.scalarText? = .ok text) ks texts) : texts.Nodup := by
  induction h with
  | nil => exact List.nodup_nil
  | @cons k text ks texts hk hrest ih =>
    obtain ⟨hnew, hks⟩ := List.pairwise_cons.1 hks
    refine List.nodup_cons.2 ⟨fun hmem => ?_, ih hks (htexts.mono (List.subset_cons_self k ks))⟩
    obtain ⟨l, hl, htext⟩ := exists_right_of_forall₂ hrest.flip text hmem
    have hsame := htexts k List.mem_cons_self l (List.mem_cons_of_mem k hl) text hk htext
    rw [hnew l hl] at hsame
    cases hsame

end Value

end ComposePods

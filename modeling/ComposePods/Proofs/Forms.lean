import ComposePods.Compose.Build
import ComposePods.Compose.Grant
import ComposePods.Compose.Networks
import ComposePods.Compose.Port
import ComposePods.Compose.Volume
import ComposePods.Proofs.Records
import Mathlib.Data.Option.Basic

/-!
# Forms read back

Each property with several forms is written in the form that it has, and no earlier form fits what
is written; so it is read back as it was. Numbers have to be in the range of their place, and the
mappings of a mount without tags and repeated keys. This is so of everything that has been read.

* `TextOrNumber.Sound`, `Grant.Sound`, `Port.Sound`, `Volume.Sound`: what is read;
* `TextOrList.read?_toValue`, `TextOrNumber.read?_toValue`, `Build.read?_toValue`,
  `Grant.read?_toValue`, `Networks.read?_toValue`, `Port.read?_toValue`, **`Volume.read?_toValue`**:
  what is written is read back;
* `hasTag_toValue` of each: it is written without tags.
-/

namespace ComposePods

open Form

/-! ## Texts, lists and numbers -/

namespace TextOrList

theorem read?_toValue (t : TextOrList) : read? t.toValue = some t := by
  cases t with
  | single text => rfl
  | list texts =>
    rw [toValue, read?, listOf?_strings]
    rfl

theorem hasTag_toValue (t : TextOrList) : t.toValue.hasTag = false := by
  cases t with
  | single text => rfl
  | list texts => exact Value.hasTag_strings texts

theorem toValue_ne_null (t : TextOrList) : t.toValue ≠ .null := by
  cases t <;> rintro ⟨⟩

end TextOrList

namespace TextOrNumber

/-- A number has at most 64 bits. -/
def Sound : TextOrNumber → Prop
  | .number n => n ≤ largestCount
  | .text _ => True

theorem read?_toValue {t : TextOrNumber} (h : t.Sound) : read? t.toValue = some t := by
  cases t with
  | number n =>
    rw [toValue, read?, natural?_ofNat h]
    rfl
  | text s => rfl

theorem hasTag_toValue (t : TextOrNumber) : t.toValue.hasTag = false := by
  cases t <;> rfl

theorem toValue_ne_null (t : TextOrNumber) : t.toValue ≠ .null := by
  cases t <;> rintro ⟨⟩

theorem sound_of_read? {v : Value} {t : TextOrNumber} (h : read? v = some t) : t.Sound := by
  rw [read?, Option.orElse_eq_some] at h
  rcases h with h | ⟨-, h⟩
  · obtain ⟨n, hn, rfl⟩ := Option.map_eq_some_iff.1 h
    exact le_of_natural? hn
  · obtain ⟨s, -, rfl⟩ := Option.map_eq_some_iff.1 h
    trivial

end TextOrNumber

/-! ## Builds -/

namespace Build

theorem pairsForm?_ofPairs (d : Dict (Option String)) : Value.pairsForm? (.ofPairs d) = some d := by
  have hdistinct : (Value.ofPairs d).keysDistinct = true :=
    Value.keysDistinct_ofDict fun o => by cases o <;> rfl
  rw [Value.pairsForm?, if_pos hdistinct, Value.pairs?_ofPairs]
  rfl

theorem readOptions?_optionsValue (o : BuildOptions) : readOptions? (optionsValue o) = some o := by
  have hargs : fieldOr? .empty Value.pairsForm? (Value.unlessEmpty .ofPairs o.args) =
      some o.args := by
    rcases Value.unlessEmpty_cases .ofPairs o.args with ⟨h, hempty⟩ | h
    · rw [h, hempty]
      rfl
    · rw [h]
      exact pairsForm?_ofPairs o.args
  rw [readOptions?, optionsValue, slots?_record]
  · simp [hargs]
  · rfl
  · decide

theorem read?_toValue (b : Build) : read? b.toValue = some b := by
  cases b with
  | context path => rfl
  | detailed options =>
    rw [toValue, read?, readOptions?_optionsValue]
    rfl

theorem hasTag_toValue (b : Build) : b.toValue.hasTag = false := by
  cases b with
  | context path => rfl
  | detailed o =>
    refine Value.hasTag_record ?_
    simp only [List.forall_mem_cons]
    refine ⟨Value.hasTag_map _ fun _ _ => rfl, Value.hasTag_map _ fun _ _ => rfl, fun v hv => ?_,
      Value.hasTag_map _ fun _ _ => rfl, nofun⟩
    obtain rfl := Value.eq_of_unlessEmpty hv
    exact Value.hasTag_ofDict Value.hasTag_ofTextOrNull

theorem toValue_ne_null (b : Build) : b.toValue ≠ .null := by
  cases b <;> rintro ⟨⟩

end Build

/-! ## Grants -/

namespace Grant

/-- A mode has at most 32 bits. -/
def Sound : Grant → Prop
  | .name _ => True
  | .detailed o => ∀ m ∈ o.mode, m ≤ largestMode

theorem readOptions?_optionsValue {o : GrantOptions} (h : ∀ m ∈ o.mode, m ≤ largestMode) :
    readOptions? (optionsValue o) = some o := by
  rw [readOptions?, optionsValue, slots?_record]
  · simp [field?_natural h, text?]
  · rfl
  · decide

theorem read?_toValue {g : Grant} (h : g.Sound) : read? g.toValue = some g := by
  cases g with
  | name source => rfl
  | detailed options =>
    rw [toValue, read?, readOptions?_optionsValue h]
    rfl

theorem hasTag_toValue (g : Grant) : g.toValue.hasTag = false := by
  cases g with
  | name source => rfl
  | detailed o =>
    refine Value.hasTag_record ?_
    simp only [List.forall_mem_cons]
    exact ⟨fun _ hv => by cases hv; rfl, Value.hasTag_map _ fun _ _ => rfl,
      Value.hasTag_map _ fun _ _ => rfl, Value.hasTag_map _ fun _ _ => rfl,
      Value.hasTag_map _ fun _ _ => rfl, nofun⟩

theorem sound_of_read? {v : Value} {g : Grant} (h : read? v = some g) : g.Sound := by
  rw [read?, Option.orElse_eq_some] at h
  rcases h with h | ⟨-, h⟩
  · obtain ⟨s, -, rfl⟩ := Option.map_eq_some_iff.1 h
    trivial
  · obtain ⟨o, ho, rfl⟩ := Option.map_eq_some_iff.1 h
    simp only [readOptions?, Option.bind_eq_bind, Option.bind_eq_some_iff] at ho
    obtain ⟨slots, -, ho⟩ := ho
    split at ho
    · simp only [Option.bind_eq_some_iff, Option.pure_def, Option.some.injEq] at ho
      obtain ⟨_, -, _, -, _, -, _, -, mode, hmode, rfl⟩ := ho
      exact le_of_field? hmode
    · cases ho

end Grant

/-! ## Networks -/

namespace Networks

theorem readAttachment?_attachmentValue (a : Attachment) :
    readAttachment? (attachmentValue a) = some a := by
  have haliases : fieldOr? [] (listOf? text?) (Value.listUnlessEmpty .string a.aliases) =
      some a.aliases := by
    rcases Value.listUnlessEmpty_cases .string a.aliases with ⟨h, hempty⟩ | h
    · rw [h, hempty]
      rfl
    · rw [h]
      exact listOf?_strings a.aliases
  rw [readAttachment?, attachmentValue, slots?_record]
  · simp [haliases]
  · rfl
  · decide

theorem readEntry?_attachmentOrNull (name : String) (o : Option Attachment) :
    readEntry? (.string name, attachmentOrNull o) = some (name, o) := by
  cases o with
  | none => rfl
  | some a =>
    have hread : optional? readAttachment? (attachmentValue a) = some (some a) := by
      change some <$> readAttachment? (attachmentValue a) = _
      rw [readAttachment?_attachmentValue]
      rfl
    simp [ readEntry?, attachmentOrNull, text?, hread]

theorem read?_toValue (n : Networks) : read? n.toValue = some n := by
  cases n with
  | list names =>
    rw [toValue, read?, listOf?_strings]
    rfl
  | attached d =>
    have hentries : (d.entries.map fun e =>
      (Value.string e.1, attachmentOrNull e.2)).mapM readEntry? =
        some d.entries := by
      rw [mapM_some_iff, List.forall₂_map_left_iff, List.forall₂_same]
      exact fun e _ => readEntry?_attachmentOrNull e.1 e.2
    have hread : readAttached? (.ofDict attachmentOrNull d) = some d := by
      rw [Value.ofDict, readAttached?, hentries]
      exact congrArg some d.ofList_entries
    rw [toValue, read?, hread]
    rfl

theorem hasTag_attachmentOrNull (o : Option Attachment) : (attachmentOrNull o).hasTag = false := by
  cases o with
  | none => rfl
  | some a =>
    refine Value.hasTag_record ?_
    simp only [List.forall_mem_cons]
    refine ⟨fun v hv => ?_, Value.hasTag_map _ fun _ _ => rfl, Value.hasTag_map _ fun _ _ => rfl,
      nofun⟩
    obtain rfl := Value.eq_of_listUnlessEmpty hv
    exact Value.hasTag_strings a.aliases

theorem hasTag_toValue (n : Networks) : n.toValue.hasTag = false := by
  cases n with
  | list names => exact Value.hasTag_strings names
  | attached d => exact Value.hasTag_ofDict hasTag_attachmentOrNull

theorem toValue_ne_null (n : Networks) : n.toValue ≠ .null := by
  cases n <;> rintro ⟨⟩

end Networks

/-! ## Ports -/

namespace Port

/-- A number alone has at most 64 bits, the ports of a record have at most 16. -/
def Sound : Port → Prop
  | .number n => n ≤ largestCount
  | .short _ => True
  | .long m => m.target ≤ largest ∧ ∀ n ∈ m.published, n ≤ largest

theorem readMapping?_mappingValue {m : PortMapping} (htarget : m.target ≤ largest)
    (hpublished : ∀ n ∈ m.published, n ≤ largest) : readMapping? (mappingValue m) = some m := by
  rw [readMapping?, mappingValue, slots?_record]
  · simp [natural?_ofNat htarget, field?_natural hpublished]
  · rfl
  · decide

theorem read?_toValue {p : Port} (h : p.Sound) : read? p.toValue = some p := by
  cases p with
  | number n =>
    rw [toValue, read?, natural?_ofNat h]
    rfl
  | short text => rfl
  | long m =>
    rw [toValue, read?, readMapping?_mappingValue h.1 h.2]
    rfl

theorem hasTag_toValue (p : Port) : p.toValue.hasTag = false := by
  cases p with
  | number n => rfl
  | short text => rfl
  | long m =>
    refine Value.hasTag_record ?_
    simp only [List.forall_mem_cons]
    exact ⟨fun _ hv => by cases hv; rfl, Value.hasTag_map _ fun _ _ => rfl,
      Value.hasTag_map _ fun _ _ => rfl, Value.hasTag_map _ fun _ _ => rfl, nofun⟩

theorem sound_of_read? {v : Value} {p : Port} (h : read? v = some p) : p.Sound := by
  rw [read?, Option.orElse_eq_some, Option.orElse_eq_some] at h
  rcases h with h | ⟨-, h | ⟨-, h⟩⟩
  · obtain ⟨n, hn, rfl⟩ := Option.map_eq_some_iff.1 h
    exact le_of_natural? hn
  · obtain ⟨s, -, rfl⟩ := Option.map_eq_some_iff.1 h
    trivial
  · obtain ⟨m, hm, rfl⟩ := Option.map_eq_some_iff.1 h
    simp only [readMapping?, Option.bind_eq_bind, Option.bind_eq_some_iff] at hm
    obtain ⟨slots, -, hm⟩ := hm
    split at hm
    · simp only [Option.bind_eq_some_iff, Option.pure_def, Option.some.injEq] at hm
      obtain ⟨target, htarget, published, hpublished, _, -, _, -, rfl⟩ := hm
      exact ⟨le_of_natural? htarget, le_of_field? hpublished⟩
    · cases hm

end Port

/-! ## Volumes -/

namespace Volume

/-- The mappings of a mount have no tags and no repeated keys. -/
def Sound : Volume → Prop
  | .short _ => True
  | .long m => ∀ o ∈ [m.bind, m.volume, m.tmpfs], ∀ x ∈ o, Mapping.Tidy x

theorem readMount?_mountValue {m : Mount} (h : Sound (.long m)) :
    readMount? (mountValue m) = some m := by
  simp only [Sound, List.forall_mem_cons] at h
  obtain ⟨hbind, hvolume, htmpfs, -⟩ := h
  rw [readMount?, mountValue, slots?_record]
  · simp [text?, field?_mapping hbind, field?_mapping hvolume, field?_mapping htmpfs]
  · rfl
  · decide

/-- **A volume is read back as it was written.** -/
theorem read?_toValue {v : Volume} (h : v.Sound) : read? v.toValue = some v := by
  cases v with
  | short text => rfl
  | long m =>
    rw [toValue, read?, readMount?_mountValue h]
    rfl

theorem hasTag_toValue {v : Volume} (h : v.Sound) : v.toValue.hasTag = false := by
  cases v with
  | short text => rfl
  | long m =>
    simp only [Sound, List.forall_mem_cons] at h
    obtain ⟨hbind, hvolume, htmpfs, -⟩ := h
    refine Value.hasTag_record ?_
    simp only [List.forall_mem_cons]
    exact ⟨fun _ hv => by cases hv; rfl, Value.hasTag_map _ fun _ _ => rfl,
      fun _ hv => by cases hv; rfl, Value.hasTag_map _ fun _ _ => rfl,
      Value.hasTag_map _ fun _ _ => rfl, Value.hasTag_map _ fun x hx => (hbind x hx).hasTag,
      Value.hasTag_map _ fun x hx => (hvolume x hx).hasTag,
      Value.hasTag_map _ fun x hx => (htmpfs x hx).hasTag, nofun⟩

/-- **Every volume that is read is sound.** -/
theorem sound_of_read? {v : Value} {w : Volume} (hv : v.hasTag = false) (h : read? v = some w) :
    w.Sound := by
  rw [read?, Option.orElse_eq_some] at h
  rcases h with h | ⟨-, h⟩
  · obtain ⟨s, -, rfl⟩ := Option.map_eq_some_iff.1 h
    trivial
  · obtain ⟨m, hm, rfl⟩ := Option.map_eq_some_iff.1 h
    simp only [readMount?, Option.bind_eq_bind, Option.bind_eq_some_iff] at hm
    obtain ⟨slots, hslots, hm⟩ := hm
    have htags := hasTag_of_slots? hv hslots
    split at hm
    · simp only [Option.bind_eq_some_iff, Option.pure_def, Option.some.injEq] at hm
      obtain ⟨_, -, _, -, _, -, _, -, _, -, bind, hbind, volume, hvolume, tmpfs, htmpfs, rfl⟩ := hm
      simp only [List.forall_mem_cons] at htags
      obtain ⟨-, -, -, -, -, htag, htag', htag'', -⟩ := htags
      simp only [Sound, List.forall_mem_cons]
      exact ⟨tidy_of_field? htag hbind, tidy_of_field? htag' hvolume,
        tidy_of_field? htag'' htmpfs, nofun⟩
    · cases hm

end Volume

end ComposePods

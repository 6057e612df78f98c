import ComposePods.Pod.Declaration
import ComposePods.Proofs.Distinctness
import ComposePods.Proofs.Outcome

/-!
# The language of declarations

An entry of a declaration describes a template: it is a path, or a mapping with either a file or a
body, and with arguments if it has any. A layer has no entries, one, or a list of them. A
declaration has a key for every layer and one for the arguments that its templates share; the order
of its keys means nothing.

* `Value.orEmpty?`, `Value.MappingOrNull`: mappings that may be left out or null;
* `Mapping.KeysAmong`: the keys that may be there;
* `Template.Reads`, **`Template.ofEntry_ok_iff`**: the template that an entry describes;
* `Templates.ReadsAll`, `Templates.ofEntries_ok_iff`: the templates of a layer;
* `Templates.Reads`, **`Templates.ofDeclaration_ok_iff`**: the templates of a declaration;
* `Templates.IsDeclaration`, **`Templates.exists_reads_iff`**: the grammar of declarations.
-/

namespace ComposePods

open Mapping

/-! ## Mappings and their keys -/

namespace Value

/-- The entries of a mapping; null, and what is left out, have none. -/
def orEmpty? : Option Value → Option Mapping
  | none | some .null => some []
  | some (.mapping entries) => some entries
  | some _ => none

/-- The entries of a mapping; all else has none. -/
def orEmpty (o : Option Value) : Mapping := (orEmpty? o).getD []

@[simp] theorem orEmpty?_none : orEmpty? none = some [] := rfl

/-- A value is a mapping or null, or it is left out. -/
def MappingOrNull (o : Option Value) : Prop := ∃ m, orEmpty? o = some m

@[simp] theorem mappingOrNull_none : MappingOrNull none := ⟨[], rfl⟩

@[simp] theorem mappingOrNull_mapping (m : Mapping) : MappingOrNull (some (.mapping m)) := ⟨m, rfl⟩

theorem mapping_ok_iff {l : Location} {v : Value} {m : Mapping} :
    l.mapping v = .ok m ↔ orEmpty? (some v) = some m := by
  cases v <;> simp [Location.mapping, orEmpty?]

theorem mapping_getD_ok_iff {l : Location} {o : Option Value} {m : Mapping} :
    l.mapping (o.getD .null) = .ok m ↔ orEmpty? o = some m := by
  cases o with
  | none => rw [Option.getD_none, mapping_ok_iff]; rfl
  | some v => exact mapping_ok_iff

theorem orEmpty_of_mapping_ok {l : Location} {v : Value} {m : Mapping} (h : l.mapping v = .ok m) :
    orEmpty (some v) = m := by
  rw [orEmpty, mapping_ok_iff.1 h]
  rfl

theorem keysDistinct_orEmpty {o : Option Value} (h : ∀ v ∈ o, v.keysDistinct = true) :
    (Value.mapping (orEmpty o)).keysDistinct = true := by
  rcases o with _ | v
  · rfl
  · cases v with
    | mapping m => exact h _ rfl
    | null | bool | number | string | sequence | tagged => rfl

end Value

namespace Mapping

variable {m : Mapping} {k l : Value}

/-- All keys that have a value are among some names. -/
def KeysAmong (names : List String) (look : Value → Option Value) : Prop :=
  ∀ k, (look k).isSome = true → ∃ name ∈ names, k = .string name

theorem eq_nil_iff_get? : m = [] ↔ ∀ k, get? m k = none := by
  constructor
  · rintro rfl k
    rfl
  · intro h
    cases m with
    | nil => rfl
    | cons e rest =>
      have hself := h e.1
      rw [get?, if_pos (Value.same_self _)] at hself
      cases hself

theorem get?_pluck_snd (hm : Distinct m) (k l : Value) :
    get? (pluck m k).2 l = if k.same l then none else get? m l := by
  have hperm := pluck_snd_perm hm k
  rw [get?_perm ((distinct_perm hperm).2 (hm.filter _)) hperm, get?_filter hm]

theorem distinct_pluck_snd (hm : Distinct m) (k : Value) : Distinct (pluck m k).2 :=
  (distinct_perm (pluck_snd_perm hm k)).2 (hm.filter _)

end Mapping

/-! ## Entries -/

namespace Template

variable {files : Files} {directory : String} {site : Site}

/-- The template that an entry describes: a file that can be read, or a body. -/
inductive Reads (files : Files) (directory : String) (site : Site) : Value → Template → Prop where
  | path {path body : String} :
      files.read (Path.join directory path) = .ok body →
      Reads files directory site (.string path) ⟨path, body, []⟩
  | file {source args : Mapping} {path body : String} :
      KeysAmong ["file", "inline", "args"] (get? source) →
      get? source (.string "file") = some (.string path) → get? source (.string "inline") = none →
      Value.orEmpty? (get? source (.string "args")) = some args →
      files.read (Path.join directory path) = .ok body →
      Reads files directory site (.mapping source) ⟨path, body, args⟩
  | inline {source args : Mapping} {body : String} :
      KeysAmong ["file", "inline", "args"] (get? source) →
      get? source (.string "file") = none → get? source (.string "inline") = some (.string body) →
      Value.orEmpty? (get? source (.string "args")) = some args →
      Reads files directory site (.mapping source) ⟨site.name, body, args⟩

theorem ofFile_ok_iff {path : String} {t : Template} :
    ofFile files directory path = .ok t ↔
      ∃ body, files.read (Path.join directory path) = .ok body ∧ t = ⟨path, body, []⟩ := by
  have hhas {body : String} (h : files.read (Path.join directory path) = .ok body) :
      files.has (Path.join directory path) = true := by
    obtain ⟨place, hplace, -⟩ := bind_ok_iff.1 h
    rw [Files.has, hplace]
    rfl
  rw [ofFile]
  constructor
  · intro h
    split at h
    · split at h
      · rename_i body hbody
        exact ⟨body, hbody, (Except.ok.inj h).symm⟩
      · cases h
    · cases h
  · rintro ⟨body, hbody, rfl⟩
    rw [if_pos (hhas hbody), hbody]

theorem ofBody_ok_iff {file inline : Option Value} {t : Template} :
    ofBody files directory site file inline = .ok t ↔
      (∃ path body, file = some (.string path) ∧ inline = none ∧
          files.read (Path.join directory path) = .ok body ∧ t = ⟨path, body, []⟩) ∨
        ∃ body, file = none ∧ inline = some (.string body) ∧ t = ⟨site.name, body, []⟩ := by
  constructor
  · intro h
    unfold ofBody at h
    split at h
    · rename_i path
      obtain ⟨body, hbody, rfl⟩ := ofFile_ok_iff.1 h
      exact .inl ⟨path, body, rfl, rfl, hbody, rfl⟩
    · exact .inr ⟨_, rfl, rfl, (Except.ok.inj h).symm⟩
    · cases h
  · rintro (⟨path, body, rfl, rfl, hbody, rfl⟩ | ⟨body, rfl, rfl, rfl⟩)
    · exact ofFile_ok_iff.2 ⟨body, hbody, rfl⟩
    · rfl

/-- What is left of a source when its arguments, its file and its body have been taken out. -/
def remainder (source : Mapping) : Mapping :=
  (pluck (pluck (pluck source (.string "args")).2 (.string "file")).2 (.string "inline")).2

theorem get?_remainder {source : Mapping} (hsource : Distinct source) (k : Value) :
    get? (remainder source) k =
      if k ∈ [.string "file", .string "inline", .string "args"] then none else get? source k := by
  have hsame (name : String) : (Value.string name).same k = true ↔ k = .string name := by
    rw [Value.same_comm]
    exact Value.same_string_iff
  have hargs := distinct_pluck_snd hsource (.string "args")
  have hfile := distinct_pluck_snd hargs (.string "file")
  rw [remainder, get?_pluck_snd hfile, get?_pluck_snd hargs, get?_pluck_snd hsource]
  simp only [hsame, List.mem_cons, List.not_mem_nil, or_false]
  split_ifs <;> tauto

theorem remainder_eq_nil_iff {source : Mapping} (hsource : Distinct source) :
    remainder source = [] ↔ KeysAmong ["file", "inline", "args"] (get? source) := by
  rw [eq_nil_iff_get?, KeysAmong]
  refine forall_congr' fun k => ?_
  have hnames : (∃ name ∈ ["file", "inline", "args"], k = .string name) ↔
      k ∈ [Value.string "file", .string "inline", .string "args"] := by simp
  rw [get?_remainder hsource, hnames]
  split
  · simp [*]
  · cases get? source k <;> simp [*]

theorem ofMapping_eq (files : Files) (directory : String) (site : Site) (source : Mapping) :
    ofMapping files directory site source =
      (Location.templateArgs site).mapping
        ((pluck source (.string "args")).1.getD .null) >>= fun args =>
        if contains (pluck source (.string "args")).2 (.string "http")
          then .error (.remoteTemplate site)
        else
          ofBody files directory site (pluck (pluck source (.string "args")).2 (.string "file")).1
              (pluck (pluck (pluck source (.string "args")).2 (.string "file")).2
                (.string "inline")).1 >>=
            fun template =>
              match remainder source with
              | [] => .ok { template with args }
              | (key, _) :: _ => .error (.unknownProperty site key) := rfl

theorem ofMapping_ok_iff {source : Mapping} (hsource : Distinct source) {t : Template} :
    ofMapping files directory site source = .ok t ↔
      KeysAmong ["file", "inline", "args"] (get? source) ∧
        ∃ args template, Value.orEmpty? (get? source (.string "args")) = some args ∧
          ofBody files directory site (get? source (.string "file"))
            (get? source (.string "inline")) = .ok template ∧
          t = { template with args } := by
  have hargs := distinct_pluck_snd hsource (.string "args")
  have hhttp (hnil : remainder source = []) :
      contains (pluck source (.string "args")).2 (.string "http") = false := by
    have hnone := get?_remainder hsource (.string "http")
    rw [hnil, if_neg (by decide)] at hnone
    rw [contains, get?_pluck_snd hsource, ← hnone]
    split <;> rfl
  have hfile : (pluck (pluck source (.string "args")).2 (.string "file")).1 =
      get? source (.string "file") := by
    rw [pluck_fst, get?_pluck_snd hsource, if_neg (by decide)]
  have hinline : (pluck (pluck (pluck source (.string "args")).2 (.string "file")).2
    (.string "inline")).1 =
      get? source (.string "inline") := by
    rw [pluck_fst, get?_pluck_snd hargs, if_neg (by decide), get?_pluck_snd hsource,
      if_neg (by decide)]
  rw [ofMapping_eq, bind_ok_iff, ← remainder_eq_nil_iff hsource, hfile, hinline, pluck_fst]
  simp only [Value.mapping_getD_ok_iff]
  constructor
  · rintro ⟨args, hargs, h⟩
    split at h
    · cases h
    · obtain ⟨template, htemplate, h⟩ := bind_ok_iff.1 h
      split at h
      · rename_i hnil
        exact ⟨hnil, args, template, hargs, htemplate, (Except.ok.inj h).symm⟩
      · cases h
  · rintro ⟨hnil, args, template, hargs, htemplate, rfl⟩
    refine ⟨args, hargs, ?_⟩
    rw [if_neg (by rw [hhttp hnil]; decide), htemplate]
    change (match remainder source with
      | [] => _
      | (key, _) :: _ => _) = _
    rw [hnil]

/-- **A template is read from an entry** exactly if the entry describes it. -/
theorem ofEntry_ok_iff {v : Value} (hv : v.keysDistinct = true) {t : Template} :
    ofEntry files directory site v = .ok t ↔ Reads files directory site v t := by
  cases v with
  | string path =>
    rw [ofEntry, ofFile_ok_iff]
    constructor
    · rintro ⟨body, hbody, rfl⟩
      exact .path hbody
    · rintro ⟨hbody⟩
      exact ⟨_, hbody, rfl⟩
  | mapping source =>
    rw [ofEntry, ofMapping_ok_iff (Value.keysDistinct_mapping_iff.1 hv).2]
    constructor
    · rintro ⟨hkeys, args, template, hargs, hbody, rfl⟩
      rcases ofBody_ok_iff.1 hbody
        with ⟨path, body, hfile, hinline, hread, rfl⟩ | ⟨body, hfile, hinline, rfl⟩
      · exact .file hkeys hfile hinline hargs hread
      · exact .inline hkeys hfile hinline hargs
    · rintro (_ | ⟨hkeys, hfile, hinline, hargs, hread⟩ | ⟨hkeys, hfile, hinline, hargs⟩)
      · exact ⟨hkeys, _, _, hargs, ofBody_ok_iff.2 (.inl ⟨_, _, hfile, hinline, hread, rfl⟩), rfl⟩
      · exact ⟨hkeys, _, _, hargs, ofBody_ok_iff.2 (.inr ⟨_, hfile, hinline, rfl⟩), rfl⟩
  | null | bool | number | sequence | tagged =>
    rw [ofEntry]
    · exact ⟨nofun, nofun⟩
    all_goals exact nofun

theorem Reads.unique {v : Value} {t u : Template} (ht : Reads files directory site v t)
    (hu : Reads files directory site v u) : t = u := by
  rcases ht with ht | ⟨-, hfile, hinline, hargs, ht⟩ | ⟨-, hfile, hinline, hargs⟩ <;>
    rcases hu with hu | ⟨-, hfile', hinline', hargs', hu⟩ | ⟨-, hfile', hinline', hargs'⟩ <;>
    simp_all

end Template

namespace Templates

variable {files : Files} {directory service : String} {layer : Layer}

/-! ## Layers -/

/-- The templates that the entries of a layer describe, the first of which has the given place. -/
def ReadsAll (files : Files) (directory service : String) (layer : Layer) (index : Nat)
    (vs : List Value) (ts : List Template) : Prop :=
  List.Forall₂ (fun e t => Template.Reads files directory ⟨service, layer, e.2⟩ e.1 t)
    (vs.zipIdx index) ts

theorem ofEntries_ok_iff {vs : List Value} (hvs : ∀ v ∈ vs, v.keysDistinct = true) {index : Nat}
    {ts : List Template} :
    ofEntries files directory service layer index vs = .ok ts ↔
      ReadsAll files directory service layer index vs ts := by
  induction vs generalizing index ts with
  | nil =>
    rw [ofEntries, ReadsAll, List.zipIdx_nil, List.forall₂_nil_left_iff, Except.ok.injEq, eq_comm]
  | cons v vs ih =>
    rw [List.forall_mem_cons] at hvs
    rw [ofEntries, ReadsAll, List.zipIdx_cons, List.forall₂_cons_left_iff]
    simp only [bind_ok_iff, pure_ok_iff, Template.ofEntry_ok_iff hvs.1, ih hvs.2]
    constructor
    · rintro ⟨t, ht, ts, hts, rfl⟩
      exact ⟨t, ts, ht, hts, rfl⟩
    · rintro ⟨t, ts, ht, hts, rfl⟩
      exact ⟨t, ht, ts, hts, rfl⟩

theorem ReadsAll.unique {index : Nat} {vs : List Value} {ts us : List Template}
    (ht : ReadsAll files directory service layer index vs ts)
    (hu : ReadsAll files directory service layer index vs us) : ts = us := by
  have hright : Relator.RightUnique fun (e : Value × Nat) t =>
      Template.Reads files directory ⟨service, layer, e.2⟩ e.1 t := fun _ _ _ h h' => h.unique h'
  exact hright.forall₂ ht hu

theorem keysDistinct_entriesOf {v : Value} (hv : v.keysDistinct = true) :
    ∀ w ∈ entriesOf v, w.keysDistinct = true := by
  cases v with
  | sequence vs => exact Value.keysDistinctItems_iff.1 hv
  | null => exact nofun
  | bool | number | string | mapping | tagged => exact List.forall_mem_singleton.2 hv

/-! ## Declarations -/

/-- The keys of a declaration. -/
def declarationKeys : List String := ["pod", "transformer", "templates", "copy", "args"]

theorem mem_declarationKeys {name : String} :
    name ∈ declarationKeys ↔ name = "args" ∨ ∃ l : Layer, name = l.key := by
  constructor
  · intro h
    simp only [declarationKeys, List.mem_cons, List.not_mem_nil, or_false] at h
    rcases h with rfl | rfl | rfl | rfl | rfl
    · exact .inr ⟨.pod, rfl⟩
    · exact .inr ⟨.transformer, rfl⟩
    · exact .inr ⟨.component, rfl⟩
    · exact .inr ⟨.copy, rfl⟩
    · exact .inl rfl
  · rintro (rfl | ⟨l, rfl⟩)
    · decide
    · cases l <;> decide

/-- The templates that a declaration describes, which is known by what its keys look up. -/
structure Reads (files : Files) (directory service : String) (look : Value → Option Value)
    (t : Templates) : Prop where
  keys : KeysAmong declarationKeys look
  args : Value.orEmpty? (look (.string "args")) = some t.args
  layers : ∀ l : Layer, ReadsAll files directory service l 0
    (entriesOf ((look (.string l.key)).getD .null))
    (t.layer l)

theorem ext_layers {t u : Templates} (hargs : t.args = u.args)
    (hlayers : ∀ l, t.layer l = u.layer l) : t = u := by
  obtain ⟨pod, transformer, component, copy, args⟩ := t
  obtain rfl : args = u.args := hargs
  obtain rfl : pod = u.pod := hlayers .pod
  obtain rfl : transformer = u.transformer := hlayers .transformer
  obtain rfl : component = u.component := hlayers .component
  obtain rfl : copy = u.copy := hlayers .copy
  rfl

theorem layer_setLayer (t : Templates) (l l' : Layer) (ts : List Template) :
    (t.setLayer l ts).layer l' = if l' = l then ts else t.layer l' := by
  cases l <;> cases l' <;> rfl

theorem args_setLayer (t : Templates) (l : Layer) (ts : List Template) :
    (t.setLayer l ts).args = t.args := by
  cases l <;> rfl

theorem Reads.unique {look : Value → Option Value} {t u : Templates}
    (ht : Reads files directory service look t) (hu : Reads files directory service look u) :
    t = u :=
  ext_layers (Option.some.inj (ht.args.symm.trans hu.args)) fun l =>
    (ht.layers l).unique (hu.layers l)

/-- What the entries of a declaration add to templates that are there. -/
structure Extends (files : Files) (directory service : String) (look : Value → Option Value)
    (t u : Templates) : Prop where
  keys : KeysAmong declarationKeys look
  args : if look (.string "args") = none then u.args = t.args
    else Value.orEmpty? (look (.string "args")) = some u.args
  layers : ∀ l : Layer, ∃ ts,
    ReadsAll files directory service l 0 (entriesOf ((look (.string l.key)).getD .null)) ts ∧
      u.layer l = t.layer l ++ ts

theorem ofKey?_eq_some_iff {key : String} {l : Layer} :
    Layer.ofKey? key = some l ↔ key = l.key := by
  constructor
  · intro h
    have hkey := List.find?_some h
    exact (beq_iff_eq.1 hkey).symm
  · rintro rfl
    cases l <;> decide

theorem addEntry_ok_iff {t u : Templates} {k v : Value} (hv : v.keysDistinct = true) :
    addEntry files directory service t (k, v) = .ok u ↔
      (k = .string "args" ∧ ∃ args, Value.orEmpty? (some v) = some args ∧ { t with args } = u) ∨
        ∃ l : Layer, k = .string l.key ∧
        ∃ ts, ReadsAll files directory service l 0 (entriesOf v) ts ∧
          t.setLayer l (t.layer l ++ ts) = u := by
  cases k with
  | string key =>
    by_cases hargs : key = "args"
    · subst hargs
      have hlayer (l : Layer) : Value.string "args" ≠ .string l.key := by cases l <;> decide
      simp only [addEntry, if_true, bind_ok_iff, pure_ok_iff, Value.mapping_ok_iff,
        hlayer, false_and, exists_false, or_false, true_and]
    · rcases hkey : Layer.ofKey? key with _ | l
      · have hlayer (l : Layer) : Value.string key ≠ .string l.key := by
          rintro heq
          rw [ofKey?_eq_some_iff.2 (Value.string.inj heq)] at hkey
          cases hkey
        simp [addEntry, hargs, hkey, hlayer, throw, throwThe, MonadExceptOf.throw]
      · obtain rfl := ofKey?_eq_some_iff.1 hkey
        have hinjective (l' : Layer) : Value.string l.key = .string l'.key ↔ l' = l := by
          cases l <;> cases l' <;> decide
        have hne : Value.string l.key ≠ .string "args" := by cases l <;> decide
        simp only [addEntry, hargs, if_false, hkey, bind_ok_iff, pure_ok_iff,
          ofEntries_ok_iff (keysDistinct_entriesOf hv), hinjective, hne, false_and, false_or,
          exists_eq_left]
  | null | bool | number | sequence | mapping | tagged =>
    simp [addEntry, throw, throwThe, MonadExceptOf.throw]

variable {m : Mapping} {t u : Templates}

theorem keysAmong_cons {names : List String} {name : String} {v : Value} (hname : name ∈ names) :
    KeysAmong names (get? ((.string name, v) :: m)) ↔ KeysAmong names (get? m) := by
  constructor
  · intro h k hk
    refine h k ?_
    rw [get?]
    split
    · rfl
    · exact hk
  · intro h k hk
    rw [get?] at hk
    split at hk
    · rename_i hsame
      exact ⟨name, hname, Value.same_string_iff.1 (Value.same_comm _ _ ▸ hsame)⟩
    · exact h k hk

theorem extends_args {v : Value} {args : Mapping} (hnew : get? m (.string "args") = none)
    (hargs : Value.orEmpty? (some v) = some args) :
    Extends files directory service (get? ((.string "args", v) :: m)) t u ↔
      Extends files directory service (get? m) { t with args } u := by
  have hself : get? ((.string "args", v) :: m) (.string "args") = some v := by
    rw [get?_cons_string, if_pos rfl]
  have hlayer (l : Layer) : get? ((.string "args", v) :: m) (.string l.key) =
      get? m (.string l.key) := by
    rw [get?_cons_string, if_neg (by cases l <;> decide)]
  have hkeys := keysAmong_cons (m := m) (v := v) (mem_declarationKeys.2 (.inl rfl))
  constructor
  · intro h
    have hu := h.args
    rw [hself, if_neg (Option.some_ne_none v), hargs] at hu
    refine ⟨hkeys.1 h.keys, ?_, fun l => ?_⟩
    · rw [if_pos hnew]
      exact (Option.some.inj hu).symm
    · have hlayers := h.layers l
      rw [hlayer] at hlayers
      cases l <;> exact hlayers
  · intro h
    have hu := h.args
    rw [if_pos hnew] at hu
    refine ⟨hkeys.2 h.keys, ?_, fun l => ?_⟩
    · rw [hself, if_neg (Option.some_ne_none v), hargs, hu]
    · have hlayers := h.layers l
      rw [hlayer]
      cases l <;> exact hlayers

theorem extends_layer {l : Layer} {v : Value} {ts : List Template}
    (hnew : get? m (.string l.key) = none)
    (hts : ReadsAll files directory service l 0 (entriesOf v) ts) :
    Extends files directory service (get? ((.string l.key, v) :: m)) t u ↔
      Extends files directory service (get? m) (t.setLayer l (t.layer l ++ ts)) u := by
  have hself : get? ((.string l.key, v) :: m) (.string l.key) = some v := by
    rw [get?_cons_string, if_pos rfl]
  have hargs : get? ((.string l.key, v) :: m) (.string "args") = get? m (.string "args") := by
    rw [get?_cons_string, if_neg (by cases l <;> decide)]
  have hlayer (l' : Layer) (hne : l' ≠ l) :
      get? ((.string l.key, v) :: m) (.string l'.key) = get? m (.string l'.key) := by
    rw [get?_cons_string, if_neg (by revert hne; cases l <;> cases l' <;> decide)]
  have hkeys := keysAmong_cons (m := m) (v := v) (mem_declarationKeys.2 (.inr ⟨l, rfl⟩))
  constructor
  · intro h
    refine ⟨hkeys.1 h.keys, by rw [← hargs, args_setLayer]; exact h.args, fun l' => ?_⟩
    obtain ⟨us, hus, hu⟩ := h.layers l'
    by_cases hl : l' = l
    · subst hl
      rw [hself] at hus
      obtain rfl := hus.unique hts
      exact ⟨[], by rw [hnew]; exact .nil, by rw [hu, layer_setLayer, if_pos rfl, List.append_nil]⟩
    · exact ⟨us, by rw [← hlayer l' hl]; exact hus, by rw [hu, layer_setLayer, if_neg hl]⟩
  · intro h
    refine ⟨hkeys.2 h.keys, by rw [hargs, ← args_setLayer t l]; exact h.args, fun l' => ?_⟩
    obtain ⟨us, hus, hu⟩ := h.layers l'
    rw [layer_setLayer] at hu
    by_cases hl : l' = l
    · subst hl
      rw [hnew] at hus
      obtain rfl : us = [] := List.forall₂_nil_left_iff.1 hus
      rw [if_pos rfl, List.append_nil] at hu
      exact ⟨ts, by rw [hself]; exact hts, hu⟩
    · rw [if_neg hl] at hu
      exact ⟨us, by rw [hlayer l' hl]; exact hus, hu⟩

theorem foldlM_addEntry_ok_iff (hm : Distinct m) (hvs : ∀ e ∈ m, e.2.keysDistinct = true) :
    m.foldlM (addEntry files directory service) t = .ok u ↔
      Extends files directory service (get? m) t u := by
  induction m generalizing t with
  | nil =>
    rw [List.foldlM_nil, pure_ok_iff]
    constructor
    · rintro rfl
      exact ⟨nofun, rfl, fun l => ⟨[], .nil, (List.append_nil _).symm⟩⟩
    · intro h
      refine ext_layers h.args.symm fun l => ?_
      obtain ⟨ts, hts, hu⟩ := h.layers l
      obtain rfl : ts = [] := List.forall₂_nil_left_iff.1 hts
      rw [hu, List.append_nil]
  | cons e m ih =>
    obtain ⟨k, v⟩ := e
    obtain ⟨hnew, hm⟩ := List.pairwise_cons.1 hm
    rw [List.forall_mem_cons] at hvs
    have hnone : get? m k = none := get?_eq_none_of_new hnew
    rw [List.foldlM_cons, bind_ok_iff]
    simp only [addEntry_ok_iff hvs.1, ih hm hvs.2]
    constructor
    · rintro ⟨s, ⟨rfl, args, hargs, rfl⟩ | ⟨l, rfl, ts, hts, rfl⟩, hs⟩
      · exact (extends_args hnone hargs).2 hs
      · exact (extends_layer hnone hts).2 hs
    · intro h
      have hself : get? ((k, v) :: m) k = some v := by rw [get?, if_pos (Value.same_self k)]
      obtain ⟨name, hname, rfl⟩ := h.keys k (by rw [hself]; rfl)
      rcases mem_declarationKeys.1 hname with rfl | ⟨l, rfl⟩
      · have hargs := h.args
        rw [hself, if_neg (Option.some_ne_none v)] at hargs
        exact ⟨_, .inl ⟨rfl, _, hargs, rfl⟩, (extends_args hnone hargs).1 h⟩
      · obtain ⟨ts, hts, -⟩ := h.layers l
        rw [hself] at hts
        exact ⟨_, .inr ⟨l, rfl, ts, hts, rfl⟩, (extends_layer hnone hts).1 h⟩

/-- **The templates of a declaration are read** exactly if the declaration describes them, whatever
the order of its keys. -/
theorem ofDeclaration_ok_iff (hm : (Value.mapping m).keysDistinct = true) :
    ofDeclaration files directory service m = .ok t ↔ Reads files directory service (get? m) t := by
  obtain ⟨hvs, hm⟩ := Value.keysDistinct_mapping_iff.1 hm
  rw [ofDeclaration, foldlM_addEntry_ok_iff hm fun e he => (hvs e he).2]
  constructor
  · intro h
    refine ⟨h.keys, ?_, fun l => ?_⟩
    · have hargs := h.args
      split at hargs
      · rename_i hnone
        rw [hnone, hargs]
        rfl
      · exact hargs
    · obtain ⟨ts, hts, hlayer⟩ := h.layers l
      rw [hlayer]
      cases l <;> exact hts
  · intro h
    refine ⟨h.keys, ?_, fun l => ⟨t.layer l, h.layers l, ?_⟩⟩
    · split
      · rename_i hnone
        have hargs := h.args
        rw [hnone] at hargs
        exact (Option.some.inj hargs).symm
      · exact h.args
    · cases l <;> rfl

end Templates

/-! ## The grammar -/

namespace Template

variable {files : Files} {directory : String}

/-- A mapping has one of a file that can be read and a body, arguments or none, and nothing else. -/
structure IsSource (files : Files) (directory : String) (source : Mapping) : Prop where
  keys : KeysAmong ["file", "inline", "args"] (get? source)
  body : (∃ path body, get? source (.string "file") = some (.string path) ∧
        get? source (.string "inline") = none ∧ files.read (Path.join directory path) = .ok body) ∨
      get? source (.string "file") = none ∧
        ∃ body, get? source (.string "inline") = some (.string body)
  args : Value.MappingOrNull (get? source (.string "args"))

/-- A value is the path of a file that can be read, or a source. -/
def IsEntry (files : Files) (directory : String) (v : Value) : Prop :=
  (∃ path body, v = .string path ∧ files.read (Path.join directory path) = .ok body) ∨
    ∃ source, v = .mapping source ∧ IsSource files directory source

/-- A value is null, one entry or a list of entries. -/
def IsLayer (files : Files) (directory : String) (v : Value) : Prop :=
  v = .null ∨ IsEntry files directory v ∨ ∃ vs, v = .sequence vs ∧
    ∀ w ∈ vs, IsEntry files directory w

theorem exists_reads_iff {site : Site} {v : Value} :
    (∃ t, Reads files directory site v t) ↔ IsEntry files directory v := by
  constructor
  · rintro ⟨t, hbody | ⟨hkeys, hfile, hinline, hargs, hbody⟩ | ⟨hkeys, hfile, hinline, hargs⟩⟩
    · exact .inl ⟨_, _, rfl, hbody⟩
    · exact .inr ⟨_, rfl, hkeys, .inl ⟨_, _, hfile, hinline, hbody⟩, ⟨_, hargs⟩⟩
    · exact .inr ⟨_, rfl, hkeys, .inr ⟨hfile, _, hinline⟩, ⟨_, hargs⟩⟩
  · rintro (⟨path, body, rfl, hbody⟩ | ⟨source, rfl, hsource⟩)
    · exact ⟨_, .path hbody⟩
    · obtain ⟨args, hargs⟩ := hsource.args
      rcases hsource.body with ⟨path, body, hfile, hinline, hbody⟩ | ⟨hfile, body, hinline⟩
      · exact ⟨_, .file hsource.keys hfile hinline hargs hbody⟩
      · exact ⟨_, .inline hsource.keys hfile hinline hargs⟩

theorem isLayer_iff {v : Value} :
    IsLayer files directory v ↔ ∀ w ∈ Templates.entriesOf v, IsEntry files directory w := by
  have hsequence (vs : List Value) : ¬ IsEntry files directory (.sequence vs) := by
    rintro (⟨_, _, hv, -⟩ | ⟨_, hv, -⟩) <;> cases hv
  rw [IsLayer]
  cases v with
  | null => simp [Templates.entriesOf]
  | sequence vs => simp [Templates.entriesOf, hsequence]
  | bool | number | string | mapping | tagged => simp [Templates.entriesOf]

end Template

namespace Templates

variable {files : Files} {directory service : String}

theorem exists_readsAll_iff {layer : Layer} {index : Nat} {vs : List Value} :
    (∃ ts, ReadsAll files directory service layer index vs ts) ↔
      ∀ v ∈ vs, Template.IsEntry files directory v := by
  induction vs generalizing index with
  | nil => exact ⟨fun _ => nofun, fun _ => ⟨[], .nil⟩⟩
  | cons v vs ih =>
    rw [List.forall_mem_cons, ← @ih (index + 1), ← @Template.exists_reads_iff _ _
      ⟨service, layer, index⟩]
    constructor
    · rintro ⟨ts, hts⟩
      obtain ⟨t, us, ht, hus, rfl⟩ := List.forall₂_cons_left_iff.1 hts
      exact ⟨⟨t, ht⟩, us, hus⟩
    · rintro ⟨⟨t, ht⟩, ts, hts⟩
      exact ⟨t :: ts, .cons ht hts⟩

/-- A declaration has no keys but those of the layers and of the arguments, and what stands under
them is a layer or a mapping. -/
structure IsDeclaration (files : Files) (directory : String) (look : Value → Option Value) :
    Prop where
  keys : KeysAmong declarationKeys look
  args : Value.MappingOrNull (look (.string "args"))
  layers : ∀ (l : Layer) (v : Value), look (.string l.key) = some v →
    Template.IsLayer files directory v

/-- **The grammar of declarations**: they are what describes templates. -/
theorem exists_reads_iff {look : Value → Option Value} :
    (∃ t, Reads files directory service look t) ↔ IsDeclaration files directory look := by
  constructor
  · rintro ⟨t, ht⟩
    refine ⟨ht.keys, ⟨_, ht.args⟩, fun l v hv => ?_⟩
    have hlayer := ht.layers l
    rw [hv] at hlayer
    exact Template.isLayer_iff.2 (exists_readsAll_iff.1 ⟨_, hlayer⟩)
  · intro h
    obtain ⟨args, hargs⟩ := h.args
    have hlayer (l : Layer) :
        ∃ ts, ReadsAll files directory service l 0
        (entriesOf ((look (.string l.key)).getD .null)) ts := by
      rcases hv : look (.string l.key) with _ | v
      · exact ⟨[], .nil⟩
      · exact exists_readsAll_iff.2 (Template.isLayer_iff.1 (h.layers l v hv))
    choose ts hts using hlayer
    exact ⟨⟨ts .pod, ts .transformer, ts .component, ts .copy, args⟩, h.keys, hargs, fun l => by
      cases l <;> exact hts _⟩

end Templates

end ComposePods

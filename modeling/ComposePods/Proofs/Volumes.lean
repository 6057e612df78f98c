import ComposePods.Engine
import ComposePods.Proofs.Entries
import Mathlib.Data.List.Induction

/-!
# Volume names over whole runs

While a controller runs, its engine changes, sources are looked up, and the cache that answers is
replaced by a new one, in any order. A cache asks the engine once: at its first look-up, about every
mounted volume in turn. From then on it answers for the engine as it was at that moment, however the
engine has changed since.

* `VolumeInfo.IsManifestName`, `VolumeInfo.manifestName?_eq_some_iff`: the manifest's name of a
  volume;
* `Engine.Reveals`, `Engine.Stands`: the mounts that reveal a source, and the one that stands for
  it;
* `Engine.survey_run`, `Engine.stands_surveyed`: what a survey asks, and what comes out;
* `Engine.Event`, `Engine.Host`: what happens to a host, and its state;
* `Host.run_quiet`, `Host.run_settled`: runs before and after the first look-up;
* **`Host.lookups_follow_survey`**: every look-up of every run.
-/

namespace ComposePods

/-! ## The manifest's name -/

namespace VolumeInfo

variable {v : VolumeInfo} {name : String}

/-- A volume has a name in the manifest: that of the reference label or, without one, what follows
the stack's name and an underscore in its own name or, if it does not begin so, that of the project
label. -/
inductive IsManifestName (v : VolumeInfo) : String → Prop
  | explicit {name : String} (href : v.labels.lookup referenceLabel = some name) :
      IsManifestName v name
  | inStack {stack name : String} (href : v.labels.lookup referenceLabel = none)
      (hstack : v.labels.lookup namespaceLabel = some stack)
      (hname : v.name = stack ++ "_" ++ name) :
      IsManifestName v name
  | inProject {name : String} (href : v.labels.lookup referenceLabel = none)
      (hstack : ∀ stack, v.labels.lookup namespaceLabel = some stack →
        ∀ rest, v.name ≠ stack ++ "_" ++ rest)
      (hproject : v.labels.lookup projectLabel = some name) : IsManifestName v name

theorem inStack?_eq_some_iff {own stack : String} :
    inStack? own stack = some name ↔ own = stack ++ "_" ++ name := by
  rw [inStack?]
  split
  · rename_i hstart
    obtain ⟨rest, rfl⟩ := Text.startsWith_iff.1 hstart
    have hdrop (start : String) :
        (start ++ rest).toList.drop start.toList.length = rest.toList := by
      rw [String.toList_append, List.drop_left]
    rw [hdrop, String.ofList_toList, Option.some_inj, String.append_right_inj]
  · rename_i hstart
    refine iff_of_false nofun fun heq => hstart ?_
    exact Text.startsWith_iff.2 ⟨name, heq⟩

/-- **The manifest's name of a volume** is the one that its labels tell, in the order in which they
count. -/
theorem manifestName?_eq_some_iff : v.manifestName? = some name ↔ v.IsManifestName name := by
  rw [manifestName?]
  rcases href : v.labels.lookup referenceLabel with _ | explicit
  · rcases hin : (v.labels.lookup namespaceLabel).bind (inStack? v.name) with _ | short
    · have hnot (stack : String) (hstack : v.labels.lookup namespaceLabel = some stack)
        (rest : String) :
          v.name ≠ stack ++ "_" ++ rest := by
        intro hname
        rw [hstack, Option.bind_some, inStack?_eq_some_iff.2 hname] at hin
        cases hin
      change v.labels.lookup projectLabel = some name ↔ _
      refine ⟨.inProject href hnot, fun h => ?_⟩
      cases h with
      | explicit h => rw [href] at h; cases h
      | inStack _ hstack hname => exact absurd hname (hnot _ hstack _)
      | inProject _ _ hproject => exact hproject
    · obtain ⟨stack, hstack, hshort⟩ := Option.bind_eq_some_iff.1 hin
      rw [inStack?_eq_some_iff] at hshort
      change some short = some name ↔ _
      refine ⟨fun h => .inStack href hstack (Option.some.inj h ▸ hshort), fun h => ?_⟩
      cases h with
      | explicit h => rw [href] at h; cases h
      | inStack _ hstack' hname =>
        rw [hstack] at hstack'
        cases hstack'
        rw [hshort, String.append_right_inj] at hname
        rw [hname]
      | inProject _ hnot => exact absurd hshort (hnot _ hstack _)
  · change some explicit = some name ↔ _
    refine ⟨fun h => .explicit (href.trans h), fun h => ?_⟩
    cases h with
    | explicit h => exact href.symm.trans h
    | inStack h | inProject h => rw [href] at h; cases h

end VolumeInfo

namespace Engine

variable {e : Engine} {source : String} {ms : List EngineMount}

/-! ## What a survey learns -/

/-- The engine tells about a mounted volume that the manifest's name of it is the source. -/
def Reveals (e : Engine) (m : EngineMount) (source : String) : Prop :=
  m.kind = .volume ∧ ∃ info, e.inspect m.name = some info ∧ info.IsManifestName source

/-- The answer for a source by some mounts: the name of the last one that reveals it, if there is
one. -/
inductive Stands (e : Engine) (source : String) : List EngineMount → Option String → Prop
  | last {before after : List EngineMount} {m : EngineMount} (hm : e.Reveals m source)
      (hafter : ∀ m' ∈ after, ¬ e.Reveals m' source) :
      Stands e source (before ++ m :: after) (some m.name)
  | missing {ms : List EngineMount} (hms : ∀ m ∈ ms, ¬ e.Reveals m source) : Stands e source ms none

/-- The names of the volumes among some mounts, in mount order. -/
def volumeNames (ms : List EngineMount) : List String := (ms.filter (·.kind = .volume)).map (·.name)

/-- The manifest's name that the engine reveals for a mount. -/
def revealed? (e : Engine) (m : EngineMount) : Option String :=
  if m.kind = .volume then (e.inspect m.name).bind (·.manifestName?) else none

theorem revealed?_eq_some_iff {m : EngineMount} :
    e.revealed? m = some source ↔ e.Reveals m source := by
  simp only [revealed?, Reveals, Option.ite_none_right_eq_some, Option.bind_eq_some_iff,
    VolumeInfo.manifestName?_eq_some_iff]

/-- What is known after one more mount. -/
def learned (e : Engine) (names : Dict String) (m : EngineMount) : Dict String :=
  match e.revealed? m with
  | some name => names.insert name m.name
  | none => names

/-- What is known after all mounts. -/
def surveyed (e : Engine) : Dict String := e.mounts.foldl e.learned .empty

/-- A mount is asked about if it is a volume, whatever comes of it. -/
theorem learn_run (e : Engine) (names : Dict String) (m : EngineMount) (asked : List String) :
    (e.learn names m).run asked = (e.learned names m, asked ++ volumeNames [m]) := by
  by_cases hkind : m.kind = .volume
  · have hnames : volumeNames [m] = [m.name] := by simp [volumeNames, hkind]
    have hask : (e.ask m.name).run asked = pure (e.inspect m.name, asked ++ [m.name]) := rfl
    rw [hnames, learned, revealed?, if_pos hkind, learn, if_neg (not_not_intro hkind),
      StateT.run_bind, hask, pure_bind]
    rcases e.inspect m.name with _ | info
    · rfl
    · rw [Option.bind_some]
      dsimp only
      rcases info.manifestName? with _ | name <;> rfl
  · have hnames : volumeNames [m] = [] := by simp [volumeNames, hkind]
    rw [hnames, List.append_nil, learned, revealed?, if_neg hkind, learn, if_pos hkind]
    rfl

/-- **A survey** asks about every mounted volume once, in mount order. -/
theorem survey_run (e : Engine) (asked : List String) :
    e.survey.run asked = (e.surveyed, asked ++ volumeNames e.mounts) := by
  have hfold (names : Dict String) (ms : List EngineMount) (asked : List String) :
      (ms.foldlM e.learn names : Asking _).run asked =
      (ms.foldl e.learned names, asked ++ volumeNames ms) := by
    induction ms generalizing names asked with
    | nil => rw [volumeNames]; exact congrArg _ (List.append_nil asked).symm
    | cons m ms ih =>
      have hnames : volumeNames (m :: ms) = volumeNames [m] ++ volumeNames ms := by
        simp only [volumeNames, ← List.map_append, ← List.filter_append, List.singleton_append]
      rw [List.foldlM_cons, StateT.run_bind, learn_run]
      change (ms.foldlM e.learn _ : Asking _).run _ = _
      rw [ih, hnames, List.foldl_cons, List.append_assoc]
  exact hfold .empty e.mounts asked

/-- **What a survey knows** of a source is the answer by the mounts. -/
theorem stands_surveyed (e : Engine) (source : String) :
    e.Stands source e.mounts (e.surveyed.get? source) := by
  rw [surveyed]
  generalize e.mounts = ms
  induction ms using List.reverseRecOn with
  | nil => exact .missing nofun
  | append_singleton ms m ih =>
    rw [List.foldl_concat, learned]
    by_cases hm : e.Reveals m source
    · rw [revealed?_eq_some_iff.2 hm]
      dsimp only
      rw [Dict.get?_insert, if_pos rfl]
      exact .last hm nofun
    · -- The mount says nothing about the source: the answer is the one from before.
      have hsame :
          (match e.revealed? m with
            | some name => (ms.foldl e.learned .empty).insert name m.name
            | none => ms.foldl e.learned .empty).get? source =
          (ms.foldl e.learned .empty).get? source := by
        rcases hrevealed : e.revealed? m with _ | name
        · rfl
        · have hne : ¬ source = name := fun h => hm (revealed?_eq_some_iff.1 (h ▸ hrevealed))
          dsimp only
          rw [Dict.get?_insert, if_neg hne]
      rw [hsame]
      generalize (ms.foldl e.learned .empty).get? source = answer at ih
      cases ih with
      | last hlast hafter =>
        rw [List.append_assoc, List.cons_append]
        refine .last hlast fun m' hm' => ?_
        rcases List.mem_append.1 hm' with hm' | hm'
        · exact hafter m' hm'
        · rw [List.mem_singleton.1 hm']
          exact hm
      | missing hms =>
        refine .missing fun m' hm' => ?_
        rcases List.mem_append.1 hm' with hm' | hm'
        · exact hms m' hm'
        · rw [List.mem_singleton.1 hm']
          exact hm

/-! ## Hosts and what happens to them -/

/-- What happens: the engine changes, a source is looked up, or the cache is replaced by a new
one. -/
inductive Event where
  | change (f : Engine → Engine)
  | lookup (source : String)
  | replace

/-- The engine, the cache, and all that the engine has been asked about. -/
structure Host where
  engine : Engine
  cache : Cache
  asked : List String

namespace Host

variable {h : Host} {es : List Event}

/-- A host whose engine has not been asked. -/
def start (e : Engine) : Host := ⟨e, .new, []⟩

/-- The answer for a source. -/
def answer (h : Host) (source : String) : Option String := (h.cache.lookup h.engine source).1

/-- The host after an event. -/
def step (h : Host) : Event → Host
  | .change f => { h with engine := f h.engine }
  | .lookup source =>
    let (_, cache, asked) := h.cache.lookup h.engine source
    { h with cache, asked := h.asked ++ asked }
  | .replace => { h with cache := .new }

/-- The host after some events. -/
def run (h : Host) (es : List Event) : Host := es.foldl step h

theorem run_append (h : Host) (es es' : List Event) : h.run (es ++ es') = (h.run es).run es' :=
  List.foldl_append

theorem lookup_new (e : Engine) (source : String) :
    Cache.new.lookup e source =
    (e.surveyed.get? source, ⟨some e.surveyed⟩, volumeNames e.mounts) := by
  have hnames : (Cache.new.names e).run [] = (e.surveyed, volumeNames e.mounts) := survey_run e []
  rw [Cache.lookup, hnames]

theorem lookup_known (names : Dict String) (e : Engine) (source : String) :
    (⟨some names⟩ : Cache).lookup e source = (names.get? source, ⟨some names⟩, []) := rfl

/-- **Without a look-up** the cache stays as it is, and the engine is not asked. -/
theorem run_quiet (hreplace : .replace ∉ es) (hlookup : ∀ source, .lookup source ∉ es) (h : Host) :
    (h.run es).cache = h.cache ∧ (h.run es).asked = h.asked := by
  induction es generalizing h with
  | nil => exact ⟨rfl, rfl⟩
  | cons event es ih =>
    rw [List.mem_cons, not_or] at hreplace
    obtain ⟨hevent, hreplace⟩ := hreplace
    have hrest := ih hreplace (fun source hmem => hlookup source (List.mem_cons_of_mem _ hmem))
      (h.step event)
    cases event with
    | change f => exact hrest
    | lookup source => exact absurd List.mem_cons_self (hlookup source)
    | replace => exact absurd rfl hevent

/-- **After a survey** the cache stays as it is, and the engine is not asked again. -/
theorem run_settled {names : Dict String} (hreplace : .replace ∉ es)
    (hknown : h.cache = ⟨some names⟩) :
    (h.run es).cache = ⟨some names⟩ ∧ (h.run es).asked = h.asked := by
  induction es generalizing h with
  | nil => exact ⟨hknown, rfl⟩
  | cons event es ih =>
    rw [List.mem_cons, not_or] at hreplace
    obtain ⟨hevent, hreplace⟩ := hreplace
    cases event with
    | change f => exact ih (h := h.step (.change f)) hreplace hknown
    | lookup source =>
      have hlookup := lookup_known names h.engine source
      rw [← hknown] at hlookup
      have hasked : (h.step (.lookup source)).asked = h.asked := by
        rw [step, hlookup]
        exact List.append_nil _
      have hcache : (h.step (.lookup source)).cache = ⟨some names⟩ := by
        rw [step, hlookup]
        exact hknown
      rw [← hasked]
      exact ih hreplace hcache
    | replace => exact absurd rfl hevent

theorem first_lookup (hnew : h.cache = .new) (source : String) :
    (h.step (.lookup source)).cache = ⟨some h.engine.surveyed⟩ ∧
      (h.step (.lookup source)).asked = h.asked ++ volumeNames h.engine.mounts ∧
      h.engine.Stands source h.engine.mounts (h.answer source) := by
  have hlookup := lookup_new h.engine source
  rw [← hnew] at hlookup
  refine ⟨by rw [step, hlookup], by rw [step, hlookup], ?_⟩
  rw [answer, hlookup]
  exact stands_surveyed _ _

/-- **Look-ups over whole runs.** Let the cache be new, from the start or after a replacement, and
let anything happen but another replacement. As long as nothing is looked up, the engine is not
asked. The first look-up asks about each mounted volume, in mount order, and nothing else, and its
answer is by the mounts of the engine at that moment: the last one that reveals the source. From
then on nothing is asked any more, and every look-up is answered by that same engine, whatever has
become of it. -/
theorem lookups_follow_survey (e : Engine) (past since : List Event) (source : String)
    (hpast : past = [] ∨ ∃ earlier, past = earlier ++ [.replace]) (hsince : .replace ∉ since) :
    let h := (start e).run past
    ((∀ s, .lookup s ∉ since) →
        (h.run since).asked = h.asked ∧
          ((h.run since).step (.lookup source)).asked =
            h.asked ++ volumeNames (h.run since).engine.mounts ∧
          (h.run since).engine.Stands source (h.run since).engine.mounts
            ((h.run since).answer source)) ∧
      ∀ quiet first later, since = quiet ++ .lookup first :: later → (∀ s, .lookup s ∉ quiet) →
        (h.run since).asked = h.asked ++ volumeNames (h.run quiet).engine.mounts ∧
          ((h.run since).step (.lookup source)).asked = (h.run since).asked ∧
          (h.run quiet).engine.Stands source (h.run quiet).engine.mounts
          ((h.run since).answer source) := by
  intro h
  have hnew : h.cache = .new := by
    rcases hpast with rfl | ⟨earlier, rfl⟩
    · rfl
    · change ((start e).run (earlier ++ [.replace])).cache = .new
      rw [run_append]
      rfl
  constructor
  · intro hquiet
    obtain ⟨hcache, hasked⟩ := run_quiet hsince hquiet h
    obtain ⟨-, hfirst, hanswer⟩ := first_lookup (hcache.trans hnew) source
    rw [hasked] at hfirst
    exact ⟨hasked, hfirst, hanswer⟩
  · rintro quiet first later rfl hquiet
    have hsplit : .replace ∉ quiet ∧ .replace ∉ later := by
      rw [List.mem_append, List.mem_cons, not_or, not_or] at hsince
      exact ⟨hsince.1, hsince.2.2⟩
    obtain ⟨hcache, hasked⟩ := run_quiet hsplit.1 hquiet h
    obtain ⟨hknown, hfirst, -⟩ := first_lookup (hcache.trans hnew) first
    obtain ⟨hstays, hlater⟩ := run_settled hsplit.2 hknown
    rw [hasked] at hfirst
    have hrun : h.run (quiet ++ .lookup first :: later) =
        ((h.run quiet).step (.lookup first)).run later :=
      run_append _ _ _
    rw [hrun]
    have hlookup (e' : Engine) := lookup_known (h.run quiet).engine.surveyed e' source
    refine ⟨hlater.trans hfirst, ?_, ?_⟩
    · rw [step, hstays, hlookup]
      exact List.append_nil _
    · rw [answer, hstays, hlookup]
      exact stands_surveyed _ _

/-- The cache is replaced after a first look-up. Its next survey comes upon a volume that the engine
does not know, a directory, a volume that is mounted twice, and two volumes for one source. What the
engine tells later about the source does not matter. -/
theorem lookups_follow_survey_twice :
    let volume (name : String) (e : Engine) : Engine := e.mount ⟨.volume, name⟩
    let data (name : String) (e : Engine) : Engine :=
      e.describe name ⟨name, [(VolumeInfo.projectLabel, "data")]⟩
    let engine := volume "app_data" (volume "new_data" (volume "app_data"
      ((volume "missing" .empty).mount ⟨.bind, "/host"⟩)))
    let past : List Event := [.lookup "data", .replace]
    let quiet : List Event := [.change (data "app_data"), .change (data "new_data")]
    let since := quiet ++ .lookup "logs" :: [.change (data "missing"), .change (volume "missing")]
    let h := (start engine).run past
    .replace ∉ since ∧ h.asked = ["missing", "app_data", "new_data", "app_data"] ∧
      (h.run since).asked = h.asked ++ ["missing", "app_data", "new_data", "app_data"] ∧
      ((h.run since).step (.lookup "data")).asked = (h.run since).asked ∧
      (h.run quiet).engine.Stands "data" (h.run quiet).engine.mounts (some "app_data") := by
  intro volume data engine past quiet since h
  have hsince : .replace ∉ since := by simp [since, quiet]
  have hquiet (s : String) : .lookup s ∉ quiet := by simp [quiet]
  obtain ⟨-, hlater⟩ :=
    lookups_follow_survey engine past since "data" (.inr ⟨[.lookup "data"], rfl⟩) hsince
  obtain ⟨hasked, hsame, hanswer⟩ := hlater quiet "logs" _ rfl hquiet
  have hfound : (h.run since).answer "data" = some "app_data" := by decide +kernel
  rw [hfound] at hanswer
  exact ⟨hsince, by decide +kernel, hasked.trans (by decide +kernel), hsame, hanswer⟩

end Host

end Engine

end ComposePods

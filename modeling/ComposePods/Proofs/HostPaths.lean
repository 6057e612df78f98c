import ComposePods.Proofs.NormalForms
import ComposePods.Proofs.Split
import ComposePods.Proofs.Texts

/-!
# Host paths of a service

From an absolute directory all relative host paths of a service become absolute, and nothing else
changes: a second time there is nothing left to resolve. From a relative directory they stay
relative, and a source that is resolved may look like the name of a volume then; whether it does is
decided by its first component.

* `Text.before`, `Text.splitOnce_of_toList`: what stands before the first separator;
* `Volume.source?`, `Volume.locate_eq`, `Build.context?`, `Build.locate_of_local`: the one path of
  each that is resolved;
* `Service.Located`: what becomes of the host paths of a service;
* **`Service.locate_settles`**: host paths from an absolute directory;
* `Path.isHostPath`, `Path.isHostPath_before_iff`: the sources that are no names of volumes;
* **`Service.source_locate`**: when a bind mount stays one.
-/

namespace ComposePods

/-! ## Texts parted once -/

namespace Text

variable {c : Char} {s a b : String}

/-- The text before the first `c`, or all of it. -/
def before (c : Char) (s : String) : String := String.ofList (s.toList.takeWhile (· != c))

theorem splitOnce_of_toList (h : s.toList = a.toList ++ c :: b.toList) :
    ∃ rest, splitOnce c s = some (before c a, rest) := by
  have hbefore : c ∉ (before c a).toList := by
    rw [before, String.toList_ofList]
    intro hmem
    simpa using List.mem_takeWhile_imp hmem
  have hsplit : a.toList = (before c a).toList ++ a.toList.dropWhile (· != c) := by
    rw [before, String.toList_ofList, List.takeWhile_append_dropWhile]
  rcases hdrop : a.toList.dropWhile (· != c) with _ | ⟨d, more⟩
  · rw [hdrop, List.append_nil] at hsplit
    exact ⟨b, splitOnce_eq_some_iff.2 ⟨by rw [h, hsplit], hbefore⟩⟩
  · have hd := List.head?_dropWhile_not (· != c) a.toList
    rw [hdrop] at hd hsplit
    obtain rfl : d = c := by simpa using hd
    refine ⟨String.ofList (more ++ d :: b.toList), splitOnce_eq_some_iff.2 ⟨?_, hbefore⟩⟩
    rw [h, hsplit]
    simp

end Text

/-! ## Sources that are paths -/

namespace Path

variable {source directory path : String}

/-- The source of a mount is a path of the host, not the name of a volume. -/
def isHostPath (source : String) : Bool := isRelativeSource source || isAbsolute source

theorem isRelativeSource_iff :
    isRelativeSource source = true ↔
      source.toList = ['.'] ∨ ['.', '/'] <+: source.toList ∨ ['.', '.'] <+: source.toList := by
  simp only [isRelativeSource, Text.startsWith, Bool.or_eq_true, beq_iff_eq,
    List.isPrefixOf_iff_prefix, ← String.toList_inj, or_assoc]
  rfl

theorem isRelativeSource_of_isAbsolute (h : isAbsolute source = true) :
    isRelativeSource source = false := by
  rw [Bool.eq_false_iff, ne_eq, isRelativeSource_iff]
  obtain ⟨cs, hcs⟩ : ∃ cs, source.toList = '/' :: cs := by
    rw [isAbsolute, beq_iff_eq] at h
    exact List.head?_eq_some_iff.1 h
  rw [hcs]
  simp

theorem isAbsolute_of_isRelativeSource (h : isRelativeSource source = true) :
    isAbsolute source = false := by
  rw [Bool.eq_false_iff]
  intro habsolute
  rw [isRelativeSource_of_isAbsolute habsolute] at h
  cases h

theorem isAbsolute_before (source : String) :
    isAbsolute (Text.before ':' source) = isAbsolute source := by
  rw [isAbsolute, isAbsolute, Text.before, String.toList_ofList]
  cases source.toList with
  | nil => rfl
  | cons c cs =>
    rw [List.takeWhile_cons]
    split
    · rfl
    · rename_i h
      obtain rfl : c = ':' := by simpa using h
      rfl

theorem resolve_of_isAbsolute (directory : String) (h : isAbsolute path = true) :
    resolve directory path = path := by
  rw [resolve, if_pos h]

theorem isAbsolute_resolve_of_directory (h : isAbsolute directory = true) (path : String) :
    isAbsolute (resolve directory path) = true := by
  rw [isAbsolute_resolve, h, Bool.or_true]

end Path

open ComposePods.Path

/-! ## Volumes -/

namespace Volume

/-- The source of a volume that may be resolved: what a text has before its first colon, and the
source of a bind mount. -/
def source? : Volume → Option String
  | .short text => (Text.splitOnce ':' text).map (·.1)
  | .long mount => if mount.type = "bind" then mount.source else none

/-- The volume with another source; a text stays as it is from its first colon on. -/
def withSource (source : String) : Volume → Volume
  | .short text =>
    match Text.splitOnce ':' text with
    | none => .short text
    | some (_, rest) => .short (source ++ ":" ++ rest)
  | .long mount => .long { mount with source := some source }

/-- **Only the source of a volume is resolved**, and only if it is a relative path. -/
theorem locate_eq (directory : String) (v : Volume) :
    v.locate directory =
      match v.source? with
      | none => v
      | some source =>
        if isRelativeSource source then v.withSource (resolve directory source) else v := by
  cases v with
  | short text =>
    rcases hsplit : Text.splitOnce ':' text with _ | ⟨source, rest⟩
    · simp [locate, source?, hsplit]
    · have htext : source ++ ":" ++ rest = text :=
        String.toList_injective (by simp [(Text.splitOnce_eq_some_iff.1 hsplit).1])
      cases hrelative : isRelativeSource source <;>
        simp [locate, source?, withSource, hsplit, resolveSource, hrelative, htext]
  | long mount =>
    obtain ⟨type, source, target, readOnly, consistency, bind, volume, tmpfs⟩ := mount
    by_cases htype : type = "bind"
    · rcases source with _ | source
      · simp [locate, source?, htype]
      · cases hrelative : isRelativeSource source <;>
          simp [locate, source?, withSource, htype, resolveSource, hrelative]
    · simp [locate, source?, htype]

theorem source?_withSource {v : Volume} {source : String} (h : v.source? = some source)
    (path : String) :
    ∃ left, (v.withSource path).source? = some left ∧
    (left = path ∨ left = Text.before ':' path) := by
  cases v with
  | short text =>
    obtain ⟨⟨_, rest⟩, hsplit, rfl⟩ := Option.map_eq_some_iff.1 h
    obtain ⟨rest', hpath⟩ :=
      Text.splitOnce_of_toList (c := ':') (s := path ++ ":" ++ rest) (a := path) (b := rest)
        (by simp)
    exact ⟨_, by simp [withSource, hsplit, source?, hpath], .inr rfl⟩
  | long mount =>
    rw [source?] at h
    split at h
    · rename_i htype
      exact ⟨path, by simp [withSource, source?, htype], .inl rfl⟩
    · cases h

/-- The volume has a source that is a relative path. -/
def IsRelative (v : Volume) : Prop :=
  ∃ source, v.source? = some source ∧ isRelativeSource source = true

theorem locate_of_relative {v : Volume} {source : String} (directory : String)
    (hsource : v.source? = some source) (h : isRelativeSource source = true) :
    v.locate directory = v.withSource (resolve directory source) := by
  rw [locate_eq, hsource]
  exact if_pos h

/-- **A volume without a relative source stays as it is.** -/
theorem locate_of_not_isRelative {v : Volume} (directory : String) (h : ¬ v.IsRelative) :
    v.locate directory = v := by
  rw [locate_eq]
  rcases hsource : v.source? with _ | source
  · rfl
  · exact if_neg fun hrelative => h ⟨source, hsource, hrelative⟩

/-- **From an absolute directory no relative source is left.** -/
theorem not_isRelative_locate {directory : String} (h : isAbsolute directory = true) (v : Volume) :
    ¬ (v.locate directory).IsRelative := by
  by_cases hv : v.IsRelative
  · obtain ⟨source, hsource, hrelative⟩ := hv
    have hresolved := isAbsolute_resolve_of_directory h source
    obtain ⟨left, hleft, hpath⟩ := source?_withSource hsource (resolve directory source)
    have habsolute : isAbsolute left = true := by
      rcases hpath with rfl | rfl
      · exact hresolved
      · rwa [isAbsolute_before]
    rw [locate_of_relative directory hsource hrelative]
    rintro ⟨again, hagain, hrelative⟩
    obtain rfl := Option.some.inj (hleft.symm.trans hagain)
    rw [isRelativeSource_of_isAbsolute habsolute] at hrelative
    cases hrelative
  · rwa [locate_of_not_isRelative directory hv]

/-- What becomes of a volume: a relative source becomes absolute and all else stays, no relative
source is left, and a volume without one, such as that with an absolute source, stays as it is. -/
structure Located (directory : String) (v w : Volume) : Prop where
  relative : ∀ source, v.source? = some source → isRelativeSource source = true →
    isAbsolute (resolve directory source) = true ∧ w = v.withSource (resolve directory source)
  absolute : ∀ source, v.source? = some source → isAbsolute source = true → w = v
  others : ¬ v.IsRelative → w = v
  settled : ¬ w.IsRelative

theorem located {directory : String} (h : isAbsolute directory = true) (v : Volume) :
    v.Located directory (v.locate directory) where
  relative source hsource hrelative :=
    ⟨isAbsolute_resolve_of_directory h source, locate_of_relative directory hsource hrelative⟩
  absolute source hsource habsolute := by
    refine locate_of_not_isRelative directory ?_
    rintro ⟨other, hother, hrelative⟩
    obtain rfl := Option.some.inj (hsource.symm.trans hother)
    rw [isRelativeSource_of_isAbsolute habsolute] at hrelative
    cases hrelative
  others := locate_of_not_isRelative directory
  settled := not_isRelative_locate h v

theorem locate_locate {directory : String} (h : isAbsolute directory = true) (v : Volume) :
    (v.locate directory).locate directory = v.locate directory :=
  locate_of_not_isRelative directory (not_isRelative_locate h v)

end Volume

/-! ## Builds -/

namespace Build

/-- The context of a build. -/
def context? : Build → Option String
  | .context path => some path
  | .detailed options => options.context

/-- The build with another context. -/
def withContext (path : String) : Build → Build
  | .context _ => .context path
  | .detailed options => .detailed { options with context := some path }

theorem context?_withContext (b : Build) (path : String) :
    (b.withContext path).context? = some path := by
  cases b <;> rfl

theorem withContext_context? {b : Build} {path : String} (h : b.context? = some path) :
    b.withContext path = b := by
  cases b with
  | context p =>
    obtain rfl := Option.some.inj h
    rfl
  | detailed options =>
    obtain ⟨context, dockerfile, args, target⟩ := options
    obtain rfl : context = some path := h
    rfl

/-- The build has a context that is a path. -/
def IsLocal (b : Build) : Prop := ∃ context, b.context? = some context ∧ isRemote context = false

theorem locate_of_local {b : Build} {context : String} (directory : String)
    (hcontext : b.context? = some context) (h : isRemote context = false) :
    b.locate directory = b.withContext (resolve directory context) := by
  cases b with
  | context path =>
    obtain rfl := Option.some.inj hcontext
    simp [locate, withContext, resolveContext, h]
  | detailed options =>
    obtain ⟨path, dockerfile, args, target⟩ := options
    obtain rfl : path = some context := hcontext
    simp [locate, withContext, resolveContext, h]

/-- **A build without a context that is a path stays as it is.** -/
theorem locate_of_not_isLocal {b : Build} (directory : String) (h : ¬ b.IsLocal) :
    b.locate directory = b := by
  have hremote {context : String} (hcontext : b.context? = some context) :
      isRemote context = true := by
    rw [← Bool.not_eq_false]
    exact fun hlocal => h ⟨context, hcontext, hlocal⟩
  cases b with
  | context path => simp [locate, resolveContext, hremote rfl]
  | detailed options =>
    obtain ⟨path, dockerfile, args, target⟩ := options
    rcases path with _ | context
    · rfl
    · simp [locate, resolveContext, hremote rfl]

/-- What becomes of a build: a context that is a path becomes absolute and all else stays, and a
remote one stays as it is. -/
structure Located (directory : String) (b c : Build) : Prop where
  path : ∀ context, b.context? = some context → isRemote context = false →
    isAbsolute (resolve directory context) = true ∧ c = b.withContext (resolve directory context)
  absolute : ∀ context, b.context? = some context → isAbsolute context = true → c = b
  others : ¬ b.IsLocal → c = b
  settled : ∀ context, c.context? = some context → isRemote context = true ∨
    isAbsolute context = true

theorem located {directory : String} (h : isAbsolute directory = true) (b : Build) :
    b.Located directory (b.locate directory) where
  path context hcontext hlocal :=
    ⟨isAbsolute_resolve_of_directory h context, locate_of_local directory hcontext hlocal⟩
  absolute context hcontext habsolute := by
    by_cases hlocal : b.IsLocal
    · obtain ⟨other, hother, hpath⟩ := hlocal
      obtain rfl := Option.some.inj (hcontext.symm.trans hother)
      rw [locate_of_local directory hcontext hpath, resolve_of_isAbsolute directory habsolute,
        withContext_context? hcontext]
    · exact locate_of_not_isLocal directory hlocal
  others := locate_of_not_isLocal directory
  settled context hcontext := by
    by_cases hlocal : b.IsLocal
    · obtain ⟨given, hgiven, hpath⟩ := hlocal
      rw [locate_of_local directory hgiven hpath, context?_withContext] at hcontext
      obtain rfl := Option.some.inj hcontext
      exact .inr (isAbsolute_resolve_of_directory h given)
    · rw [locate_of_not_isLocal directory hlocal] at hcontext
      left
      rw [← Bool.not_eq_false]
      exact fun hpath => hlocal ⟨context, hcontext, hpath⟩

theorem locate_locate {directory : String} (h : isAbsolute directory = true) (b : Build) :
    (b.locate directory).locate directory = b.locate directory := by
  by_cases hlocal : (b.locate directory).IsLocal
  · obtain ⟨context, hcontext, hpath⟩ := hlocal
    have habsolute := ((located h b).settled context hcontext).resolve_left (by simp [hpath])
    exact (located h (b.locate directory)).absolute context hcontext habsolute
  · exact locate_of_not_isLocal directory hlocal

end Build

/-! ## Environment files -/

/-- What becomes of a path: it is absolute, and it stays as it is if it was before. -/
structure Path.Located (directory path located : String) : Prop where
  resolved : located = resolve directory path
  absolute : isAbsolute path = true → located = path
  settled : isAbsolute located = true

theorem Path.located {directory : String} (h : isAbsolute directory = true) (path : String) :
    Path.Located directory path (resolve directory path) where
  resolved := rfl
  absolute := resolve_of_isAbsolute directory
  settled := isAbsolute_resolve_of_directory h path

/-- What becomes of one path or a list of paths: the same number of paths in the same order. -/
inductive TextOrList.Located (directory : String) : TextOrList → TextOrList → Prop
  | single {path located : String} : Path.Located directory path located →
      Located directory (.single path) (.single located)
  | list {paths located : List String} : List.Forall₂ (Path.Located directory) paths located →
      Located directory (.list paths) (.list located)

theorem TextOrList.located {directory : String} (h : isAbsolute directory = true)
    (files : TextOrList) : files.Located directory (files.map (resolve directory)) := by
  cases files with
  | single path => exact .single (Path.located h path)
  | list paths =>
    exact .list
      (List.forall₂_map_right_iff.2 (List.forall₂_same.2 fun path _ => Path.located h path))

theorem TextOrList.map_resolve_map_resolve {directory : String} (h : isAbsolute directory = true)
    (files : TextOrList) :
    (files.map (resolve directory)).map (resolve directory) = files.map (resolve directory) := by
  have hresolve (path : String) :
      resolve directory (resolve directory path) = resolve directory path :=
    resolve_of_isAbsolute directory (isAbsolute_resolve_of_directory h path)
  cases files <;> simp [map, hresolve]

/-! ## Services -/

theorem Property.locate_locate {directory : String} (h : isAbsolute directory = true) (p : Property)
    (v : p.Carrier) : p.locate directory (p.locate directory v) = p.locate directory v := by
  have hvolumes (vs : List Volume) :
      (vs.map (Volume.locate directory)).map (Volume.locate directory) =
      vs.map (Volume.locate directory) := by
    simp [Volume.locate_locate h]
  have hfiles (files : Option TextOrList) :
      (files.map (·.map (resolve directory))).map (·.map (resolve directory)) =
        files.map (·.map (resolve directory)) := by
    simp [Function.comp_def, TextOrList.map_resolve_map_resolve h]
  have hbuild (b : Option Build) :
      (b.map (Build.locate directory)).map (Build.locate directory) =
      b.map (Build.locate directory) := by
    simp [Function.comp_def, Build.locate_locate h]
  cases p with
  | volumes => exact hvolumes v
  | envFile => exact hfiles v
  | build => exact hbuild v
  | _ => rfl

namespace Service

variable {directory : String} {s t : Service}

/-- What becomes of the host paths of a service: the volumes, environment files and build are
located, each in its place, and all else stays. -/
structure Located (directory : String) (s t : Service) : Prop where
  name : t.name = s.name
  extensions : t.extensions = s.extensions
  volumes : List.Forall₂ (Volume.Located directory) s.volumes t.volumes
  envFile : Option.Rel (TextOrList.Located directory) s.envFile t.envFile
  build : Option.Rel (Build.Located directory) s.build t.build
  others : ∀ p, p ≠ .volumes → p ≠ .envFile → p ≠ .build → t.value p = s.value p

theorem rel_map {α : Type} {R : α → α → Prop} {f : α → α} (h : ∀ a, R a (f a)) (o : Option α) :
    Option.Rel R o (o.map f) := by
  cases o with
  | none => exact .none
  | some a => exact .some (h a)

theorem located (h : isAbsolute directory = true) (s : Service) :
    s.Located directory (s.locate directory) where
  name := rfl
  extensions := rfl
  volumes := by
    rw [volumes, volumes, value_locate]
    exact List.forall₂_map_right_iff.2 (List.forall₂_same.2 fun v _ => Volume.located h v)
  envFile := by
    rw [envFile, envFile, value_locate]
    exact rel_map (TextOrList.located h) _
  build := by
    rw [build, build, value_locate]
    exact rel_map (Build.located h) _
  others p hvolumes henvFile hbuild := by
    rw [value_locate]
    cases p <;> first | rfl | contradiction

/-- **Host paths from an absolute directory.** Resolving them a second time changes nothing more.
Every environment file and every context that is a path is absolute then, no source of a bind mount
is a relative path, and a text keeps what it has from its first colon on; named volumes, absolute
paths, other mounts, remote contexts and all other properties stay as they are, and so does the
order of the lists. -/
theorem locate_settles (h : isAbsolute directory = true) (s : Service) :
    (s.locate directory).locate directory = s.locate directory ∧
    s.Located directory (s.locate directory) := by
  have hvalue (p : Property) :
      ((s.locate directory).locate directory).value p = (s.locate directory).value p := by
    rw [value_locate, value_locate]
    exact p.locate_locate h (s.value p)
  exact ⟨congrArg (Service.mk s.name · s.extensions) (funext hvalue), located h s⟩

/-- A directory that has a colon itself, and a path for each kind of property. -/
theorem locate_settles_colon :
    let s := (((Service.empty "web").set .volumes [.short "../data:/data:ro"]).set .envFile
      (some (.list ["./web.env"]))).set .build (some (.context "."))
    isAbsolute "/srv/a:b" = true ∧ (s.locate "/srv/a:b").volumes = [.short "/srv/data:/data:ro"] ∧
      (s.locate "/srv/a:b").locate "/srv/a:b" = s.locate "/srv/a:b" ∧
      s.Located "/srv/a:b" (s.locate "/srv/a:b") := by
  intro s
  have h : isAbsolute "/srv/a:b" = true := by decide +kernel
  exact ⟨h, by decide +kernel, locate_settles h s⟩

end Service

/-! ## Sources from any directory -/

namespace Path

variable {source directory path segment : String}

theorem isRelativeSource_of_toList (hsegment : IsSegment segment) (hne : segment ≠ "")
    (rest : List Char) (h : path.toList = segment.toList ++ '/' :: rest) :
    isRelativeSource path = isRelativeSource segment := by
  rw [Bool.eq_iff_iff, isRelativeSource_iff, isRelativeSource_iff, h]
  rw [IsSegment] at hsegment
  rw [← String.toList_inj.ne] at hne
  rcases hcs : segment.toList with _ | ⟨c, _ | ⟨d, cs⟩⟩
  · exact absurd hcs hne
  · simp [eq_comm]
  · rw [hcs] at hsegment
    simp only [List.mem_cons, not_or] at hsegment
    simp [hsegment.2.1, eq_comm]

theorem isRelativeSource_before (hsegment : IsSegment segment) (hne : segment ≠ "")
    (rest : String) :
    isRelativeSource (Text.before ':' (segment ++ "/" ++ rest)) =
    isRelativeSource (Text.before ':' segment) := by
  have htext : (segment ++ "/" ++ rest).toList = segment.toList ++ '/' :: rest.toList := by simp
  by_cases hcolon : (segment.toList.takeWhile (· != ':')).length = segment.toList.length
  · have hwhole : segment.toList.takeWhile (· != ':') = segment.toList :=
      (List.takeWhile_prefix _).eq_of_length hcolon
    have hbefore : Text.before ':' segment = segment :=
      String.toList_injective (by simp [Text.before, hwhole])
    rw [hbefore]
    refine isRelativeSource_of_toList hsegment hne (rest.toList.takeWhile (· != ':')) ?_
    rw [Text.before, String.toList_ofList, htext, List.takeWhile_append, if_pos hcolon]
    rfl
  · have hpart : Text.before ':' (segment ++ "/" ++ rest) = Text.before ':' segment := by
      rw [Text.before, htext, List.takeWhile_append, if_neg hcolon, Text.before]
    rw [hpart]

theorem exists_head_components (hpath : isAbsolute path = false) :
    path = "" ∨ ∃ first, (components path).head? = some first ∧ IsSegment first ∧ first ≠ "" ∧
      (path = first ∨ ∃ rest, path = first ++ "/" ++ rest) := by
  obtain ⟨s, rest, h⟩ := exists_segments path
  have htext : ofSegments (s :: rest) = path := by rw [← h, ofSegments_segments]
  by_cases hs : s = ""
  · have hrest : rest = [] := by
      by_contra hne
      rw [(isAbsolute_iff h).2 ⟨hs, hne⟩] at hpath
      cases hpath
    rw [hs, hrest] at htext
    exact .inl htext.symm
  · refine .inr ⟨s, by simp [components_eq h, hs], isSegment_of_segments h, hs, ?_⟩
    rcases rest with _ | ⟨t, ts⟩
    · exact .inl (htext.symm.trans (by simp [ofSegments]))
    · refine .inr ⟨ofSegments (t :: ts), htext.symm.trans ?_⟩
      simp [ofSegments]

/-- **A path is no name of a volume** if it starts at the root, or if its first component looks
relative. -/
theorem isHostPath_before_iff (path : String) :
    isHostPath (Text.before ':' path) = true ↔ isAbsolute path = true ∨
      ∃ first, (components path).head? = some first ∧
      isRelativeSource (Text.before ':' first) = true := by
  rw [isHostPath, Bool.or_eq_true, isAbsolute_before, or_comm]
  rcases hpath : isAbsolute path with _ | _
  · simp only [Bool.false_eq_true, false_or]
    rcases exists_head_components hpath with rfl | ⟨first, hhead, hsegment, hne, rfl | ⟨rest, rfl⟩⟩
    · decide
    · simp [hhead]
    · simp [hhead, isRelativeSource_before hsegment hne]
  · simp

/-- The first component of a path that is resolved: that of what is left of the directory, or the
first name. -/
def leading (directory path : String) : Option String :=
  ((components directory).take ((components directory).length - climbs path) ++
    (normal path).names.reverse).head?

end Path

open Text in
/-- **When a bind mount stays one.** A volume whose source is the name of a volume stays as it is.
One whose source is a path still has a path as its source exactly if the source or the directory
starts at the root, or if what is left of the directory, or else the path, begins with a component
that looks relative, such as `..`. -/
theorem Service.source_locate {s : Service} {i : Nat} {text source rest : String}
    (hvolume : s.volumes[i]? = some (.short text))
    (hsource : splitOnce ':' text = some (source, rest)) (directory : String) :
    ∃ text' source' rest', (s.locate directory).volumes[i]? = some (.short text') ∧
      splitOnce ':' text' = some (source', rest') ∧
      (isHostPath source = false → text' = text) ∧
      (isHostPath source = true → (isHostPath source' = true ↔
        isAbsolute source = true ∨ isAbsolute directory = true ∨
          ∃ first, leading directory source = some first ∧
          isRelativeSource (before ':' first) = true)) := by
  have hlocated : (s.locate directory).volumes[i]? =
      some (Volume.locate directory (.short text)) := by
    rw [volumes, value_locate]
    change ((s.volumes.map (Volume.locate directory))[i]?) = _
    rw [List.getElem?_map, hvolume]
    rfl
  rcases hrelative : isRelativeSource source with _ | _
  · have hkept : Volume.locate directory (.short text) = .short text := by
      refine Volume.locate_of_not_isRelative directory ?_
      rintro ⟨other, hother, h⟩
      rw [Volume.source?, hsource] at hother
      obtain rfl : source = other := Option.some.inj hother
      rw [hrelative] at h
      cases h
    rw [hkept] at hlocated
    refine ⟨text, source, rest, hlocated, hsource, fun _ => rfl, fun hpath => ?_⟩
    rw [isHostPath, hrelative, Bool.false_or] at hpath
    simp [isHostPath, hpath]
  · have habsolute := isAbsolute_of_isRelativeSource hrelative
    have hresolved : Volume.locate directory (.short text) =
        .short (resolve directory source ++ ":" ++ rest) := by
      rw [Volume.locate_of_relative directory (by rw [Volume.source?, hsource]; rfl) hrelative,
        Volume.withSource, hsource]
    obtain ⟨rest', hsplit⟩ :=
      splitOnce_of_toList (c := ':') (s := resolve directory source ++ ":" ++ rest)
      (a := resolve directory source) (b := rest) (by simp)
    rw [hresolved] at hlocated
    refine ⟨_, _, rest', hlocated, hsplit, fun hpath => ?_, fun _ => ?_⟩
    · rw [isHostPath, hrelative, Bool.true_or] at hpath
      cases hpath
    · rw [isHostPath_before_iff, isAbsolute_resolve, habsolute, Bool.false_or, leading,
        components_resolve_eq directory habsolute]
      simp

/-- From a relative directory that leads up a path stays a path. -/
theorem Service.source_locate_parent :
    let s := (Service.empty "web").set .volumes [.short "./data:/data"]
    s.volumes[0]? = some (.short "./data:/data") ∧
      Text.splitOnce ':' "./data:/data" = some ("./data", "/data") ∧
      ∃ text' source' rest', (s.locate "../app").volumes[0]? = some (.short text') ∧
        Text.splitOnce ':' text' = some (source', rest') ∧ isHostPath source' = true := by
  intro s
  have hvolume : s.volumes[0]? = some (.short "./data:/data") := by decide +kernel
  have hsource : Text.splitOnce ':' "./data:/data" = some ("./data", "/data") := by decide +kernel
  obtain ⟨text', source', rest', hlocated, hsplit, -, hkind⟩ :=
    source_locate hvolume hsource "../app"
  refine ⟨hvolume, hsource, text', source', rest', hlocated, hsplit,
    (hkind (by decide +kernel)).2 (.inr (.inr ?_))⟩
  exact ⟨"..", by decide +kernel, by decide +kernel⟩

/-- From an empty directory the path `./data` becomes the name of a volume. -/
theorem Service.bind_lost :
    let s := (Service.empty "web").set .volumes [.short "./data:/data"]
    isHostPath "./data" = true ∧ (s.locate "").volumes = [.short "data:/data"] ∧
      isHostPath "data" = false := by
  decide +kernel

end ComposePods

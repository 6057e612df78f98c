import ComposePods.Proofs.Abandoned
import ComposePods.Proofs.Bodies
import ComposePods.Proofs.Writable

/-!
# Names between quotes

The default transformer puts the name of a service between quotes, and the text is read again. A
name that would break out of the quotes is no name of a definition, and the controller, which is
made first, is refused. A name that passes stands for itself, and the main component is made of what
it takes over, which can be read and written. Only the length of the name is not looked at: a quoted
text of more than `KeyMark.reach` characters is no key of a line, although the name may be written
as a key in other places.

* `Scanner.tokens_explicitKey`, `Project.ofText_explicitKey`: a text with a service of any name;
* `Context.isName_of_podStage`, `Context.isName_of_reaches`: names that come as far as the
  transformers;
* `Context.mainStage_of_short`, `Context.mainStage_of_long`: the main component of the default
  transformer;
* **`Project.mainStage_defaultTransformer`**: the services of a text, with an ordinary name and with
  one that is too long.
-/

namespace ComposePods

open Mapping Yaml

/-! ## A marked key -/

namespace Scanner

variable {cs : List Char}

/-- The text of a project with one service of which only the name is set, between quotes and behind
the mark of a key. -/
def explicitKey (cs : List Char) : List Char :=
  ['s', 'e', 'r', 'v', 'i', 'c', 'e', 's', ':', ' ', '\x7b', '?', ' ', '"'] ++
    (cs ++ ['"', ' ', ':', ' ', '\x7b', '\x7d', '\x7d'])

/-- In front of the name. -/
def beforeName (cs : List Char) : Scanner where
  rest := '"' :: (cs ++ ['"', ' ', ':', ' ', '\x7b', '\x7d', '\x7d'])
  position := ⟨0, 13⟩
  indent := 0
  indents := [-1]
  keyAllowed := false
  key := none
  outerKeys := [none]
  delivered := 6
  queue := []

/-- Behind the name. -/
def behindName (cs : List Char) : Scanner where
  rest := [' ', ':', ' ', '\x7b', '\x7d', '\x7d']
  position := Position.right ⟨0, 14⟩ (cs.length + 1)
  indent := 0
  indents := [-1]
  keyAllowed := false
  key := none
  outerKeys := [none]
  delivered := 6
  queue := [.scalar .quoted (.ofList cs)]

theorem tokens_beforeName (cs : List Char) (size fuel : Nat) :
    (start (explicitKey cs)).tokens size (fuel + 14) =
      [.blockMapping, .key, .scalar .plain "services", .value, .openBrace, .key] ++
        (beforeName cs).tokens size (fuel + 8) := rfl

theorem fetch_beforeName (h : ∀ c ∈ cs, isUnescaped c = true) :
    (beforeName cs).fetch = some (behindName cs) := by
  change (readDoubleQuoted .outside (cs ++ '"' :: [' ', ':', ' ', '\x7b', '\x7d', '\x7d'])
    ⟨0, 14⟩ .none [] >>=
    fun r => _) = _
  rw [readDoubleQuoted_unescaped h (by decide)]
  rfl

/-- **The tokens of a marked key.** No place of a key is kept in mind behind the mark, so none is
forgotten. -/
theorem tokens_explicitKey (h : ∀ c ∈ cs, isUnescaped c = true) (size fuel : Nat) :
    (start (explicitKey cs)).tokens size (fuel + 14) =
      [.blockMapping, .key, .scalar .plain "services", .value, .openBrace, .key,
        .scalar .quoted (.ofList cs),
        .value, .openBrace, .closeBrace, .closeBrace, .blockEnd, .streamEnd] := by
  have hsettle : (beforeName cs).settle (size + 3) = (behindName cs).settle (size + 2) := by
    change (fetch (beforeName cs)).bind (settle (size + 2)) = _
    rw [fetch_beforeName h]
    rfl
  rw [tokens_beforeName, tokens, hsettle]
  rfl

end Scanner

section ExplicitKey

variable {name : String}

theorem Token.ofText_explicitKey (h : Service.isName name = true) :
    Token.ofText ("services: \x7b? \"" ++ name ++ "\" : \x7b\x7d\x7d") =
      [.blockMapping, .key, .scalar .plain "services", .value, .openBrace, .key,
        .scalar .quoted name, .value,
        .openBrace, .closeBrace, .closeBrace, .blockEnd, .streamEnd] := by
  have hname := Service.ordinary_of_isName h
  have htext : ("services: \x7b? \"" ++ name ++ "\" : \x7b\x7d\x7d").toList =
      Scanner.explicitKey name.toList := by
    simp [Scanner.explicitKey]
  have hallowed : (Scanner.explicitKey name.toList).all isAllowed = true := by
    rw [Scanner.explicitKey, List.all_append, List.all_append,
      List.all_eq_true.2 fun c hc => (hname c hc).2]
    decide
  have hunify : unifyBreaks (Scanner.explicitKey name.toList) =
      Scanner.explicitKey name.toList := by
    change ['s', 'e', 'r', 'v', 'i', 'c', 'e', 's', ':', ' ', '\x7b', '?', ' ', '"'] ++
      unifyBreaks (name.toList ++ ['"', ' ', ':', ' ', '\x7b', '\x7d', '\x7d']) = _
    rw [unifyBreaks_append fun c hc => (hname c hc).1]
    rfl
  have hfuel : 4 * (Scanner.explicitKey name.toList).length + 8 =
      4 * name.toList.length + 78 + 14 := by
    simp only [Scanner.explicitKey, List.length_append, List.length_cons, List.length_nil]
    omega
  simp only [ofText, htext, hallowed, hunify, if_true]
  rw [hfuel, Scanner.tokens_explicitKey fun c hc => (hname c hc).1, String.ofList_toList]

/-- **The project of a marked key** has one service, whatever the length of its name. -/
theorem Project.ofText_explicitKey (h : Service.isName name = true) :
    ofText ("services: \x7b? \"" ++ name ++ "\" : \x7b\x7d\x7d") =
      .ok { empty with services := [Service.empty name] } := by
  rw [ofText, Document.ofText, Token.ofText_explicitKey h]
  rfl

end ExplicitKey

namespace Context

open Controller

variable [Markup.Machine] {c : Context} {settings : Settings}

/-! ## Names of controllers -/

theorem isName_of_podStage {t : Service} (h : c.podStage settings = .ok t) :
    Service.isName c.service.name = true := by
  obtain ⟨fragments, -, hentry⟩ := podStage_counted h
  exact (Definitions.ofEntry_mapping_ok_iff.1 hentry).1

theorem isName_of_reaches {t : Template} (h : c.Reaches settings .transformer t) :
    Service.isName c.service.name = true := by
  obtain ⟨s, hs⟩ := h.enters
  exact isName_of_podStage hs

/-! ## Main components -/

/-- **The main component of the default transformer** is made if the name is short enough for a
key. -/
theorem mainStage_of_short (hs : c.service.Sound) (hvalid : c.service.Valid)
    (hname : Service.isName c.service.name = true) (htransformer : c.templates.transformer = [])
    (hshown : c.Presents defaultTransformer) (htags : c.service.StacksNoTags)
    (hreach : c.service.name.length + 2 ≤ KeyMark.reach) :
    c.render .transformer defaultTransformer = .ok (rooted (.string c.service.name) []) ∧
      ∃ out, serviceText ((c.service.only KeySet.transformer.properties).locate c.directory) =
        .ok out ∧
        c.mainStage = .ok (c.service.name, out) := by
  obtain ⟨data, hdata⟩ := Option.isSome_iff_exists.1 (isSome_data?_iff.2 hshown)
  have hrender := render_default hname hvalid hdata
  rw [if_pos hreach] at hrender
  obtain ⟨out, hout⟩ :=
    Service.exists_text_of_only hs hshown.service htags KeySet.transformer.properties c.directory
  exact ⟨hrender, out, hout, (mainStage_default_iff hs hname htransformer hrender).2 ⟨rfl, hout⟩⟩

theorem mainStage_of_long (hvalid : c.service.Valid) (hname : Service.isName c.service.name = true)
    (htransformer : c.templates.transformer = []) (hshown : c.Presents defaultTransformer)
    (hreach : KeyMark.reach < c.service.name.length + 2) :
    c.mainStage = .error
    (.error (.malformedFragment c.service.name .transformer defaultTransformer.name
      .malformed)) := by
  obtain ⟨data, hdata⟩ := Option.isSome_iff_exists.1 (isSome_data?_iff.2 hshown)
  have hrender := render_default hname hvalid hdata
  rw [if_neg (Nat.not_le.2 hreach)] at hrender
  rw [mainStage, transformersOf_nil htransformer, List.mapM_cons, renderRooted, hrender]
  rfl

end Context

namespace Project

open Controller

variable {p : Project} {s : Service}

/-- **The default transformer** of a service whose templates are shown all they see. Where it is
reached, the service has a name that stands for itself between quotes; and if the name is short
enough, it is the only root key of the fragment, the main component is made, and its label is that
of the name. A longer name ends the run, and any other name ends it before, with the controller. -/
theorem mainStage_defaultTransformer [Markup.Machine] {text : String} (hp : ofText text = .ok p)
    (hs : s ∈ p.services) (settings : Settings) (directory : String) {templates : Templates}
    (htransformer : templates.transformer = [])
    (hshown : (Context.ofService p directory s templates).Presents defaultTransformer) :
    let c := Context.ofService p directory s templates
    (∀ t, c.podStage settings = .ok t → Service.isName s.name = true ∧
      (s.name.length + 2 ≤ KeyMark.reach →
        c.render .transformer defaultTransformer = .ok (rooted (.string s.name) []) ∧
        ∃ out, serviceText ((s.only KeySet.transformer.properties).locate directory) = .ok out ∧
          c.mainStage = .ok (s.name, out) ∧
          c.withMain settings = c.attachAll t [(settings.componentLabel s.name, out)] ∧
          ∀ u, c.controller settings = .ok u →
          u.labels.get? (settings.componentLabel s.name) = some out) ∧
      (KeyMark.reach < s.name.length + 2 → c.mainStage =
        .error (.error (.malformedFragment s.name .transformer defaultTransformer.name
          .malformed)))) ∧
      (Service.isName s.name = false →
        (∃ f, c.podStage settings = .error f ∧ c.controller settings = .error f) ∧
        ∀ t, ¬ c.Reaches settings .transformer t) := by
  intro c
  obtain ⟨hread, -⟩ := Document.read_ok_iff.1 hp
  obtain ⟨hsound, hvalid⟩ := (sound_of_read hread).services s hs
  have htags := stacksNoTags_of_read hread s hs
  refine ⟨fun t ht => ?_, fun hname => ⟨?_, fun t ht => ?_⟩⟩
  · have hname : Service.isName s.name = true := Context.isName_of_podStage ht
    refine ⟨hname, fun hreach => ?_, fun hreach => ?_⟩
    · obtain ⟨hrender, out, hout, hmain⟩ :=
        Context.mainStage_of_short (c := c) hsound hvalid hname htransformer hshown htags hreach
      refine ⟨hrender, out, hout, hmain, ?_, fun u hu => Context.get?_main hmain hu⟩
      rw [Context.withMain, ht, hmain]
      rfl
    · exact Context.mainStage_of_long (c := c) hvalid hname htransformer hshown hreach
  · rcases hpod : c.podStage settings with f | t
    · refine ⟨f, rfl, ?_⟩
      rw [Context.controller, hpod]
      rfl
    · exact absurd (Context.isName_of_podStage hpod) (Bool.eq_false_iff.1 hname)
  · exact absurd (Context.isName_of_reaches ht) (Bool.eq_false_iff.1 hname)

/-- A name that looks like a number, and properties with a tag and a relative path. -/
theorem mainStage_defaultTransformer_number :
    let text :=
      "services: \x7b'8080': \x7bimage: a, ulimits: \x7bnofile: !soft 5\x7d, volumes: ['./d:/d']\x7d\x7d"
    let s := (((Service.empty "8080").set .image (some "a")).set .ulimits
      (some [(.string "nofile", .tagged "!soft" (.number (.integer 5)))])).set .volumes
      [.short "./d:/d"]
    let p := { empty with services := [s] }
    let c := Context.ofService p "/work" s Templates.empty
    ofText text = .ok p ∧ s ∈ p.services ∧ Templates.empty.transformer = [] ∧
      c.Presents defaultTransformer ∧
      (∃ t, c.podStage .standard = .ok t) ∧ Service.isName s.name = true ∧
      s.name.length + 2 ≤ KeyMark.reach ∧
      c.render .transformer defaultTransformer = .ok (rooted (.string "8080") []) ∧
      ∃ out u, c.mainStage = .ok ("8080", out) ∧ c.controller .standard = .ok u ∧
        u.labels.get? "pod.component.8080" = some out := by
  intro text s p c
  have hp : ofText text = .ok p := toOption_some_iff.1 (by decide +kernel)
  have hs : s ∈ p.services := List.mem_singleton_self s
  have hshown : c.Presents defaultTransformer := Context.isSome_data?_iff.1 (by decide +kernel)
  obtain ⟨t, ht⟩ : ∃ t, c.podStage .standard = .ok t := exists_ok_of_isOk (by decide +kernel)
  obtain ⟨hname, hshort, -⟩ :=
    (mainStage_defaultTransformer hp hs .standard "/work" rfl hshown).1 t ht
  have hreach : s.name.length + 2 ≤ KeyMark.reach := by decide +kernel
  obtain ⟨hrender, out, -, hmain, -, hlabel⟩ := hshort hreach
  obtain ⟨u, hu⟩ : ∃ u, c.controller .standard = .ok u := exists_ok_of_isOk (by decide +kernel)
  exact ⟨hp, hs, rfl, hshown, ⟨t, ht⟩, hname, hreach, hrender, out, u, hmain, hu, hlabel u hu⟩

/-- Between quotes a name of 1023 characters does not fit into a key, although a project can have it
and the pod stage accepts it. -/
theorem mainStage_defaultTransformer_long :
    let name := String.ofList (List.replicate 1023 'a')
    let s := Service.empty name
    let p := { empty with services := [s] }
    let c := Context.ofService p "/work" s Templates.empty
    ofText ("services: \x7b? \"" ++ name ++ "\" : \x7b\x7d\x7d") = .ok p ∧ s ∈ p.services ∧
      Templates.empty.transformer = [] ∧ c.Presents defaultTransformer ∧
      (∃ t, c.podStage .standard = .ok t) ∧
      c.mainStage = .error
      (.error (.malformedFragment name .transformer defaultTransformer.name .malformed)) := by
  intro name s p c
  have hname : Service.isName name = true := by
    rw [Service.isName, String.toList_ofList]
    decide +kernel
  have hreach : KeyMark.reach < name.length + 2 := by
    rw [String.length_ofList, List.length_replicate]
    decide
  have hargs : c.argsOf defaultTransformer = [] := rfl
  have hshown : c.Presents defaultTransformer :=
    ⟨Service.presentable_empty name, List.forall_mem_singleton.2 (Service.presentable_empty name),
      hargs ▸ Value.presentable_mapping_iff.2 (List.forall_mem_nil _)⟩
  have hsound : s.Sound := Service.sound_empty name
  have hpod : ∃ t, c.podStage .standard = .ok t :=
    ⟨_, (Context.podStage_default_iff (c := c) hsound rfl).2 ⟨hname, rfl⟩⟩
  have hmain := Context.mainStage_of_long (c := c) rfl hname rfl hshown hreach
  exact ⟨ofText_explicitKey hname, List.mem_singleton_self s, rfl, hshown, hpod, hmain⟩

end Project

end ComposePods

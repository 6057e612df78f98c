import ComposePods.Proofs.Controller
import ComposePods.Proofs.Entries
import ComposePods.Proofs.Merging

/-!
# The default transformer

Without transformer templates the main component comes from a template of its own, which writes the
name of the service between quotes as the key of an empty mapping. The name is read back as it is,
since its characters mean nothing between quotes; only a name that is too long to be a key is
refused.

* `Yaml.isUnescaped`, `Yaml.readDoubleQuoted_unescaped`: texts that stand for themselves between
  quotes;
* `Scanner.tokens_quotedKey`, `Token.ofText_quotedKey`, `Fragment.ofText_quotedKey`: the text that
  is rendered;
* `Controller.renderText_default`: how it is rendered;
* `Service.name_of_namedDefinition`: the name that it shows;
* **`Context.render_default`**: the fragment of the default transformer.
-/

namespace ComposePods

open Mapping

/-! ## Texts between quotes -/

namespace Yaml

/-- A character that stands for itself between double quotes. -/
def isUnescaped (c : Char) : Bool := !isBreak c && !isBlank c && c != '"' && c != '\\'

variable {cs rest : List Char}

theorem readDoubleQuoted_unescaped {p : Position} {read : List Char}
    (h : ∀ c ∈ cs, isUnescaped c = true) (hp : p.column ≠ 0) :
    readDoubleQuoted .outside (cs ++ '"' :: rest) p .none read =
      some (read.reverse ++ cs, rest, p.right (cs.length + 1)) := by
  induction cs generalizing p read with
  | nil => simp [readDoubleQuoted, isBreak, isBlank, hp, unfold, Fold.text, Fold.none]
  | cons c cs ih =>
    rw [List.forall_mem_cons] at h
    have hstep : readDoubleQuoted .outside (c :: (cs ++ '"' :: rest)) p .none read =
        readDoubleQuoted .outside (cs ++ '"' :: rest) (p.right 1) .none (c :: read) := by
      have hc := h.1
      simp only [isUnescaped, Bool.and_eq_true, Bool.not_eq_true', bne_iff_ne] at hc
      obtain ⟨⟨⟨hbreak, hblank⟩, hquote⟩, hslash⟩ := hc
      simp [readDoubleQuoted, hbreak, hblank, hquote, hslash, hp, unfold, Fold.text, Fold.none]
    have hright : (p.right 1).right (cs.length + 1) = p.right ((c :: cs).length + 1) := by
      simp only [Position.right, List.length_cons, Position.mk.injEq, true_and]
      omega
    rw [List.cons_append, hstep, ih h.2 (by simp [Position.right]), hright, List.reverse_cons,
      List.append_assoc]
    rfl

theorem unifyBreaks_append (h : ∀ c ∈ cs, isUnescaped c = true) :
    unifyBreaks (cs ++ rest) = cs ++ unifyBreaks rest := by
  induction cs with
  | nil => rfl
  | cons c cs ih =>
    rw [List.forall_mem_cons] at h
    have hbreak : isBreak c = false := by
      have hc := h.1
      simp only [isUnescaped, Bool.and_eq_true, Bool.not_eq_true'] at hc
      exact hc.1.1.1
    simp only [isBreak, Bool.or_eq_false_iff, beq_eq_false_iff_ne] at hbreak
    obtain ⟨⟨⟨⟨-, hreturn⟩, hnext⟩, -⟩, -⟩ := hbreak
    rw [List.cons_append, unifyBreaks, ih h.2, if_neg (by simp [hreturn, hnext])]
    · rfl
    · rintro rest rfl
      exact absurd rfl hreturn

end Yaml

open Yaml

theorem Service.ordinary_of_isNameChar {c : Char} (h : isNameChar c = true) :
    isUnescaped c = true ∧ isAllowed c = true := by
  have hsmall : c.toNat < 128 := by
    simp only [isNameChar, Char.isAlphanum] at h
    delta Char.isAlpha Char.isUpper Char.isLower at h
    simp only [Char.isDigit, Bool.or_eq_true, Bool.and_eq_true, decide_eq_true_eq, beq_iff_eq,
      UInt32.le_iff_toNat_le] at h
    rcases h with (((((⟨-, h⟩ | ⟨-, h⟩) | ⟨-, h⟩) | rfl) | rfl) | rfl)
    · exact Nat.lt_of_le_of_lt h (by decide)
    · exact Nat.lt_of_le_of_lt h (by decide)
    · exact Nat.lt_of_le_of_lt h (by decide)
    · decide
    · decide
    · decide
  have htable : ∀ n < 128, isNameChar (.ofNat n) = true →
      isUnescaped (.ofNat n) = true ∧ isAllowed (.ofNat n) = true := by decide +kernel
  rw [← c.ofNat_toNat] at h ⊢
  exact htable c.toNat hsmall h

theorem Service.ordinary_of_isName {name : String} (h : isName name = true) :
    ∀ c ∈ name.toList, isUnescaped c = true ∧ isAllowed c = true := by
  intro c hc
  rw [isName, Bool.and_eq_true, List.all_eq_true] at h
  exact ordinary_of_isNameChar (h.2 c hc)

/-! ## A quoted key -/

namespace Scanner

variable {cs : List Char}

/-- The key of an empty mapping, between quotes. -/
def quotedKey (cs : List Char) : List Char := '"' :: (cs ++ ['"', ':', ' ', '\x7b', '\x7d'])

/-- Behind the quotes. -/
def afterQuotes (cs : List Char) : Scanner where
  rest := [':', ' ', '\x7b', '\x7d']
  position := Position.right ⟨0, 1⟩ (cs.length + 1)
  indent := -1
  indents := []
  keyAllowed := false
  key := some ⟨0, .start, false⟩
  outerKeys := []
  delivered := 0
  queue := [.scalar .quoted (.ofList cs)]

/-- Behind the colon, if the text between the quotes can be a key. -/
def afterColon (cs : List Char) : Scanner where
  rest := [' ', '\x7b', '\x7d']
  position := Position.right ⟨0, 1⟩ (cs.length + 2)
  indent := 0
  indents := [-1]
  keyAllowed := false
  key := none
  outerKeys := []
  delivered := 0
  queue := [.blockMapping, .key, .scalar .quoted (.ofList cs), .value]

theorem markerAhead_quote (cs : List Char) : markerAhead ('"' :: cs) = false := by
  rcases cs with _ | ⟨a, _ | ⟨b, rest⟩⟩
  · rfl
  · rfl
  · simp [markerAhead]

theorem fetch_start (h : ∀ c ∈ cs, isUnescaped c = true) :
    (start (quotedKey cs)).fetch = some (afterQuotes cs) := by
  change (if markerAhead (quotedKey cs) = true then _ else _) = _
  rw [quotedKey, markerAhead_quote, if_neg Bool.false_ne_true]
  change (readDoubleQuoted .outside (cs ++ ['"', ':', ' ', '\x7b', '\x7d']) ⟨0, 1⟩ .none [] >>=
    fun r => _) = _
  rw [readDoubleQuoted_unescaped h Nat.one_ne_zero]
  rfl

theorem dropStale_afterQuotes (cs : List Char) :
    (afterQuotes cs).dropStale =
      some (if cs.length + 2 ≤ KeyMark.reach then afterQuotes cs
        else { afterQuotes cs with key := none }) := by
  have hstale : KeyMark.isStale ⟨0, .start, false⟩ (afterQuotes cs).position =
      !decide (cs.length + 2 ≤ KeyMark.reach) := by
    rw [KeyMark.isStale, ← decide_not]
    simp only [afterQuotes, Position.right, Position.start, Nat.lt_irrefl, decide_false,
      Bool.false_or]
    congr 1
    rw [eq_iff_iff]
    omega
  change (freshen? (afterQuotes cs).position (some ⟨0, .start, false⟩) >>= fun key => _) = _
  rw [freshen?, hstale]
  by_cases hreach : cs.length + 2 ≤ KeyMark.reach
  · rw [decide_eq_true hreach, if_pos hreach]
    rfl
  · rw [decide_eq_false hreach, if_neg hreach]
    rfl

theorem fetch_afterQuotes (h : cs.length + 2 ≤ KeyMark.reach) :
    (afterQuotes cs).fetch = some (afterColon cs) := by
  change ((afterQuotes cs).dropStale >>= fun s => _) = _
  rw [dropStale_afterQuotes, if_pos h]
  rfl

/-- **The tokens of a quoted key** and its empty mapping; if it is too long, there is nothing behind
it. -/
theorem tokens_quotedKey (h : ∀ c ∈ cs, isUnescaped c = true) (size fuel : Nat) :
    (start (quotedKey cs)).tokens size (fuel + 8) =
      if cs.length + 2 ≤ KeyMark.reach then
        [.blockMapping, .key, .scalar .quoted (.ofList cs), .value, .openBrace,
          .closeBrace, .blockEnd, .streamEnd]
      else [.scalar .quoted (.ofList cs)] := by
  have hsettle : (start (quotedKey cs)).settle (size + 3) = ((afterQuotes cs).dropStale >>= fun s =>
      if s.isHeadOpen then s.fetch.bind (settle (size + 1)) else return s) := by
    change (fetch (start (quotedKey cs))).bind (settle (size + 2)) = _
    rw [fetch_start h]
    rfl
  rw [dropStale_afterQuotes] at hsettle
  split
  · rename_i hreach
    rw [if_pos hreach] at hsettle
    change _ = ((afterQuotes cs).fetch.bind (settle (size + 1))) at hsettle
    rw [fetch_afterQuotes hreach] at hsettle
    rw [tokens, hsettle]
    rfl
  · rename_i hlong
    rw [if_neg hlong] at hsettle
    rw [tokens, hsettle]
    rfl

end Scanner

section QuotedKey

variable {name : String}

theorem Token.ofText_quotedKey (h : Service.isName name = true) :
    Token.ofText ("\"" ++ name ++ "\": \x7b\x7d") =
      if name.length + 2 ≤ KeyMark.reach then
        [.blockMapping, .key, .scalar .quoted name, .value, .openBrace, .closeBrace,
          .blockEnd, .streamEnd]
      else [.scalar .quoted name] := by
  have hname := Service.ordinary_of_isName h
  have htext : ("\"" ++ name ++ "\": \x7b\x7d").toList = Scanner.quotedKey name.toList := by
    simp [Scanner.quotedKey]
  have hallowed : (Scanner.quotedKey name.toList).all isAllowed = true := by
    rw [List.all_eq_true]
    intro c hc
    rcases List.mem_cons.1 hc with rfl | hc
    · decide
    · rcases List.mem_append.1 hc with hc | hc
      · exact (hname c hc).2
      · exact List.all_eq_true.1 (by decide) c hc
  have hunify : unifyBreaks (Scanner.quotedKey name.toList) = Scanner.quotedKey name.toList := by
    change '"' :: unifyBreaks (name.toList ++ ['"', ':', ' ', '\x7b', '\x7d']) = _
    rw [unifyBreaks_append fun c hc => (hname c hc).1]
    rfl
  have htokens := Scanner.tokens_quotedKey (fun c hc => (hname c hc).1)
    (Scanner.quotedKey name.toList).length
    (4 * (Scanner.quotedKey name.toList).length)
  rw [String.ofList_toList, String.length_toList] at htokens
  simp only [ofText, htext, hallowed, hunify, if_true]
  exact htokens

/-- **The fragment of a quoted key** is an empty mapping under the name, if the name is not too
long. -/
theorem Fragment.ofText_quotedKey (h : Service.isName name = true) :
    Fragment.ofText ("\"" ++ name ++ "\": \x7b\x7d") =
      if name.length + 2 ≤ KeyMark.reach then .ok (rooted (.string name) [])
        else .error .malformed := by
  have hblank : ("\"" ++ name ++ "\": \x7b\x7d").toList.all Text.isBlank = false := by
    simp [Text.isBlank]
  rw [ofText, hblank, if_neg Bool.false_ne_true, Yaml.read, Document.ofText,
    Token.ofText_quotedKey h]
  by_cases hreach : name.length + 2 ≤ KeyMark.reach
  · rw [if_pos hreach, if_pos hreach]
    rfl
  · rw [if_neg hreach, if_neg hreach]
    rfl

end QuotedKey

/-! ## The name in the data -/

namespace Mapping

variable {k l v : Value} {m own : Mapping}

theorem overlay_cons (h : ∀ e ∈ own, k.same e.1 = false) :
    overlay ((k, v) :: m) own = (k, v) :: overlay m own := by
  induction own generalizing m with
  | nil => rfl
  | cons e own ih =>
    rw [List.forall_mem_cons] at h
    have hinsert : insert ((k, v) :: m) e.1 e.2 = (k, v) :: insert m e.1 e.2 := by
      rw [insert, h.1, if_neg Bool.false_ne_true]
    change overlay (insert ((k, v) :: m) e.1 e.2) own = (k, v) :: overlay (insert m e.1 e.2) own
    rw [hinsert, ih h.2]

theorem mem_keys_overlay (h : k ∈ keys (overlay m own)) : k ∈ keys m ∨ k ∈ keys own := by
  induction own generalizing m with
  | nil => exact .inl h
  | cons e own ih =>
    rcases ih (m := insert m e.1 e.2) h with h | h
    · rcases mem_keys_insert h with h | rfl
      · exact .inl h
      · exact .inr List.mem_cons_self
    · exact .inr (List.mem_cons_of_mem _ h)

end Mapping

namespace Datum

theorem keyText?_of_entriesOf? {es : Mapping} {ds : List (String × Datum)}
    (h : entriesOf? es = some ds) : ∀ x ∈ ds, ∃ k ∈ keys es, keyText? k = some x.1 := by
  induction es generalizing ds with
  | nil =>
    cases h
    exact nofun
  | cons e es ih =>
    obtain ⟨k, v⟩ := e
    simp only [entriesOf?, Option.bind_eq_bind, Option.bind_eq_some_iff] at h
    obtain ⟨t, ht, d, -, ds, hds, heq⟩ := h
    cases heq
    rw [List.forall_mem_cons]
    refine ⟨⟨k, List.mem_cons_self, ht⟩, fun x hx => ?_⟩
    obtain ⟨l, hl, htext⟩ := ih hds x hx
    exact ⟨l, List.mem_cons_of_mem _ hl, htext⟩

theorem lookup_insertEntries {key : String} {ds es : List (String × Datum)}
    (h : ∀ x ∈ ds, x.1 ≠ key) :
    (ds.foldl (fun es e => Dict.insertEntry e.1 e.2 es) es).lookup key = es.lookup key := by
  induction ds generalizing es with
  | nil => rfl
  | cons x ds ih =>
    rw [List.forall_mem_cons] at h
    rw [List.foldl_cons, ih h.2, Dict.lookup_insertEntry, if_neg h.1.symm]

end Datum

namespace Service

variable {s : Service}

theorem keys_definition (hs : s.Valid) {k : Value} (hk : k ∈ keys s.definition) :
    ∃ t, k = .string t ∧ t ≠ "name" := by
  rw [definition, keys, List.map_append, List.mem_append] at hk
  rcases hk with hk | hk
  · obtain ⟨e, he, rfl⟩ := List.mem_map.1 hk
    obtain ⟨p, -, hp⟩ := List.mem_filterMap.1 he
    obtain ⟨w, -, rfl⟩ := Option.map_eq_some_iff.1 hp
    exact ⟨p.name, rfl, by cases p <;> decide⟩
  · obtain ⟨e, he, rfl⟩ := List.mem_map.1 hk
    obtain ⟨x, hx, rfl⟩ := List.mem_map.1 he
    refine ⟨x.1, rfl, ?_⟩
    rintro hname
    have hextension := List.filter_eq_nil_iff.1 hs x.1 (List.mem_map_of_mem hx)
    rw [hname] at hextension
    exact hextension (by decide)

/-- **Templates see a service under its own name.** -/
theorem name_of_namedDefinition (hs : s.Valid) {d : Datum}
    (h : Datum.ofValue? (.mapping s.namedDefinition) = some d) :
    d.at? "name" = some (.text s.name) := by
  have hnamed : s.namedDefinition =
      (.string "name", .string s.name) :: overlay [] s.definition := by
    refine overlay_cons fun e he => ?_
    obtain ⟨t, ht, hne⟩ := keys_definition hs (List.mem_map_of_mem he)
    rw [ht, Bool.eq_false_iff, ne_eq, Value.same_string_iff]
    rintro ⟨⟩
    exact hne rfl
  rw [hnamed] at h
  simp only [Datum.ofValue?, Datum.entriesOf?, Datum.keyText?, Option.map_eq_some_iff,
    Option.bind_eq_bind, Option.bind_some, Option.bind_eq_some_iff] at h
  obtain ⟨_, ⟨ds, hds, heq⟩, rfl⟩ := h
  cases heq
  have hother : ∀ x ∈ ds, x.1 ≠ "name" := by
    intro x hx
    obtain ⟨k, hk, htext⟩ := Datum.keyText?_of_entriesOf? hds x hx
    obtain ⟨t, rfl, hne⟩ := keys_definition hs ((mem_keys_overlay hk).resolve_left List.not_mem_nil)
    exact (Option.some.inj htext) ▸ hne
  have hsteps : Route.steps "name" = ["name"] := by decide +kernel
  rw [Datum.at?, hsteps]
  change (List.foldl (fun es e => Dict.insertEntry e.1 e.2 es)
    [("name", Datum.text s.name)] ds).lookup
    "name" >>= (fun d => some d) = _
  rw [Datum.lookup_insertEntries hother]
  rfl

end Service

/-! ## The template -/

namespace Controller

open Markup

/-- The text of a node that is one. -/
def textOf? : Markup.Node → Option String
  | .text s => some s
  | _ => none

/-- The path of a node that puts out one. -/
def pathOf? : Markup.Node → Option String
  | .output e => e.path?
  | _ => none

theorem eq_of_textOf? {n : Markup.Node} {s : String} (h : textOf? n = some s) : n = .text s := by
  cases n with
  | text => exact congrArg Markup.Node.text (Option.some.inj h)
  | _ => cases h

theorem eq_of_pathOf? {n : Markup.Node} {p : String} (h : pathOf? n = some p) :
    n = .output (.path p) := by
  cases n with
  | output e =>
    cases e with
    | path => exact congrArg (fun p => Markup.Node.output (.path p)) (Option.some.inj h)
    | _ => cases h
  | _ => cases h

theorem ofText?_default :
    Body.ofText? defaultTransformer.body =
      some ⟨[.text "\"", .output (.path "service.name"), .text "\": \x7b\x7d"], []⟩ := by
  have hcheck : (Body.ofText? defaultTransformer.body).map (fun b =>
      (b.nodes.map textOf?, b.nodes.map pathOf?, b.snippets.isEmpty)) =
      some ([some "\"", none, some "\": \x7b\x7d"], [none, some "service.name", none], true) := by
    decide +kernel
  obtain ⟨⟨nodes, snippets⟩, hb, hcheck⟩ := Option.map_eq_some_iff.1 hcheck
  obtain ⟨htexts, hrest⟩ := Prod.mk.inj hcheck
  obtain ⟨hpaths, hsnippets⟩ := Prod.mk.inj hrest
  simp only [List.map_eq_cons_iff, List.map_eq_nil_iff] at htexts
  obtain ⟨before, _, rfl, hbefore, output, _, rfl, -, after, _, rfl, hafter, rfl⟩ := htexts
  have houtput : pathOf? output = some "service.name" := (List.cons.inj (List.cons.inj hpaths).2).1
  obtain rfl : snippets = [] := List.isEmpty_iff.1 hsnippets
  rw [hb, eq_of_textOf? hbefore, eq_of_pathOf? houtput, eq_of_textOf? hafter]

/-- **What the default transformer renders** is the name of the service as a quoted key. -/
theorem renderText_default [Machine] {data : List (String × Datum)} {d : Datum} {name : String}
    (hd : data.lookup "service" = some d) (hname : d.at? "name" = some (.text name)) :
    Body.renderText defaultTransformer.body data = .ok ("\"" ++ name ++ "\": \x7b\x7d") := by
  let scope : Scope := ⟨[⟨[], none⟩], none, data⟩
  have hfind : scope.find? "service.name" = some (.text name) := by
    have hroute : splitRoute "service.name" = ("service", some "name") := by decide +kernel
    have hroot : String.ofList (Route.unescapeTilde (Route.unescape "service".toList)) =
        "service" := by
      decide +kernel
    have hframes : Scope.findInFrames? "service.name" scope.frames = none := by
      simp [scope, Scope.findInFrames?, Frame.find?, hroute, partOf]
    rw [Scope.find?, hframes, hroute]
    simp only [hroot, partOf, scope, hd, hname]
    rfl
  have hresolve : scope.resolve "service.name" = .ok (.text name) := by
    have hplain : "service.name" ≠ Scope.overview := by decide
    have hindex : "service.name".toList.contains '[' = false := by decide
    rw [Scope.resolve, if_neg hplain, Scope.resolveFrom, hindex, String.ofList_toList, hfind]
    rfl
  have hroom : 0 < Machine.room defaultTransformer.body data :=
    Machine.room_pos data ofText?_default (by decide)
  obtain ⟨levels, hlevels⟩ := Nat.exists_eq_add_one.2 hroom
  rw [Body.renderText, hlevels, ofText?_default]
  simp [Body.render, Node.renderAll, Node.render, Surroundings.value, Surroundings.resolve,
    Except.mapError, Datum.shown, scope, hresolve, String.append_assoc]

end Controller

variable [Markup.Machine]

theorem Context.render_default_eq {c : Context} (hvalid : c.service.Valid)
    (hdata : (c.data? Controller.defaultTransformer).isSome = true) :
    c.render .transformer Controller.defaultTransformer =
      report (c.fragmentOf .transformer Controller.defaultTransformer
        ("\"" ++ c.service.name ++ "\": \x7b\x7d")) := by
  obtain ⟨data, hdata⟩ := Option.isSome_iff_exists.1 hdata
  have hservice : ∃ d, data.lookup "service" = some d ∧
      d.at? "name" = some (.text c.service.name) := by
    have hfields := hdata
    simp only [data?, Option.bind_eq_bind, Option.bind_eq_some_iff] at hfields
    obtain ⟨d, hd, _, -, _, -, heq⟩ := hfields
    cases heq
    exact ⟨d, rfl, Service.name_of_namedDefinition hvalid hd⟩
  obtain ⟨d, hd, hname⟩ := hservice
  have htext : c.renderText .transformer Controller.defaultTransformer data =
      .ok ("\"" ++ c.service.name ++ "\": \x7b\x7d") := by
    rw [renderText, Controller.renderText_default hd hname]
    rfl
  rw [render, hdata]
  change (c.renderText .transformer Controller.defaultTransformer data >>= fun text => _) = _
  rw [htext]
  rfl

/-- **The fragment of the default transformer** has one root key, the name of the service, and
nothing below it; a name that is too long to be a key is refused. -/
theorem Context.render_default {c : Context} {data : List (String × Datum)}
    (hname : Service.isName c.service.name = true) (hvalid : c.service.Valid)
    (hdata : c.data? Controller.defaultTransformer = some data) :
    c.render .transformer Controller.defaultTransformer =
      if c.service.name.length + 2 ≤ KeyMark.reach then .ok (rooted (.string c.service.name) [])
      else .error (.error (.malformedFragment c.service.name .transformer
        Controller.defaultTransformer.name .malformed)) := by
  rw [render_default_eq hvalid (by rw [hdata]; rfl), fragmentOf, Fragment.ofText_quotedKey hname]
  split <;> rfl

end ComposePods

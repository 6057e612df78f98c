import ComposePods.Pod.Fragment.Read
import ComposePods.Proofs.Agreement
import ComposePods.Proofs.Definitions
import ComposePods.Proofs.Projects
import ComposePods.Proofs.Split

/-!
# A service of a manifest and of a fragment

The body of a service may stand in a manifest, where it is read straight from the text, and in a
rendered fragment, which is first taken as a value. Both define the same service, up to its host
paths, exactly if every property of the body says the same to both readers. A number where a text is
wanted does not: the manifest takes its text, the fragment is refused.

* **`Service.read_of_alike`**, **`Service.alike_of_read`**: a service read of a node and of its
  value;
* `Service.alike`: the body says the same to both readers;
* `Definitions.ofEntry_value_iff`: the service that a body defines as a value;
* `Node.under`, `Manifest.Holds`, `Fragment.Holds`: a body under a name in either text;
* `Project.service?_of_holds`, `Fragment.ofText_of_holds`: what either text holds;
* **`Project.fragment_defines_iff`**: the fragment defines the service of the manifest exactly if
  the body says the same to both.
-/

namespace ComposePods

open Source

/-! ## Services -/

namespace Service

theorem onlyText_name (p : Property) : Node.OnlyText p.name := by
  have hall : ∀ q ∈ Property.all, Node.OnlyText q.name := by decide +kernel
  exact hall p (Property.mem_all p)

variable {n : Node} {v : Value} {s : Service}

theorem onlyText_of_mem {es : List (Node × Node)} {state final : Draft}
    (h : es.foldlM readEntry state = .ok final)
    (hs : ∀ name ∈ (Dict.ofList final.further).keys, isExtension name = true) :
    ∀ e ∈ es, ∃ name, e.1.readText = .ok name ∧ Node.OnlyText name := by
  intro e he
  obtain ⟨name, hname, hentry⟩ := of_mem_entries h e he
  refine ⟨name, hname, ?_⟩
  rcases hentry with ⟨p, hp, -⟩ | ⟨-, w, hw⟩
  · exact name_of_ofName? hp ▸ onlyText_name p
  · exact Node.onlyText_of_x (hs name (Dict.mem_keys_ofList.2 (List.mem_map_of_mem hw)))

/-- The node of a property and its value say the same. An extension is a value anyway. -/
def alikeProperty (name : String) (n : Node) : Bool :=
  match Property.ofName? name with
  | some p => p.kind.alike n
  | none => true

theorem readEntry_value {state next : Draft} {y : Node × Node} {e : Value × Value} {name : String}
    (hname : y.1.readText = .ok name) (honly : Node.OnlyText name)
    (halike : alikeProperty name y.2 = true) (hkey : y.1.value = .ok e.1)
    (hval : y.2.value = .ok e.2) (h : readEntry state y = .ok next) :
    readEntry state e = .ok next := by
  obtain ⟨name', hname', hentry⟩ := readEntry_ok_iff.1 h
  obtain rfl : name = name' := Except.ok.inj (hname.symm.trans hname')
  refine readEntry_ok_iff.2 ⟨name, Node.readName_of_onlyText honly hname hkey, ?_⟩
  rcases hentry with ⟨p, c, hp, hmet, hc, rfl⟩ | ⟨w, hp, hw, rfl⟩
  · rw [alikeProperty, hp] at halike
    exact .inl ⟨p, c, hp, hmet, (Kind.read_value_iff hc hval).2 halike, rfl⟩
  · obtain ⟨rfl, hsame⟩ := untaggedValue_value hw hval
    exact .inr ⟨e.2, hp, hsame, rfl⟩

theorem exists_draft (h : Service.read n = .ok s) (hs : s.unsupported = []) :
    ∃ es final, n.readEntries "struct ServiceConfig" = .ok es ∧
      es.foldlM readEntry ⟨empty "", [], []⟩ = .ok final ∧
      (∀ e ∈ final.further, e.2.keysDistinct = true) ∧
      s = { final.service with extensions := .ofList final.further } ∧
      ∀ e ∈ es, ∃ name, e.1.readText = .ok name ∧ Node.OnlyText name := by
  obtain ⟨es, final, hes, hfinal, hdistinct, rfl⟩ := read_ok_iff.1 h
  refine ⟨es, final, hes, hfinal, hdistinct, rfl, onlyText_of_mem hfinal ?_⟩
  simpa [unsupported, List.filter_eq_nil_iff] using hs

/-- **The same service is read of the value** if all properties of the node say the same. -/
theorem read_of_alike (h : Service.read n = .ok s) (hs : s.unsupported = []) (hv : n.value = .ok v)
    (halike : n.alikeFields alikeProperty = true) : Service.read v = .ok s := by
  obtain ⟨es, final, hes, hfinal, hdistinct, rfl, honly⟩ := exists_draft h hs
  rw [Node.alikeFields, Bool.and_eq_true, Node.stands_entries_iff "struct ServiceConfig" hv,
    Node.entryList_of_readEntries hes, List.all_eq_true] at halike
  obtain ⟨⟨m, hm⟩, hfields⟩ := halike
  refine read_ok_iff.2 ⟨m, final, hm, ?_, hdistinct, rfl⟩
  have hpairs := (List.forall₂_and_left _ _).2
    ⟨hfields, (List.forall₂_and_left _ _).2 ⟨honly, Node.forall₂_of_readEntries hes hv hm⟩⟩
  refine foldlM_of_forall₂ hpairs ?_ hfinal
  rintro state y e next ⟨halike, ⟨name, hname, honly⟩, hkey, hval⟩ hnext
  rw [Node.label_of_readText hname] at halike
  exact readEntry_value hname honly halike hkey hval hnext

theorem alike_of_read_property {p : Property} {c c' : p.Carrier} {directory : String}
    (h : p.kind.read n = .ok c) (hv : n.value = .ok v) (h' : p.kind.read v = .ok c')
    (hsame : p.locate directory c' = p.locate directory c) : p.kind.alike n = true := by
  cases p with
  | volumes =>
    obtain ⟨ws, hws, -⟩ := bind_ok_iff.1 h'
    exact (Node.stands_items_iff hv).2 ⟨ws, hws⟩
  | build | envFile => rfl
  | _ =>
    obtain rfl : c' = c := hsame
    exact (Kind.read_value_iff h hv).1 h'

/-- **All properties of the node say the same** if the same service is read of the value, host paths
resolved. -/
theorem alike_of_read {t : Service} {directory : String} (h : Service.read n = .ok s)
    (hs : s.unsupported = []) (hv : n.value = .ok v) (h' : Service.read v = .ok t)
    (hsame : (t.locate directory).value = (s.locate directory).value) :
    n.alikeFields alikeProperty = true := by
  obtain ⟨es, final, hes, hfinal, -, rfl, honly⟩ := exists_draft h hs
  obtain ⟨m, final', hm, hfinal', -, rfl⟩ := read_ok_iff.1 h'
  rw [Node.alikeFields, Bool.and_eq_true, Node.stands_entries_iff "struct ServiceConfig" hv,
    Node.entryList_of_readEntries hes, List.all_eq_true]
  refine ⟨⟨m, hm⟩, fun e he => ?_⟩
  obtain ⟨name, hname, hentry⟩ := of_mem_entries hfinal e he
  obtain ⟨_, hlabel, honly⟩ := honly e he
  obtain rfl := Except.ok.inj (hname.symm.trans hlabel)
  rw [Node.label_of_readText hname, alikeProperty]
  rcases hentry with ⟨p, hp, hread⟩ | ⟨hp, -⟩
  · -- The entry of the value has the same name, and its property is that of the service that is
    -- read there.
    obtain ⟨e', he', hkey, hval⟩ :=
      exists_right_of_forall₂ (Node.forall₂_of_readEntries hes hv hm) e he
    obtain ⟨name', hname', hentry'⟩ := of_mem_entries hfinal' e' he'
    have hsource : Source.name e'.1 = .ok name := Node.readName_of_onlyText honly hname hkey
    obtain rfl : name = name' := Except.ok.inj (hsource.symm.trans hname')
    rcases hentry' with ⟨q, hq, hread'⟩ | ⟨hq, -⟩
    · obtain rfl : p = q := Option.some.inj (hp.symm.trans hq)
      have hlocated := congrFun hsame p
      rw [value_locate, value_locate] at hlocated
      rw [hp]
      exact alike_of_read_property hread hval hread' hlocated
    · cases hp.symm.trans hq
  · rw [hp]

/-- A body says the same to both readers: nothing is set, or it is a mapping without a tag whose
properties all say the same. -/
def alike (b : Node) : Bool :=
  b.unset || match b.value with
    | .ok (.mapping _) => b.alikeFields alikeProperty
    | _ => false

theorem exists_value_of_alike {b : Node} (h : alike b = true) : ∃ v, b.value = .ok v := by
  rcases hv : b.value with e | v
  · rw [alike, hv, Bool.or_false, Node.unset] at h
    split at h
    · rename_i hunset
      rw [h] at hunset
      rw [Node.value_of_unset hunset] at hv
      cases hv
    · cases h
  · exact ⟨v, rfl⟩

end Service

/-! ## Definitions -/

namespace Definitions

variable {directory service name : String} {layer : Layer} {key v : Value} {b : Node}
    {o : Option Service}

/-- **The value of a body defines the service** that is read of the body exactly if the body says
the same to both readers. -/
theorem ofEntry_value_iff (ho : Source.optional Service.read b = .ok o) (hv : b.value = .ok v)
    (hkey : key.scalarText? = .ok name) (hname : Service.isName name = true)
    (hs : (o.getD (Service.empty "")).unsupported = []) :
    ofEntry directory service layer (key, v) =
        .ok (({ o.getD (Service.empty "") with name } : Service).locate directory) ↔
      Service.alike b = true := by
  obtain ⟨unset, hb, ho⟩ := bind_ok_iff.1 ho
  have hb : b.isUnset = .ok unset := hb
  rw [ofEntry_ok_iff, Service.alike, Node.unset_of_isUnset hb, hv]
  cases unset with
  | true =>
    obtain rfl : none = o := pure_ok_iff.1 ho
    rw [Node.value_of_unset hb] at hv
    cases hv
    exact iff_of_true ⟨name, [], Service.empty "", hkey, hname, .inr ⟨rfl, rfl⟩, rfl, rfl, rfl⟩ rfl
  | false =>
    obtain ⟨s, hread, rfl⟩ := map_ok_iff.1 ho
    have hs : s.unsupported = [] := hs
    have hset : v ≠ .null := Kind.ne_null_of_entries hread hb hv
    rw [Bool.false_or]
    constructor
    · rintro ⟨name', body, t, hkey', -, rfl | ⟨hnull, -⟩, ht, -, hsame⟩
      · have hlocated : (t.locate directory).value = (s.locate directory).value := by
          funext p
          have hvalue := congrFun (congrArg Service.value hsame) p
          rw [Service.value_locate, Service.value_locate] at hvalue ⊢
          exact hvalue.symm
        exact Service.alike_of_read hread hs hv ht hlocated
      · exact absurd hnull hset
    · intro halike
      split at halike
      · rename_i body hbody
        obtain rfl := Except.ok.inj hbody
        exact ⟨name, body, s, hkey, hname, .inl rfl,
          Service.read_of_alike hread hs hv halike, hs, rfl⟩
      · cases halike

theorem ofTree_singleton_ok_iff {e : Value × Value} {s : Service} :
    ofTree directory service layer [e] = .ok [s] ↔ ofEntry directory service layer e = .ok s := by
  have hsorted (t : Service) : byName [t] = [t] := List.mergeSort_singleton t
  rw [ofTree_ok_iff]
  constructor
  · rintro ⟨ts, hts, hs⟩
    obtain ⟨t, rest, ht, hrest, rfl⟩ := List.forall₂_cons_left_iff.1 hts
    obtain rfl := List.forall₂_nil_left_iff.1 hrest
    rw [hsorted] at hs
    obtain rfl := List.singleton_inj.1 hs
    exact ht
  · exact fun hs => ⟨[s], .cons hs .nil, (hsorted s).symm⟩

end Definitions

/-! ## Texts -/

/-- What stands under a name in a mapping. -/
def Node.under (n : Node) (name : String) : List Node :=
  (n.entryList.filter (·.1.label == name)).map Prod.snd

/-- In the text of a manifest the node is the body of a service: the last one under the name. -/
def Manifest.Holds (text name : String) (body : Node) : Prop :=
  ∃ services ∈ (Document.ofText text).root.under "services",
    (services.under name).getLast? = some body

/-- In the text of a fragment the node is the only definition, under a key whose text is the
name. -/
structure Fragment.Holds (text name : String) (body : Node) : Prop where
  written : text.toList.all Text.isBlank = false
  sound : (Document.ofText text).sound = true
  root : ∃ key k, (Document.ofText text).root = .mapping none [(key, body)] ∧ key.value = .ok k ∧
    k.scalarText? = .ok name

namespace Project

variable {p : Project} {name : String} {b : Node}

theorem get?_of_readServices {es : List (Node × Node)} {d final : Dict (Option Service)}
    (h : es.foldlM readServiceEntry d = .ok final) (name : String) :
    (((es.filter (·.1.label == name)).map Prod.snd).getLast? = none →
      final.get? name = d.get? name) ∧
      ∀ b, ((es.filter (·.1.label == name)).map Prod.snd).getLast? = some b →
        ∃ o, Source.optional Service.read b = .ok o ∧ final.get? name = some o := by
  induction es generalizing d with
  | nil =>
    obtain rfl : d = final := pure_ok_iff.1 h
    exact ⟨fun _ => rfl, by simp⟩
  | cons e es ih =>
    rw [List.foldlM_cons, bind_ok_iff] at h
    obtain ⟨next, hnext, h⟩ := h
    simp only [readServiceEntry, bind_ok_iff, pure_ok_iff] at hnext
    obtain ⟨name', hname', o, ho, rfl⟩ := hnext
    obtain ⟨hnone, hsome⟩ := ih h
    have hlabel : e.1.label = name' := Node.label_of_readText hname'
    by_cases hcase : name' = name
    · subst hcase
      rw [List.filter_cons_of_pos (by simpa using hlabel), List.map_cons, List.getLast?_cons]
      refine ⟨by simp, fun b hb => ?_⟩
      rcases hlast : ((es.filter (·.1.label == name')).map Prod.snd).getLast? with _ | b'
      · rw [hlast] at hb
        obtain rfl : e.2 = b := Option.some.inj hb
        exact ⟨o, ho, by rw [hnone hlast, Dict.get?_insert, if_pos rfl]⟩
      · rw [hlast] at hb
        obtain rfl : b' = b := Option.some.inj hb
        exact hsome b' hlast
    · rw [List.filter_cons_of_neg (by simpa [hlabel] using hcase)]
      refine ⟨fun hlast => ?_, hsome⟩
      rw [hnone hlast, Dict.get?_insert, if_neg (Ne.symm hcase)]

theorem services_of_readEntry {d next : Draft} {e : Node × Node}
    (h : Project.readEntry d e = .ok next) :
    (e.1.label = "services" ∧ "services" ∉ d.met ∧ "services" ∈ next.met ∧
        readServices e.2 = .ok next.services) ∨
      e.1.label ≠ "services" ∧ next.services = d.services ∧
      ("services" ∈ d.met → "services" ∈ next.met) := by
  simp only [Project.readEntry, bind_ok_iff] at h
  obtain ⟨name, hname, h⟩ := h
  rw [Node.label_of_readText hname]
  split at h
  · simp at h
  · rename_i hmet
    split at h <;> simp only [bind_ok_iff, pure_ok_iff] at h <;> obtain ⟨o, ho, rfl⟩ := h
    case h_2 => exact .inl ⟨rfl, hmet, List.mem_cons_self, ho⟩
    case h_7 hservices _ _ _ _ => exact .inr ⟨hservices, rfl, id⟩
    all_goals exact .inr ⟨by decide, rfl, List.mem_cons_of_mem _⟩

/-- What is read of the services of a manifest stays, whatever other entries are read. -/
theorem services_of_foldlM {es : List (Node × Node)} {d final : Draft} {e : Node × Node}
    (h : es.foldlM readEntry d = .ok final) (he : e ∈ es) (hlabel : e.1.label = "services") :
    readServices e.2 = .ok final.services := by
  obtain ⟨a, b, after, hstep, hafter⟩ := exists_step_of_foldlM he h
  rcases services_of_readEntry hstep with ⟨-, -, hmet, hread⟩ | ⟨hne, -⟩
  · have hkept : "services" ∈ final.met ∧ readServices e.2 = .ok final.services := by
      refine foldlM_preserves
        (P := fun d : Draft => "services" ∈ d.met ∧ readServices e.2 = .ok d.services) ?_
        ⟨hmet, hread⟩ hafter
      rintro d e' - next ⟨hmet, hread⟩ hnext
      rcases services_of_readEntry hnext with ⟨-, hnew, -⟩ | ⟨-, hsame, hkeep⟩
      · exact absurd hmet hnew
      · exact ⟨hkeep hmet, hsame ▸ hread⟩
    exact hkept.2
  · exact absurd hlabel hne

/-- **The service of a manifest** is that of the body, which is read straight from the text. -/
theorem service?_of_holds {text : String} (hp : ofText text = .ok p)
    (h : Manifest.Holds text name b) :
    ∃ o, Source.optional Service.read b = .ok o ∧ (o.getD (Service.empty "")).unsupported = [] ∧
      p.service? name = some { o.getD (Service.empty "") with name } := by
  obtain ⟨services, hservices, hlast⟩ := h
  obtain ⟨hread, -⟩ := Document.read_ok_iff.1 hp
  have hlisted := listed_of_read hread
  obtain ⟨es, d, ss, hes, hd, -, -, hnamed, rfl⟩ := read_ok_iff.1 hread
  obtain ⟨e, he, rfl⟩ := List.mem_map.1 hservices
  rw [List.mem_filter, Node.entryList_of_readEntries hes, beq_iff_eq] at he
  have hdict := services_of_foldlM hd he.1 he.2
  rw [readServices, bind_ok_iff] at hdict
  obtain ⟨bodies, hbodies, hdict⟩ := hdict
  rw [Node.under, Node.entryList_of_readEntries hbodies] at hlast
  obtain ⟨o, ho, hget⟩ := (get?_of_readServices hdict name).2 b hlast
  obtain ⟨s, hs, hentry⟩ := exists_right_of_forall₂ hnamed (name, o) (Dict.mem_entries_iff.2 hget)
  obtain ⟨rfl, hunsupported⟩ := named_ok_iff.1 hentry
  obtain ⟨i, hi⟩ := List.mem_iff_getElem?.1 hs
  exact ⟨o, ho, hunsupported, hlisted.service?_eq hi⟩

end Project

/-! ## The same service -/

namespace Fragment

variable {text name : String} {b : Node}

/-- **The fragment of a text with one body** has the value of the body, if there is one. -/
theorem ofText_of_holds (h : Fragment.Holds text name b) :
    ∃ k, k.scalarText? = .ok name ∧
      ∀ tree, Fragment.ofText text = .ok tree ↔ ∃ v, b.value = .ok v ∧ tree = [(k, v)] := by
  obtain ⟨key, k, hroot, hk, hname⟩ := h.root
  refine ⟨k, hname, fun tree => ?_⟩
  have hread (w : Value) : Yaml.read text = .ok w ↔
      ∃ v, b.value = .ok v ∧ w = .mapping [(k, v)] := by
    have hvalue : (Node.mapping none [(key, b)]).value =
        b.value >>= fun v => .ok (.mapping [(k, v)]) := by
      rw [Node.value, Node.entryValues, hk]
      cases b.value <;> rfl
    rw [Yaml.read, Document.read_ok_iff, hroot, hvalue, bind_ok_iff]
    simp [h.sound, @eq_comm _ w]
  rw [Fragment.ofText, h.written, if_neg Bool.false_ne_true]
  rcases hv : b.value with e | v
  · rcases hyaml : Yaml.read text with e' | w
    · simp
    · obtain ⟨v, hv', -⟩ := (hread w).1 hyaml
      rw [hv] at hv'
      cases hv'
  · rw [(hread _).2 ⟨v, hv, rfl⟩]
    simp [eq_comm]

end Fragment

/-- **The fragment defines the service of the manifest** that has the same body under the same name,
its host paths resolved, exactly if the body says the same to both readers. -/
theorem Project.fragment_defines_iff {p : Project} {manifest fragment name : String} {b : Node}
    (hp : ofText manifest = .ok p) (hmanifest : Manifest.Holds manifest name b)
    (hfragment : Fragment.Holds fragment name b) (hname : Service.isName name = true)
    (directory service : String) (layer : Layer) :
    ∃ s, p.service? name = some s ∧
      ((∃ tree, Fragment.ofText fragment = .ok tree ∧
          Definitions.ofTree directory service layer tree = .ok [s.locate directory]) ↔
        Service.alike b = true) := by
  obtain ⟨o, ho, hunsupported, hs⟩ := service?_of_holds hp hmanifest
  obtain ⟨k, hk, htree⟩ := Fragment.ofText_of_holds hfragment
  refine ⟨_, hs, ?_⟩
  constructor
  · rintro ⟨tree, hread, hdefines⟩
    obtain ⟨v, hv, rfl⟩ := (htree tree).1 hread
    exact (Definitions.ofEntry_value_iff ho hv hk hname hunsupported).1
      (Definitions.ofTree_singleton_ok_iff.1 hdefines)
  · intro halike
    obtain ⟨v, hv⟩ := Service.exists_value_of_alike halike
    exact ⟨[(k, v)], (htree _).2 ⟨v, hv, rfl⟩, Definitions.ofTree_singleton_ok_iff.2
      ((Definitions.ofEntry_value_iff ho hv hk hname hunsupported).2 halike)⟩

/-- A service with an image, from a manifest and from a fragment. -/
theorem Project.fragment_defines_iff_log :
    let manifest := "services:\n  log:\n    image: a\n"
    let fragment := "log:\n  image: a\n"
    let body : Node := .mapping none [(.scalar none .plain "image", .scalar none .plain "a")]
    Manifest.Holds manifest "log" body ∧ Fragment.Holds fragment "log" body ∧
      ∃ p s, ofText manifest = .ok p ∧ p.service? "log" = some s ∧
      ∃ tree, Fragment.ofText fragment = .ok tree ∧
        Definitions.ofTree "/work" "web" .component tree = .ok [s.locate "/work"] := by
  intro manifest fragment body
  obtain ⟨p, hp⟩ : ∃ p, ofText manifest = .ok p := exists_ok_of_isOk (by decide +kernel)
  have hmanifest : Manifest.Holds manifest "log" body := by
    unfold Manifest.Holds
    decide +kernel
  have hfragment : Fragment.Holds fragment "log" body :=
    ⟨by decide +kernel, by decide +kernel, .scalar none .plain "log", .string "log",
      by decide +kernel, toOption_some_iff.1 (by decide +kernel), rfl⟩
  obtain ⟨s, hs, hdefines⟩ :=
    fragment_defines_iff hp hmanifest hfragment (by decide +kernel) "/work" "web" .component
  exact ⟨hmanifest, hfragment, p, s, hp, hs, hdefines.2 (by decide +kernel)⟩

/-- **A number where a text is wanted** is taken for its text in a manifest and refused in a
fragment. -/
theorem Project.fragment_refused :
    let manifest := "services:\n  log:\n    user: 1000\n"
    let fragment := "log:\n  user: 1000\n"
    let body : Node := .mapping none [(.scalar none .plain "user", .scalar none .plain "1000")]
    let refusal : TypeError := .wrongShape (.integer 1000) "a string"
    Manifest.Holds manifest "log" body ∧ Fragment.Holds fragment "log" body ∧
      (∃ p s, ofText manifest = .ok p ∧ p.service? "log" = some s ∧
        s.definition = [(.string "user", .string "1000")]) ∧
      ∃ tree, Fragment.ofText fragment = .ok tree ∧
        Definitions.ofTree "/work" "web" .component tree =
        .error (.schema "web" .component (.typing "log" refusal)) := by
  intro manifest fragment body refusal
  refine ⟨?_, ⟨by decide +kernel, by decide +kernel, .scalar none .plain "log", .string "log",
    by decide +kernel, toOption_some_iff.1 (by decide +kernel), rfl⟩, ?_, ?_⟩
  · unfold Manifest.Holds
    decide +kernel
  · have hrun : ((ofText manifest).toOption.bind fun p => p.service? "log").any
        (fun s => s.definition = [(.string "user", .string "1000")]) = true := by decide +kernel
    obtain ⟨s, hs, huser⟩ := (Option.any_eq_true _ _).1 hrun
    obtain ⟨p, hp, hs⟩ := Option.bind_eq_some_iff.1 hs
    exact ⟨p, s, toOption_some_iff.1 hp, hs, of_decide_eq_true huser⟩
  · exact ⟨[(.string "log", .mapping [(.string "user", .ofNat 1000)])],
      toOption_some_iff.1 (by decide +kernel), rfl⟩

end ComposePods

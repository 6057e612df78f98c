import ComposePods.Proofs.Bodies
import ComposePods.Proofs.Isolation
import ComposePods.Proofs.Split

/-!
# Images of controllers

A controller has the image that its pod templates give it, or that of the settings. The settings
only fill a gap, and a key without a value is none: it keeps the image of the settings out, and read
as a property it is unset. So a controller has no image exactly if the first body that counts and
has the key has nothing there.

* `Definitions.property_of_ofEntry`: a property of a definition is read from its key;
* `Kind.read_text_ok_iff`: a text that is read;
* `Controller.givenImage?`: the image that the pod templates give;
* **`Project.image_of_transform`**: the image of a controller;
* `Project.image_lost`: a controller without an image.
-/

namespace ComposePods

open Mapping

/-! ## Properties of definitions -/

/-- **A property of a definition** is read from the value of its key. -/
theorem Definitions.property_of_ofEntry {directory service name : String} {layer : Layer}
    {body : Mapping} {s : Service} {p : Property} {v : Value}
    (h : ofEntry directory service layer (.string name, .mapping body) = .ok s)
    (hv : get? body (.string p.name) = some v) :
    ∃ w, p.kind.read v = .ok w ∧ s.value p = p.locate directory w := by
  obtain ⟨-, t, ht, -, rfl⟩ := ofEntry_mapping_ok_iff.1 h
  obtain ⟨es, final, hes, hfinal, -, rfl⟩ := Service.read_ok_iff.1 ht
  obtain rfl : body = es := Except.ok.inj hes
  obtain ⟨l, hmem, hl⟩ := exists_mem_of_get? hv
  obtain rfl := Value.same_string_iff.1 hl
  obtain ⟨name', hname, hentry⟩ := Service.of_mem_entries hfinal _ hmem
  obtain rfl : p.name = name' := Except.ok.inj hname
  refine ⟨final.service.value p, ?_, Service.value_locate _ _ _⟩
  rcases hentry with ⟨q, hq, hread⟩ | ⟨hnone, -⟩
  · obtain rfl : p = q := Option.some.inj ((Service.ofName?_name p).symm.trans hq)
    exact hread
  · rw [Service.ofName?_name] at hnone
    cases hnone

/-- A text is read from null, which leaves it unset, and from a string, whatever its tags. -/
theorem Kind.read_text_ok_iff {v : Value} {o : Option String} :
    Kind.text.read v = .ok o ↔ v = .null ∧ o = none ∨ ∃ i, v.untagged = .string i ∧ o = some i := by
  have hread : Kind.text.read v = if v = .null then .ok none else some <$> v.readText := by
    cases v <;> rfl
  rw [hread]
  split
  · rename_i hnull
    subst hnull
    simp [Value.untagged, eq_comm]
  · rename_i hset
    rw [map_ok_iff]
    simp only [hset, false_and, false_or, Value.readText]
    constructor
    · rintro ⟨i, hi, rfl⟩
      refine ⟨i, ?_, rfl⟩
      split at hi
      · rename_i hstring
        rw [hstring, Except.ok.inj hi]
      · cases hi
    · rintro ⟨i, hi, rfl⟩
      exact ⟨i, by rw [hi], rfl⟩

/-! ## Controllers -/

namespace Controller

/-- The image that fragments give: the value of its key in the first body that counts and has the
key. -/
def givenImage? (fragments : List Mapping) : Option Value :=
  (Fragment.counted fragments).findSome? (get? · (.string "image"))

theorem get?_podBody_image (settings : Settings) (given : Mapping) (fragments : List Mapping) :
    get? (podBody settings given (Fragment.counted fragments)) (.string "image") =
      (settled (Fragment.counted fragments) (.string "image")).or
        (some (.string settings.controllerImage)) := by
  have hcarried : ¬ (Value.string "image") ∈ KeySet.pod.keys.map .string := by decide
  have hstandard : get? (standardProperties settings) (.string "image") =
      some (.string settings.controllerImage) := get?_insert_self [] _ _
  rw [podBody, get?_merge_standard, Fragment.get?_fill, if_neg hcarried, Option.or_none,
    get?_mergeAll, hstandard]

end Controller

namespace Project

open Controller

variable {p q : Project} {settings : Settings} {directory name : String} {templates : Templates}

/-- **The image of a controller.** It is the one that the pod templates give, a string whatever its
tags, or that of the settings if they give none. If what they give first is null, the controller has
no image. -/
theorem image_of_transform [Markup.Machine]
    (h : p.transform settings directory name templates = .ok q) :
    ∃ s t fragments, p.service? name = some s ∧ q.service? name = some t ∧
      templates.pod.mapM ((Context.ofService p directory s templates).render .pod) = .ok fragments ∧
      (t.image = none ↔ givenImage? fragments = some .null) ∧
      ∀ image, t.image = some image ↔
        (givenImage? fragments = none ∧ image = settings.controllerImage) ∨
          ∃ v, givenImage? fragments = some v ∧ v.untagged = .string image := by
  obtain ⟨s, t, hs, ht, hcontroller⟩ := service?_of_transform h
  -- The labels change no image.
  let hasImage (u : Service) : Prop := ∃ fragments,
    templates.pod.mapM ((Context.ofService p directory s templates).render .pod) = .ok fragments ∧
      Kind.text.read ((settled (Fragment.counted fragments) (.string "image")).getD
        (.string settings.controllerImage)) = .ok u.image
  have himage : hasImage t := by
    refine Context.controller_preserves (P := hasImage) (fun u d hu => ?_) (fun u hu => ?_)
      hcontroller
    · obtain ⟨fragments, hfragments, hread⟩ := hu
      refine ⟨fragments, hfragments, hread.trans (congrArg _ ?_)⟩
      exact (Service.set_of_ne u d (by decide)).symm
    · obtain ⟨fragments, hfragments, hentry⟩ := Context.podStage_counted hu
      obtain ⟨w, hw, hvalue⟩ := Definitions.property_of_ofEntry (p := .image) hentry
        ((get?_podBody_image settings _ fragments).trans Option.or_some)
      refine ⟨fragments, hfragments, hw.trans (congrArg _ hvalue.symm)⟩
  obtain ⟨fragments, hfragments, hread⟩ := himage
  refine ⟨s, t, fragments, hs, ht, hfragments, ?_⟩
  rw [Kind.read_text_ok_iff, settled, ← givenImage?] at hread
  rcases hgiven : givenImage? fragments with _ | v
  · rw [hgiven] at hread
    obtain ⟨i, hi, himage⟩ := hread.resolve_left (by simp)
    obtain rfl : settings.controllerImage = i := Value.string.inj hi
    simp [himage, eq_comm]
  · rw [hgiven] at hread
    have hv : v = .null ∧ t.image = none ∨ ∃ i, v.untagged = .string i ∧ t.image = some i := by
      cases v with
      | mapping m => simp [Value.untagged] at hread
      | null | bool | number | string | sequence | tagged => exact hread
    rcases hv with ⟨rfl, himage⟩ | ⟨i, hi, himage⟩
    · simp [himage, Value.untagged]
    · have hset : v ≠ .null := by
        rintro rfl
        cases hi
      simp [himage, hi, hset, eq_comm]

/-- The second of two pod templates gives the image, under a tag. -/
theorem image_of_transform_second :
    let web : Service := (Service.empty "web").set .image (some "nginx")
    let p : Project := { Project.empty with services := [web] }
    let templates : Templates :=
      ⟨[⟨"first", "any: {user: u}", []⟩, ⟨"second", "web: {image: !x edge}", []⟩], [], [], [], []⟩
    ∃ q t, p.transform .standard "/work" "web" templates = .ok q ∧ q.service? "web" = some t ∧
      t.image = some "edge" := by
  intro web p templates
  obtain ⟨q, hq⟩ : ∃ q, p.transform .standard "/work" "web" templates = .ok q :=
    exists_ok_of_isOk (by decide +kernel)
  obtain ⟨s, t, fragments, hs, ht, hfragments, -, himage⟩ := image_of_transform hq
  have hrendered : templates.pod.mapM ((Context.ofService p "/work" web templates).render .pod) =
      .ok [[(.string "any", .mapping [(.string "user", .string "u")])],
        [(.string "web", .mapping [(.string "image", .tagged "!x" (.string "edge"))])]] :=
    toOption_some_iff.1 (by decide +kernel)
  have hweb : p.service? "web" = some web := by decide +kernel
  obtain rfl : web = s := Option.some.inj (hweb.symm.trans hs)
  rw [hrendered] at hfragments
  cases hfragments
  exact ⟨q, t, hq, ht, (himage "edge").2
    (.inr ⟨.tagged "!x" (.string "edge"), by decide +kernel, rfl⟩)⟩

/-- **A controller without an image**: its pod template has the key and no value. -/
theorem image_lost :
    let web : Service := (Service.empty "web").set .image (some "nginx")
    let p : Project := { Project.empty with services := [web] }
    let templates : Templates := ⟨[⟨"pod", "web: {image: }", []⟩], [], [], [], []⟩
    Settings.standard.check = .ok () ∧
      ∃ q t, p.transform .standard "/work" "web" templates = .ok q ∧ q.service? "web" = some t ∧
        t.image = none := by
  intro web p templates
  refine ⟨toOption_some_iff.1 (by decide +kernel), ?_⟩
  have hrun : ((p.transform .standard "/work" "web" templates).toOption.bind (·.service? "web")).map
      (fun t => (t.image : Option String)) = some none := by
    decide +kernel
  obtain ⟨t, ht, himage⟩ := Option.map_eq_some_iff.1 hrun
  obtain ⟨q, hq, ht⟩ := Option.bind_eq_some_iff.1 ht
  exact ⟨q, t, toOption_some_iff.1 hq, ht, himage⟩

end Project

end ComposePods

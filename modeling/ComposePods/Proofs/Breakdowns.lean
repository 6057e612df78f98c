import ComposePods.Proofs.Hazards

/-!
# Where the engine breaks down

The tags of a template show which breakdowns of the engine it may come to. A template without any of
them ends with a text or an error, whatever its data are, as long as there is room for it.

* `Node.hazards`, `Snippet.hazards`, `Body.hazards`: the breakdowns that a template may come to;
* `Node.breaksOnly_render`, `Snippet.breaksOnly_expand`: the breakdowns on nodes and snippets;
* **`Body.mem_hazards_of_aborted`**: a template breaks down without room or on one of its hazards;
* `Body.ne_aborted_of_isPlain`: templates that only show variables do not break down.
-/

namespace ComposePods

namespace Markup

open Expression

/-! ## Hazards -/

namespace Node

mutual

/-- The breakdowns that a node may come to. -/
def hazards : Node → List Abort
  | .output e | .assign _ _ e => e.hazards
  | .choice e yes no => e.hazards ++ (allHazards yes ++ allHazards no)
  | .loop _ _ range body otherwise => range.hazards ++ (allHazards body ++ allHazards otherwise)
  | .filter name args body => Filter.hazards name ++ (argHazards args ++ allHazards body)
  | .block _ body => allHazards body
  | .text _ | .leave | .next | .define _ _ _ | .missing => []
termination_by structural n => n

/-- The breakdowns that some nodes may come to. -/
def allHazards : List Node → List Abort
  | [] => []
  | n :: ns => hazards n ++ allHazards ns
termination_by structural ns => ns

end

end Node

/-- The breakdowns on the values of parameters and in the body of a snippet. -/
def Snippet.hazards (s : Snippet) : List Abort :=
  s.parameters.flatMap (fun p => p.2.elim [] literalHazards) ++ Node.allHazards s.body

/-- The breakdowns that a template may come to. -/
def Body.hazards (b : Body) : List Abort :=
  Node.allHazards b.nodes ++ b.snippets.flatMap Snippet.hazards

variable {P : Abort → Prop}

/-! ## Parts of nodes and snippets -/

theorem Node.breaksOnly_runTurns {body : Scope → Except Fault Written}
    (h : ∀ s, BreaksOnly P (body s)) (s : Scope) (turns : List Turn) :
    BreaksOnly P (runTurns body s turns) := by
  induction turns generalizing s with
  | nil => exact .ok _
  | cons t turns ih =>
    refine (h _).bind fun w => ?_
    dsimp only
    split
    · exact .ok _
    · exact (ih _).bind fun _ => .ok _

namespace Snippet

variable {snippets : List Snippet} {data : List (String × Datum)}

theorem breaksOnly_argument {args : Outcomes} {p : String × Option Datum}
    (hp : ∀ a ∈ p.2.elim [] literalHazards, P a) (hargs : ∀ e ∈ args, BreaksOnly P e.2) :
    BreaksOnly P (argument args p) := by
  obtain ⟨name, standard⟩ := p
  unfold argument
  split
  · rename_i r hr
    exact (breaksOnly_of_lookup hr hargs).bind fun _ => .ok _
  · rename_i d _ hd
    obtain rfl : standard = some d := hd
    exact (Surroundings.breaksOnly_constant hp).bind fun _ => .ok _
  · exact .error trivial

theorem mem_of_opened {space name : String} {args : Outcomes} {u : Snippet × Scope}
    (h : opened snippets data space name args = .ok u) : u.1 ∈ snippets := by
  unfold opened at h
  split at h
  · cases h
  · rename_i snippet hfind
    split at h
    · cases h
    · obtain ⟨assigned, -, h⟩ := bind_ok_iff.1 h
      obtain rfl := pure_ok_iff.1 h
      exact List.mem_of_find?_eq_some hfind

theorem breaksOnly_opened {space name : String} {args : Outcomes}
    (h : ∀ a ∈ snippets.flatMap hazards, P a) (hargs : ∀ e ∈ args, BreaksOnly P e.2) :
    BreaksOnly P (opened snippets data space name args) := by
  unfold opened
  split
  · exact .error trivial
  · rename_i snippet hfind
    have hsnippet : ∀ a ∈ snippet.hazards, P a := fun a ha =>
      h a (List.mem_flatMap.2 ⟨snippet, List.mem_of_find?_eq_some hfind, ha⟩)
    rw [hazards, List.forall_mem_append] at hsnippet
    split
    · exact .error trivial
    · refine .bind (.mapM fun p hp => breaksOnly_argument (fun a ha => ?_) hargs) fun _ => .ok _
      exact hsnippet.1 a (List.mem_flatMap.2 ⟨p, hp, ha⟩)

end Snippet

/-! ## Nodes and snippets -/

section

variable [Machine]

namespace Node

variable {expand : Expansion}

mutual

theorem breaksOnly_render (hexpand : BreaksOnlyIfUsed P expand) :
    (n : Node) → (∀ a ∈ n.hazards, P a) → ∀ s, BreaksOnly P (render expand n s)
  | .text t, _, s => .ok _
  | .output e, h, s => (Surroundings.breaksOnlyIn hexpand e h).value.bind fun _ => .ok _
  | .assign shared name e, h, s => (Surroundings.breaksOnlyIn hexpand e h).value.bind fun _ => .ok _
  | .choice e yes no, h, s => by
    rw [hazards, List.forall_mem_append, List.forall_mem_append] at h
    refine (Surroundings.breaksOnlyIn hexpand e h.1).truth.bind fun b => ?_
    split
    · exact breaksOnly_renderAll hexpand yes h.2.1 s
    · exact breaksOnly_renderAll hexpand no h.2.2 s
  | .loop key? value range body otherwise, h, s => by
    rw [hazards, List.forall_mem_append, List.forall_mem_append] at h
    have hrange := (Surroundings.breaksOnlyIn (s := ⟨s, expand⟩) hexpand range h.1).value
    have hbody := breaksOnly_renderAll hexpand body h.2.1
    rw [render]
    split
    · exact .error trivial
    · refine hrange.bind fun d => ?_
      split
      · exact .error trivial
      · exact breaksOnly_renderAll hexpand otherwise h.2.2 s
      · exact (breaksOnly_runTurns hbody _ _).bind fun _ => .ok _
  | .leave, _, s => .ok _
  | .next, _, s => .ok _
  | .filter name args body, h, s => by
    rw [hazards, List.forall_mem_append, List.forall_mem_append] at h
    refine (breaksOnly_renderAll hexpand body h.2.2 s).bind fun w => ?_
    split
    · exact .ok _
    · have hargs := Surroundings.breaksOnly_outcomes
        (Surroundings.breaksOnlyIn_args (s := ⟨w.scope, expand⟩) hexpand args h.2.1)
      exact (Surroundings.breaksOnly_applyFilter _ h.1 hargs).bind fun _ => .ok _
  | .block name body, h, s => breaksOnly_renderAll hexpand body h s
  | .define _ _ _, _, s => .ok _
  | .missing, _, s => .error trivial

theorem breaksOnly_renderAll (hexpand : BreaksOnlyIfUsed P expand) :
    (ns : List Node) → (∀ a ∈ allHazards ns, P a) → ∀ s, BreaksOnly P (renderAll expand ns s)
  | [], _, s => .ok _
  | n :: ns, h, s => by
    rw [allHazards, List.forall_mem_append] at h
    refine (breaksOnly_render hexpand n h.1 s).bind fun w => ?_
    split
    · exact (breaksOnly_renderAll hexpand ns h.2 _).bind fun _ => .ok _
    · exact .ok _

end

end Node

theorem Snippet.breaksOnly_expand {snippets : List Snippet} {data : List (String × Datum)}
    (h : ∀ a ∈ snippets.flatMap hazards, P a) (levels : Nat) :
    BreaksOnlyIfUsed P (expand snippets data levels) := by
  intro hused
  induction levels with
  | zero => exact fun space name args hargs =>
    (breaksOnly_opened h hargs).bind fun _ => .error hused
  | succ levels ih =>
    intro space name args hargs
    refine (breaksOnly_opened h hargs).bind_of_ok fun u hu => ?_
    have hbody : ∀ a ∈ Node.allHazards u.1.body, P a := fun a ha =>
      h a (List.mem_flatMap.2 ⟨u.1, mem_of_opened hu, List.mem_append_right _ ha⟩)
    exact (Node.breaksOnly_renderAll (fun _ => ih) u.1.body hbody u.2).bind fun _ => .ok _

/-- **Where the engine breaks down** on a template, it has no room for it, or the template has the
hazard in its tags. -/
theorem Body.mem_hazards_of_aborted {text : String} {data : List (String × Datum)} {a : Abort}
    (h : renderText text data = .error (.aborted a)) :
    Machine.room text data = 0 ∨ ∃ b, ofText? text = some b ∧ a ∈ b.hazards := by
  unfold renderText at h
  split at h
  · rename_i hroom
    exact .inl hroom
  · cases hb : ofText? text with
    | none =>
      rw [hb] at h
      cases h
    | some b =>
      rw [hb] at h
      refine .inr ⟨b, rfl, ?_⟩
      have hexpand (levels : Nat) :
          BreaksOnlyIfUsed (· ∈ b.hazards) (Snippet.expand b.snippets data levels) :=
        Snippet.breaksOnly_expand (fun a ha => List.mem_append_right _ ha) levels
      have hrender (levels : Nat) : BreaksOnly (· ∈ b.hazards) (b.render levels data) :=
        (Node.breaksOnly_renderAll (hexpand levels) b.nodes
          (fun a ha => List.mem_append_left _ ha) _).bind
          fun _ => .ok _
      exact hrender _ _ h

end

/-- A base without digits, a remainder whose quotient is no word, and steps of zero. -/
example :
    Body.renderText "\x7b\x7b '1' | int(base=37) \x7d\x7d" [] = .error (.aborted .base) ∧
      Body.renderText "\x7b\x7b -9223372036854775808 % -1 \x7d\x7d" [] =
        .error (.aborted .remainder) ∧
      Body.renderText "\x7b\x7b range(end=1, step_by=0) \x7d\x7d" [] =
        .error (.aborted .endless) := by
  decide +kernel

theorem Node.hazards_of_isPlain {n : Node} (h : n.isPlain = true) : n.hazards = [] := by
  cases n with
  | text => rfl
  | output e =>
    cases e with
    | path => rfl
    | _ => cases h
  | _ => cases h

theorem Node.allHazards_of_isPlain {ns : List Node} (h : ns.all isPlain = true) :
    allHazards ns = [] := by
  induction ns with
  | nil => rfl
  | cons n ns ih =>
    rw [List.all_cons, Bool.and_eq_true] at h
    rw [allHazards, hazards_of_isPlain h.1, ih h.2]
    rfl

theorem Body.ne_aborted_of_isPlain [Machine] {text : String} {b : Body} (hb : ofText? text = some b)
    (h : b.isPlain = true) (data : List (String × Datum)) (a : Abort) :
    renderText text data ≠ .error (.aborted a) := by
  intro habort
  have hroom := Machine.room_pos data hb h
  rw [isPlain, Bool.and_eq_true, List.isEmpty_iff] at h
  rcases mem_hazards_of_aborted habort with hnone | ⟨b', hb', ha⟩
  · exact Nat.ne_of_gt hroom hnone
  · obtain rfl : b' = b := Option.some.inj (hb'.symm.trans hb)
    rw [hazards, Node.allHazards_of_isPlain h.1, h.2] at ha
    cases ha

end Markup

end ComposePods

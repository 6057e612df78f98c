import ComposePods.Markup.Render
import ComposePods.Proofs.Outcome

/-!
# Hazards in expressions

The engine breaks down in few operations, and an expression shows which of them it may come to. An
expression without any of them has a value or gives an error, whatever the variables are.

* `Operator.hazards`, `Filter.hazards`, `Function.hazards`, `Expression.hazards`: the breakdowns
  that an operation and an expression may come to;
* `BreaksOnly`, `RefusesOnly`: the breakdowns that an outcome can be;
* `refusesOnly_apply`, `refusesOnly_filter`, `refusesOnly_function`: the breakdowns of operations;
* `Surroundings.BreaksOnlyIn`, **`Surroundings.breaksOnlyIn`**: the breakdowns on an expression.
-/

namespace ComposePods

namespace Markup

/-! ## Hazards -/

def Operator.hazards : Operator → List Abort
  | .add | .subtract => [.infinite]
  | .remainder => [.remainder]
  | .multiply | .divide => []

def Filter.hazards (name : String) : List Abort :=
  if name = "int" then [.base] else if name = "abs" then [.overflow] else []

def Function.hazards (name : String) : List Abort :=
  if name = "range" then [.overflow, .endless] else []

namespace Expression

/-- A literal may be a number that is not finite. -/
def literalHazards : Datum → List Abort
  | .number (.real x) => if x.isFinite then [] else [.infinite]
  | _ => []

mutual

/-- The breakdowns that an expression may come to. -/
def hazards : Expression → List Abort
  | .literal d => literalHazards d
  | .path _ => []
  | .call name args => Function.hazards name ++ argHazards args
  | .snippet _ _ args => [.exhausted, .unforeseen] ++ argHazards args
  | .test _ _ _ args => allHazards args
  | .list items => allHazards items
  | .joined parts => [.unforeseen] ++ allHazards parts
  | .arithmetic op left right => op.hazards ++ (hazards left ++ hazards right)
  | .comparison _ left right | .connection _ left right | .membership _ left right =>
    hazards left ++ hazards right
  | .filtered e f args => Filter.hazards f ++ (hazards e ++ argHazards args)
  | .negation e => hazards e
termination_by structural e => e

/-- The breakdowns that some expressions may come to. -/
def allHazards : List Expression → List Abort
  | [] => []
  | e :: es => hazards e ++ allHazards es
termination_by structural es => es

/-- The breakdowns that some arguments may come to. -/
def argHazards : List (String × Expression) → List Abort
  | [] => []
  | (_, e) :: es => hazards e ++ argHazards es
termination_by structural es => es

end

theorem unforeseen_mem_hazards {parts : List Expression} :
    {e : Expression} → e.base = .joined parts → .unforeseen ∈ e.hazards
  | .joined _, _ => List.mem_cons_self
  | .filtered e f args, h => by
    rw [hazards, List.mem_append, List.mem_append]
    exact .inr (.inl (unforeseen_mem_hazards (e := e) h))

end Expression

open Expression

/-! ## Outcomes -/

/-- An error, or a breakdown of a kind. -/
def Fault.Within (P : Abort → Prop) : Fault → Prop
  | .error _ => True
  | .aborted a => P a

/-- The same of an operation. -/
def Refusal.Within (P : Abort → Prop) : Refusal → Prop
  | .unsuitable => True
  | .aborted a => P a

/-- All breakdowns that an outcome can be are of one kind. -/
abbrev BreaksOnly (P : Abort → Prop) {α : Type} (x : Except Fault α) : Prop :=
  RaisesOnly (Fault.Within P) x

/-- The same of an operation. -/
abbrev RefusesOnly (P : Abort → Prop) {α : Type} (x : Except Refusal α) : Prop :=
  RaisesOnly (Refusal.Within P) x

/-- The same of the texts of snippets, where snippets are used. -/
def BreaksOnlyIfUsed (P : Abort → Prop) (expand : Expansion) : Prop :=
  P .exhausted → ∀ space name args, (∀ e ∈ args, BreaksOnly P e.2) →
    BreaksOnly P (expand space name args)

variable {P : Abort → Prop} {α : Type}

theorem BreaksOnly.map {x : Except Fault α} (h : BreaksOnly P x) (f : Error → Error) :
    BreaksOnly P (x.mapError (.map f)) := by
  refine h.mapError fun fault hfault => ?_
  cases fault with
  | error e => trivial
  | aborted a => exact hfault

theorem breaksOnly_of_lookup {args : Outcomes} {name : String} {d : Except Fault Datum}
    (hd : args.lookup name = some d) (h : ∀ e ∈ args, BreaksOnly P e.2) : BreaksOnly P d := by
  obtain ⟨before, after, rfl, -⟩ := List.lookup_eq_some_iff.1 hd
  exact h _ (List.mem_append_right _ List.mem_cons_self)

/-! ## Operations -/

theorem refusesOnly_demand (o : Option α) : RefusesOnly P (Refusal.demand o) := by
  cases o with
  | none => exact .error trivial
  | some a => exact .ok a

section Numbers

variable {fits : Int → Bool} {i j : Int} {m n : Number}

theorem refusesOnly_whole : RefusesOnly P (whole fits i) := by
  unfold whole
  split
  · exact .ok _
  · exact .error trivial

theorem refusesOnly_finite (h : P .infinite) (x : Binary64) : RefusesOnly P (finite x) := by
  unfold finite
  split
  · exact .ok _
  · exact .error h

theorem refusesOnly_onNumbers {f : Int → Int → Int}
    {g : Number → Number → Except Refusal (Option Number)} (h : RefusesOnly P (g m n)) :
    RefusesOnly P (onNumbers f g m n) := by
  unfold onNumbers
  split
  · split
    · exact refusesOnly_whole
    · split
      · exact refusesOnly_whole
      · exact h
  · exact h

theorem refusesOnly_wholeRemainder (h : P .remainder) :
    RefusesOnly P (wholeRemainder fits i j) := by
  unfold wholeRemainder
  split
  · exact .error trivial
  · split
    · exact .ok _
    · exact .error h

theorem refusesOnly_remainderOf (h : P .remainder) : RefusesOnly P (remainderOf m n) := by
  unfold remainderOf
  split
  · split
    · exact refusesOnly_wholeRemainder h
    · split
      · exact refusesOnly_wholeRemainder h
      · exact .ok _
  · exact .ok _

theorem refusesOnly_apply {op : Operator} (h : ∀ a ∈ op.hazards, P a) :
    RefusesOnly P (op.apply m n) := by
  unfold Operator.apply
  cases op with
  | add | subtract => exact refusesOnly_onNumbers (refusesOnly_finite (h _ List.mem_cons_self) _)
  | multiply => exact refusesOnly_onNumbers (.ok _)
  | divide => exact .ok _
  | remainder => exact refusesOnly_remainderOf (h _ List.mem_cons_self)

end Numbers

theorem refusesOnly_toInteger (h : P .base) (d : Datum) (args : Arguments) :
    RefusesOnly P (Filter.toInteger d args) := by
  refine .bind (refusesOnly_demand _) fun standard => .bind (refusesOnly_demand _) fun base => ?_
  cases d with
  | text s =>
    dsimp only
    split
    · exact .error h
    · exact .ok _
  | number n => exact .ok _
  | _ => exact .error trivial

namespace Surroundings

variable {s : Surroundings} {args : Outcomes}

theorem breaksOnly_fail (cause : Cause) : BreaksOnly P (s.fail cause : Except Fault α) :=
  .error trivial

theorem breaksOnly_demand (o : Option α) : BreaksOnly P (s.demand o) := by
  cases o with
  | none => exact breaksOnly_fail _
  | some a => exact .ok a

theorem breaksOnly_perform {x : Except Refusal α} (h : RefusesOnly P x) :
    BreaksOnly P (s.perform x) := by
  refine h.mapError fun refusal hrefusal => ?_
  cases refusal with
  | unsuitable => trivial
  | aborted a => exact hrefusal

theorem breaksOnly_resolve (path : String) : BreaksOnly P (s.resolve path) :=
  .of_mapError fun _ => trivial

theorem breaksOnly_constant {d : Datum} (h : ∀ a ∈ literalHazards d, P a) :
    BreaksOnly P (constant d) := by
  rcases d with _ | b | (i | x) | t | items | entries
  case number.real =>
    cases hx : x.isFinite with
    | true => simpa only [constant, hx] using .ok _
    | false =>
      have hinfinite : P .infinite := h _ (by simp [literalHazards, hx])
      simpa [constant, hx] using .error hinfinite
  all_goals exact .ok _

theorem breaksOnly_settled (h : ∀ e ∈ args, BreaksOnly P e.2) : BreaksOnly P (settled args) := by
  induction args with
  | nil => exact .ok _
  | cons e args ih =>
    rw [List.forall_mem_cons] at h
    exact h.1.bind fun d => (ih h.2).bind fun ds => .ok _

theorem breaksOnly_applyTest {path name : String} {negated : Bool} {ds : List (Except Fault Datum)}
    (h : ∀ d ∈ ds, BreaksOnly P d) : BreaksOnly P (s.applyTest path negated name ds) := by
  refine (breaksOnly_demand _).bind fun t => .bind (BreaksOnly.map ?_ _) fun holds => .ok _
  exact (RaisesOnly.mapM h).bind fun ds => breaksOnly_demand _

theorem breaksOnly_standIn (h : ∀ e ∈ args, BreaksOnly P e.2) : BreaksOnly P (s.standIn args) := by
  unfold standIn
  cases hvalue : args.lookup "value" with
  | none => exact breaksOnly_fail _
  | some d => exact breaksOnly_of_lookup hvalue h

theorem breaksOnly_orStandIn (path : String) (h : ∀ e ∈ args, BreaksOnly P e.2) :
    BreaksOnly P (s.orStandIn path args) := by
  unfold orStandIn
  split
  · split
    · exact breaksOnly_standIn h
    · exact .ok _
  · exact breaksOnly_standIn h

theorem breaksOnly_isIn (item container : Datum) : BreaksOnly P (s.isIn item container) := by
  unfold isIn
  split
  · exact .ok _
  · exact .ok _
  · exact .ok _
  · exact breaksOnly_fail _

theorem breaksOnly_numberOf (d : Datum) : BreaksOnly P (s.numberOf d) := by
  unfold numberOf
  split
  · exact .ok _
  · exact breaksOnly_fail _

theorem breaksOnly_joinedText (d : Datum) : BreaksOnly P (s.joinedText d) := by
  unfold joinedText
  split
  · exact .ok _
  · exact .ok _
  · exact breaksOnly_fail _

theorem breaksOnly_calculate {op : Operator} (h : ∀ a ∈ op.hazards, P a) (m n : Option Number) :
    BreaksOnly P (s.calculate op m n) := by
  unfold calculate
  split
  · exact breaksOnly_perform (refusesOnly_apply h)
  · exact .ok _

theorem breaksOnly_compareNumbers (r : Relation) (m n : Option Number) :
    BreaksOnly P (s.compareNumbers r m n) := by
  unfold compareNumbers
  split
  · exact .ok _
  · exact breaksOnly_fail _

theorem breaksOnly_connect {c : Connective} {left : Except Fault Bool}
    {right : Unit → Except Fault Bool} (hleft : BreaksOnly P left)
    (hright : BreaksOnly P (right ())) :
    BreaksOnly P (connect c left right) := by
  refine hleft.bind fun b => ?_
  split
  · exact hright
  · exact hright
  · exact .ok _
  · exact .ok _

theorem breaksOnly_relate {r : Relation} {values : Unit → Except Fault (Datum × Datum)}
    {numbers : Unit → Except Fault (Option Number × Option Number)}
    (hvalues : BreaksOnly P (values ())) (hnumbers : BreaksOnly P (numbers ())) :
    BreaksOnly P (s.relate r values numbers) := by
  unfold relate
  split
  · exact hvalues.bind fun _ => .ok _
  · exact hvalues.bind fun _ => .ok _
  · exact hnumbers.bind fun _ => breaksOnly_compareNumbers _ _ _

theorem breaksOnly_forgiving {d : Except Fault Datum} (h : BreaksOnly P d) (f : Datum → Bool) :
    BreaksOnly P (forgiving d f) := by
  unfold forgiving
  split
  · exact .ok _
  · exact .ok _
  · exact .error (h _ rfl)

end Surroundings

variable [Machine]

theorem refusesOnly_abs (h : P .overflow) (d : Datum) (args : Arguments) :
    RefusesOnly P (Filter.abs d args) := by
  unfold Filter.abs
  split
  · split
    · split
      · exact .error h
      · exact .ok _
    · exact .ok _
  · exact .ok _
  · exact .error trivial

theorem refusesOnly_filter {name : String} {f : Filter} (hf : Filter.named? name = some f)
    (h : ∀ a ∈ Filter.hazards name, P a) (d : Datum) (args : Arguments) :
    RefusesOnly P (f d args) := by
  unfold Filter.named? at hf
  split at hf
  · obtain rfl := Option.some.inj hf
    exact refusesOnly_toInteger (h _ (by decide)) d args
  · obtain rfl := Option.some.inj hf
    exact refusesOnly_abs (h _ (by decide)) d args
  · obtain ⟨g, -, rfl⟩ := Option.map_eq_some_iff.1 hf
    exact refusesOnly_demand _

theorem refusesOnly_countFrom (hoverflow : P .overflow) (hendless : P .endless)
    (step finish fuel word : Nat) (counted : List Datum) :
    RefusesOnly P (Function.countFrom step finish fuel word counted) := by
  induction fuel generalizing word counted with
  | zero => exact .error hendless
  | succ fuel ih =>
    rw [Function.countFrom]
    split
    · exact .ok _
    · split
      · exact .error hendless
      · split
        · exact .error hoverflow
        · exact ih _ _

theorem refusesOnly_range (hoverflow : P .overflow) (hendless : P .endless) (args : Arguments) :
    RefusesOnly P (Function.range args) := by
  refine .bind (refusesOnly_demand _) fun start => .bind (refusesOnly_demand _) fun step =>
    .bind (refusesOnly_demand _) fun finish => ?_
  dsimp only
  split
  · exact .error trivial
  · exact (refusesOnly_countFrom hoverflow hendless _ _ _ _ _).bind fun _ => .ok _

theorem refusesOnly_setting (args : Arguments) : RefusesOnly P (Function.setting args) := by
  refine .bind (refusesOnly_demand _) fun name => ?_
  split
  · exact .ok _
  · exact refusesOnly_demand _

theorem refusesOnly_function {name : String} {f : Function} (hf : Function.named? name = some f)
    (h : ∀ a ∈ Function.hazards name, P a) (args : Arguments) : RefusesOnly P (f args) := by
  unfold Function.named? at hf
  split at hf
  · obtain rfl := Option.some.inj hf
    exact refusesOnly_range (h _ (by decide)) (h _ (by decide)) args
  · obtain rfl := Option.some.inj hf
    exact .error trivial
  · obtain rfl := Option.some.inj hf
    exact refusesOnly_setting args
  · cases hf

/-! ## Expressions -/

namespace Surroundings

variable {s : Surroundings} {args : Outcomes}

theorem breaksOnly_applyFilter {name : String} (d : Datum) (hname : ∀ a ∈ Filter.hazards name, P a)
    (hargs : ∀ e ∈ args, BreaksOnly P e.2) : BreaksOnly P (s.applyFilter name d args) := by
  unfold applyFilter
  cases hf : Filter.named? name with
  | none => exact breaksOnly_fail _
  | some f =>
    refine BreaksOnly.map ?_ _
    exact (breaksOnly_settled hargs).bind fun ds =>
      breaksOnly_perform (refusesOnly_filter hf hname d ds)

theorem breaksOnly_applyFunction {name : String} (hname : ∀ a ∈ Function.hazards name, P a)
    (hargs : ∀ e ∈ args, BreaksOnly P e.2) : BreaksOnly P (s.applyFunction name args) := by
  unfold applyFunction
  cases hf : Function.named? name with
  | none => exact breaksOnly_fail _
  | some f =>
    refine BreaksOnly.map ?_ _
    exact (breaksOnly_settled hargs).bind fun ds =>
      breaksOnly_perform (refusesOnly_function hf hname ds)

theorem breaksOnly_filtered {path? : Option String} {inside : Unit → Except Fault Datum}
    {filter : String} (hfilter : ∀ a ∈ Filter.hazards filter, P a)
    (hinside : BreaksOnly P (inside ())) (hargs : ∀ e ∈ args, BreaksOnly P e.2) :
    BreaksOnly P (s.filtered path? inside filter args) := by
  unfold filtered
  split
  · exact breaksOnly_orStandIn _ hargs
  · refine hinside.bind fun d => ?_
    split
    · exact .ok _
    · exact breaksOnly_applyFilter d hfilter hargs

/-- The breakdowns on an expression, whatever is asked of it. -/
structure BreaksOnlyIn (s : Surroundings) (P : Abort → Prop) (e : Expression) : Prop where
  value : BreaksOnly P (s.value e)
  truth : BreaksOnly P (s.truth e)
  number : BreaksOnly P (s.number e)

theorem breaksOnly_text {es : List Expression} (h : ∀ e ∈ es, s.BreaksOnlyIn P e) :
    BreaksOnly P (s.text es) := by
  induction es with
  | nil => exact .ok _
  | cons e es ih =>
    rw [List.forall_mem_cons] at h
    have hrest (t : String) : BreaksOnly P (do return t ++ (← s.text es)) :=
      (ih h.2).bind fun _ => .ok _
    cases e with
    | literal d => exact hrest d.shown
    | _ => exact h.1.value.bind fun d => (breaksOnly_joinedText d).bind hrest

theorem breaksOnly_values {es : List Expression} (h : ∀ e ∈ es, s.BreaksOnlyIn P e) :
    BreaksOnly P (s.values es) := by
  induction es with
  | nil => exact .ok _
  | cons e es ih =>
    rw [List.forall_mem_cons] at h
    exact h.1.value.bind fun d => (ih h.2).bind fun ds => .ok _

theorem breaksOnly_outcomesOf {es : List Expression} (h : ∀ e ∈ es, s.BreaksOnlyIn P e) :
    ∀ d ∈ s.outcomesOf es, BreaksOnly P d := by
  induction es with
  | nil => exact List.forall_mem_nil _
  | cons e es ih =>
    rw [List.forall_mem_cons] at h
    exact List.forall_mem_cons.2 ⟨h.1.value, ih h.2⟩

theorem breaksOnly_outcomes {es : List (String × Expression)} (h : ∀ e ∈ es, s.BreaksOnlyIn P e.2) :
    ∀ d ∈ s.outcomes es, BreaksOnly P d.2 := by
  induction es with
  | nil => exact List.forall_mem_nil _
  | cons e es ih =>
    rw [List.forall_mem_cons] at h
    exact List.forall_mem_cons.2 ⟨h.1.value, ih h.2⟩

mutual

/-- **The breakdowns on an expression** are its hazards, if those on snippets are among them. -/
theorem breaksOnlyIn (hexpand : BreaksOnlyIfUsed P s.expand) :
    (e : Expression) → (∀ a ∈ e.hazards, P a) → s.BreaksOnlyIn P e
  | .literal d, h => by
    have hd : BreaksOnly P (constant d) := breaksOnly_constant h
    exact ⟨hd, hd.bind fun _ => .ok _, hd.bind fun _ => breaksOnly_numberOf _⟩
  | .path p, h => by
    have hp := breaksOnly_resolve (P := P) (s := s) p
    exact ⟨hp, breaksOnly_forgiving hp _, hp.bind fun _ => breaksOnly_numberOf _⟩
  | .call name args, h => by
    rw [Expression.hazards, List.forall_mem_append] at h
    have hargs := breaksOnly_outcomes (breaksOnlyIn_args hexpand args h.2)
    have hcall : BreaksOnly P (s.applyFunction name (s.outcomes args)) :=
      breaksOnly_applyFunction h.1 hargs
    refine ⟨hcall, hcall.bind fun d => ?_, hcall.bind fun _ => breaksOnly_numberOf _⟩
    split
    · exact .ok _
    · exact breaksOnly_fail _
  | .snippet space name args, h => by
    rw [Expression.hazards, List.forall_mem_append] at h
    have hargs := breaksOnly_outcomes (breaksOnlyIn_args hexpand args h.2)
    have htext := hexpand (h.1 _ (by simp)) space name _ hargs
    exact ⟨htext.bind fun _ => .ok _, htext.bind fun _ => .ok _, .error (h.1 .unforeseen (by simp))⟩
  | .test p negated name args, h => by
    have hargs := breaksOnly_outcomesOf (breaksOnlyIn_all hexpand args h)
    have htest : BreaksOnly P (s.applyTest p negated name (s.outcomesOf args)) :=
      breaksOnly_applyTest hargs
    exact ⟨htest.bind fun _ => .ok _, htest, breaksOnly_fail _⟩
  | .list items, h => by
    have hitems := breaksOnly_values (breaksOnlyIn_all hexpand items h)
    exact ⟨hitems.bind fun _ => .ok _, breaksOnly_fail _, breaksOnly_fail _⟩
  | .joined parts, h => by
    rw [Expression.hazards, List.forall_mem_append] at h
    have hparts := breaksOnly_text (breaksOnlyIn_all hexpand parts h.2)
    exact ⟨hparts.bind fun _ => .ok _, hparts.bind fun _ => .ok _, breaksOnly_fail _⟩
  | .arithmetic op left right, h => by
    rw [Expression.hazards, List.forall_mem_append, List.forall_mem_append] at h
    have hleft := (breaksOnlyIn hexpand left h.2.1).number
    have hright := (breaksOnlyIn hexpand right h.2.2).number
    have hcalculate (m n : Option Number) : BreaksOnly P (s.calculate op m n) :=
      breaksOnly_calculate h.1 m n
    refine ⟨BreaksOnly.map ?_ _, ?_, ?_⟩
    · exact hleft.bind fun m => hright.bind fun n => (hcalculate m n).bind fun _ => .ok _
    · exact hleft.bind fun m => hright.bind fun n => (hcalculate m n).bind fun _ => .ok _
    · exact hleft.bind fun m => hright.bind fun n => hcalculate m n
  | .comparison r left right, h => by
    rw [Expression.hazards, List.forall_mem_append] at h
    have hleft := breaksOnlyIn hexpand left h.1
    have hright := breaksOnlyIn hexpand right h.2
    have htruth : BreaksOnly P (s.truth (.comparison r left right)) := breaksOnly_relate
      (hleft.value.bind fun _ => hright.value.bind fun _ => .ok _)
      (hleft.number.bind fun _ => hright.number.bind fun _ => .ok _)
    exact ⟨htruth.bind fun _ => .ok _, htruth, breaksOnly_fail _⟩
  | .connection c left right, h => by
    rw [Expression.hazards, List.forall_mem_append] at h
    have htruth : BreaksOnly P (s.truth (.connection c left right)) :=
      breaksOnly_connect (breaksOnlyIn hexpand left h.1).truth
        (breaksOnlyIn hexpand right h.2).truth
    exact ⟨htruth.bind fun _ => .ok _, htruth, breaksOnly_fail _⟩
  | .membership absent item container, h => by
    rw [Expression.hazards, List.forall_mem_append] at h
    have hitem := (breaksOnlyIn hexpand item h.1).value
    have hcontainer := (breaksOnlyIn hexpand container h.2).value
    have htruth : BreaksOnly P (s.truth (.membership absent item container)) :=
      hitem.bind fun _ => hcontainer.bind fun _ => (breaksOnly_isIn _ _).bind fun _ => .ok _
    refine ⟨hitem.bind fun _ => hcontainer.bind fun _ => ?_, htruth, breaksOnly_fail _⟩
    exact (breaksOnly_isIn _ _).bind fun _ => .ok _
  | .filtered e f args, h => by
    rw [Expression.hazards, List.forall_mem_append, List.forall_mem_append] at h
    have he := breaksOnlyIn hexpand e h.2.1
    have hargs := breaksOnly_outcomes (breaksOnlyIn_args hexpand args h.2.2)
    have hfiltered (path? : Option String) :
        BreaksOnly P (s.filtered path? (fun _ => s.value e) f (s.outcomes args)) :=
      breaksOnly_filtered h.1 he.value hargs
    refine ⟨hfiltered _, ?_, (hfiltered _).bind fun _ => breaksOnly_numberOf _⟩
    rw [truth]
    split
    · exact breaksOnly_forgiving (hfiltered _) _
    · rename_i hbase
      refine (hfiltered none).bind fun d => ?_
      split
      · exact .ok _
      · exact .error (h.2.1 _ (unforeseen_mem_hazards hbase))
    · exact he.truth
  | .negation e, h => by
    have he := breaksOnlyIn hexpand e h
    refine ⟨?_, ?_, breaksOnly_fail _⟩
    · rw [value]
      split
      · exact he.value
      · split
        · exact .ok _
        · exact he.value.bind fun _ => .ok _
    · rw [truth]
      split
      · split
        · exact .ok _
        · exact breaksOnly_forgiving he.value _
      · rename_i hbase
        exact he.value.bind fun _ => .error (h _ (unforeseen_mem_hazards (e := e) hbase))
      · exact he.truth.bind fun _ => .ok _

theorem breaksOnlyIn_all (hexpand : BreaksOnlyIfUsed P s.expand) :
    (es : List Expression) → (∀ a ∈ allHazards es, P a) → ∀ e ∈ es, s.BreaksOnlyIn P e
  | [], _ => List.forall_mem_nil _
  | e :: es, h => by
    rw [allHazards, List.forall_mem_append] at h
    exact List.forall_mem_cons.2 ⟨breaksOnlyIn hexpand e h.1, breaksOnlyIn_all hexpand es h.2⟩

theorem breaksOnlyIn_args (hexpand : BreaksOnlyIfUsed P s.expand) :
    (es : List (String × Expression)) → (∀ a ∈ argHazards es, P a) → ∀ e ∈ es, s.BreaksOnlyIn P e.2
  | [], _ => List.forall_mem_nil _
  | (_, e) :: es, h => by
    rw [argHazards, List.forall_mem_append] at h
    exact List.forall_mem_cons.2 ⟨breaksOnlyIn hexpand e h.1, breaksOnlyIn_args hexpand es h.2⟩

end

end Surroundings

end Markup

end ComposePods

import Dataflow.Proofs.Catalogue.Parametric
import Dataflow.Proofs.Operator.Signature

/-!
# Composites and the graphs that they abbreviate

A composite evaluates its inner operators at once and passes their answers on as constants. The
graph that it abbreviates evaluates an inner operator whenever the outer one reads the slot: never,
once or several times. Over inputs that answer every read in the same way, the two differ only where
an inner operator fails.
-/

namespace Dataflow

namespace Operator

variable {outer composite : Operator} {inners : List Operator} {symbol name kind : String}
  {pattern : RenderPattern}

/-- What a successful composition is. -/
theorem compose_eq_ok (composed : outer.compose inners symbol name pattern kind = .ok composite) :
    inners.length = outer.arity ∧ ∃ header, composite = .composite header outer inners := by
  obtain ⟨header, made, composes⟩ := composes_of_compose composed
  exact ⟨composes.count, header, made⟩

/-- Steady operators evaluate to the answers of all of them, or to the first failure. -/
theorem evaluateAll_steady {inputs : List Variable}
    {results : List (Outcome EvaluationError Value)}
    (each : List.Forall₂ (fun inner result => (evaluate inner inputs).Steady result) inners
      results) :
    (evaluateAll inners inputs).Steady (results.mapM id) := by
  induction each with
  | nil => exact fun _ => rfl
  | cons head _ induction =>
      rw [evaluateAll, List.mapM_cons]
      exact head.bind fun _ _ => induction.bind fun _ _ _ => rfl

theorem mapM_answers {ε α : Type} (answers : List α) :
    (answers.map Outcome.ok).mapM id = (.ok answers : Outcome ε (List α)) := by
  induction answers with
  | nil => rfl
  | cons answer answers induction =>
      rw [List.map_cons, List.mapM_cons, induction]
      rfl

theorem mapM_failure {ε α : Type} {failure : Outcome ε α} (answers : List α)
    (later : List (Outcome ε α)) (next : List α → Outcome ε α)
    (failed : ∀ answer, failure ≠ .ok answer) :
    (answers.map Outcome.ok ++ failure :: later).mapM id >>= next = failure := by
  induction answers generalizing next with
  | nil =>
      rw [List.map_nil, List.nil_append, List.mapM_cons]
      cases failure with
      | ok answer => exact absurd rfl (failed answer)
      | error cause => rfl
      | fault reason => rfl
  | cons answer answers induction =>
      -- the answer found first belongs to what goes on afterwards
      rw [List.map_cons, List.cons_append, List.mapM_cons]
      simpa [bind_assoc] using induction fun answers => next (answer :: answers)

theorem composite_evaluate_steady (header : Header) {inputs : List Variable}
    {results : List (Outcome EvaluationError Value)}
    {finish : List Value → Outcome EvaluationError Value}
    (evaluated : List.Forall₂ (fun inner result => (evaluate inner inputs).Steady result) inners
      results)
    (finishes : ∀ answers : List Value,
      (outer.evaluate (answers.map Variable.constant)).Steady (finish answers)) :
    ((Operator.composite header outer inners).evaluate inputs).Steady
      (results.mapM id >>= finish) := by
  rw [evaluate]
  exact (evaluateAll_steady evaluated).bind fun answers _ => finishes answers

section

variable [HostArithmetic]

/-- The built-in operators and whatever is composed from them, to any depth. -/
inductive Derived : Operator → Prop
  | builtin {operator : Operator} : operator ∈ Catalogue.builtins → Derived operator
  | composed {outer composite : Operator} {inners : List Operator} {symbol name kind : String}
      {pattern : RenderPattern} :
      Derived outer → (∀ inner ∈ inners, Derived inner) →
      outer.compose inners symbol name pattern kind = .ok composite → Derived composite

/-- What all built-in operators are built from, derived operators are built from, too. -/
theorem Derived.builtFrom_of {property : Primitive → Prop}
    (builtin : ∀ operator ∈ Catalogue.builtins, BuiltFrom property operator) {operator : Operator}
    (derived : Derived operator) : operator.BuiltFrom property := by
  induction derived with
  | builtin member => exact builtin _ member
  | composed _ _ composed outer inners =>
      obtain ⟨-, header, rfl⟩ := compose_eq_ok composed
      exact .composite outer inners

theorem Derived.builtFrom {operator : Operator} (derived : Derived operator) :
    operator.BuiltFrom Primitive.Parametric :=
  derived.builtFrom_of fun _ member => Catalogue.builtFrom_parametric member

/-- Operators on steady inputs are steady. -/
theorem BuiltFrom.steady {operator : Operator} (built : operator.BuiltFrom Primitive.Parametric)
    {inputs : List Variable} (steady : ∀ input ∈ inputs, ∃ outcome, input.value.Steady outcome) :
    ∃ outcome, (operator.evaluate inputs).Steady outcome := by
  refine Run.Steady.of_related (built.evaluate_related Value.congruence_eq ?_)
  refine List.forall₂_same.mpr fun input member => ?_
  obtain ⟨outcome, ends⟩ := steady input member
  exact ends.related ends

theorem BuiltFrom.applied_steady {operator : Operator}
    (built : operator.BuiltFrom Primitive.Parametric) {inputs : List Variable}
    (steady : ∀ input ∈ inputs, ∃ outcome, input.value.Steady outcome) :
    ∃ outcome, (operator.applied inputs).value.Steady outcome := by
  obtain ⟨outcome, ends⟩ := built.steady steady
  exact ⟨outcome, ends.recordError _⟩

theorem constants_steady (built : outer.BuiltFrom Primitive.Parametric) (answers : List Value) :
    (outer.evaluate (answers.map Variable.constant)).Steady
      ((outer.evaluate (answers.map Variable.constant)).after .empty).1 := by
  refine .of_exists (built.steady fun input member => ?_)
  obtain ⟨answer, -, rfl⟩ := List.mem_map.mp member
  exact ⟨.ok answer, fun _ => rfl⟩

/-- A composite whose inner operators all succeed ends as the outer operator does on variables that
yield their answers. -/
theorem composite_steady_of_answers (header : Header) {inputs parts : List Variable}
    {answers : List Value} (built : outer.BuiltFrom Primitive.Parametric)
    (evaluated : List.Forall₂ (fun inner answer => (evaluate inner inputs).Steady (.ok answer))
      inners answers)
    (yielding : List.Forall₂ (fun (input : Variable) answer => input.value.Steady (.ok answer))
      parts answers) :
    ∃ outcome, ((Operator.composite header outer inners).evaluate inputs).Steady outcome ∧
      (outer.evaluate parts).Steady outcome := by
  have finishes := constants_steady built
  have whole := composite_evaluate_steady header (List.forall₂_map_right_iff.mpr evaluated) finishes
  rw [mapM_answers] at whole
  refine ⟨_, whole, Run.Steady.of_related_left ?_ (finishes answers)⟩
  refine built.evaluate_related Value.congruence_eq ?_
  rw [List.forall₂_map_right_iff]
  exact yielding.imp fun _ _ ends => ends.related fun _ => rfl

/-- A composite ends as the first inner operator that fails. -/
theorem composite_steady_of_failure (header : Header) {inputs : List Variable}
    {answers : List Value} {failure : Outcome EvaluationError Value}
    {later : List (Outcome EvaluationError Value)} (built : outer.BuiltFrom Primitive.Parametric)
    (evaluated : List.Forall₂ (fun inner result => (evaluate inner inputs).Steady result) inners
      (answers.map .ok ++ failure :: later))
    (failed : ∀ answer, failure ≠ .ok answer) :
    ((Operator.composite header outer inners).evaluate inputs).Steady failure := by
  have whole := composite_evaluate_steady header evaluated (constants_steady built)
  rwa [mapM_failure answers later _ failed] at whole

end

end Operator

/-!
## How derived operators are made

A derived operator is a primitive one of the catalogue, or a composite of derived operators. The
composites of the catalogue are no exception: they are what composing its primitive operators makes.
-/

/-- Whether an operator is composed from others. -/
def Operator.isComposite : Operator → Bool
  | primitive _ => false
  | composite .. => true

namespace Catalogue

variable [HostArithmetic]

theorem composites_eq :
    builtins.filter Operator.isComposite = [notEquals, greaterOrEqual, lessOrEqual] := rfl

/-- A composite of the catalogue is composed from primitive operators of the catalogue. -/
theorem exists_compose {operator : Operator} (member : operator ∈ builtins)
    (composite : operator.isComposite = true) :
    ∃ outer inners symbol name pattern kind,
      Operator.compose outer inners symbol name pattern kind = .ok operator ∧
        (∀ part ∈ outer :: inners, part ∈ builtins) ∧
        (outer :: inners).any Operator.isComposite = false := by
  have among : operator ∈ [notEquals, greaterOrEqual, lessOrEqual] :=
    composites_eq ▸ List.mem_filter.mpr ⟨member, composite⟩
  simp only [List.mem_cons, List.not_mem_nil, or_false] at among
  rcases among with rfl | rfl | rfl
  · exact ⟨negation, [equals], _, _, _, _, rfl, by simp [builtins, logical, relational], rfl⟩
  · exact ⟨disjunction, [equals, greaterThan], _, _, _, _, rfl,
      by simp [builtins, logical, relational], rfl⟩
  · exact ⟨disjunction, [equals, lessThan], _, _, _, _, rfl,
      by simp [builtins, logical, relational], rfl⟩

end Catalogue

namespace Operator

variable [HostArithmetic] {operator outer : Operator} {inners : List Operator} {header : Header}

/-- Induction on how a derived operator is made, from its parts to itself. -/
@[elab_as_elim]
theorem Derived.inductionOn {motive : Operator → Prop} (derived : Derived operator)
    (primitive : ∀ definition, .primitive definition ∈ Catalogue.builtins →
      motive (.primitive definition))
    (composite : ∀ header outer inners, Composes header outer inners → Derived outer →
      (∀ inner ∈ inners, Derived inner) → motive outer → (∀ inner ∈ inners, motive inner) →
      motive (.composite header outer inners)) :
    motive operator := by
  have single : ∀ part ∈ Catalogue.builtins, part.isComposite ≠ true → motive part := by
    intro part member noComposite
    cases part with
    | primitive definition => exact primitive definition member
    | composite => exact absurd rfl noComposite
  induction derived with
  | @builtin operator member =>
      by_cases kind : operator.isComposite = true
      · obtain ⟨outer, inners, _, _, _, _, composed, members, kinds⟩ :=
          Catalogue.exists_compose member kind
        obtain ⟨header, rfl, composes⟩ := composes_of_compose composed
        obtain ⟨outerMember, innersMember⟩ := List.forall_mem_cons.mp members
        obtain ⟨outerKind, innersKind⟩ := List.forall_mem_cons.mp (List.any_eq_false.mp kinds)
        exact composite header outer inners composes (.builtin outerMember)
          (fun inner among => .builtin (innersMember inner among))
          (single outer outerMember outerKind)
          fun inner among => single inner (innersMember inner among) (innersKind inner among)
      · exact single operator member kind
  | composed outerDerived innersDerived composed outer inners =>
      obtain ⟨header, rfl, composes⟩ := composes_of_compose composed
      exact composite header _ _ composes outerDerived innersDerived outer inners

theorem Derived.composite_parts (derived : Derived (.composite header outer inners)) :
    Composes header outer inners ∧ Derived outer ∧ ∀ inner ∈ inners, Derived inner := by
  generalize made : Operator.composite header outer inners = operator at derived
  revert made
  refine derived.inductionOn ?primitive ?composite
  case primitive => exact fun definition _ made => nomatch made
  case composite =>
    rintro header' outer' inners' composes outerDerived innersDerived - - ⟨⟩
    exact ⟨composes, outerDerived, innersDerived⟩

end Operator

end Dataflow

import Dataflow.Catalogue
import Dataflow.Graph
import Dataflow.Proofs.Value.Congruence

/-!
# Operators depend on the values that they read

A primitive operator is parametric when related inputs lead to related results, for every congruence
of values and every alignment of handle counters. In particular it does not matter which variable
yields a value, which type the variable declares, or how often it is read. Every built-in operator
is parametric, and parametricity passes to composites.
-/

namespace Dataflow

theorem getElem?_of_forall₂ {α β : Type} {relation : α → β → Prop} {lefts : List α}
    {rights : List β} (related : List.Forall₂ relation lefts rights) (index : Nat) :
    (lefts[index]? = none ∧ rights[index]? = none) ∨
      ∃ left right, lefts[index]? = some left ∧ rights[index]? = some right ∧
        relation left right := by
  induction related generalizing index with
  | nil => exact .inl ⟨rfl, rfl⟩
  | @cons left right lefts rights head tail induction =>
      cases index with
      | zero => exact .inr ⟨left, right, rfl, rfl, head⟩
      | succ index => simpa using induction index

/-- Results that are there for each item, together. -/
theorem exists_forall₂ {α β : Type} {relation : α → β → Prop} {items : List α}
    (each : ∀ item ∈ items, ∃ result, relation item result) :
    ∃ results, List.Forall₂ relation items results := by
  induction items with
  | nil => exact ⟨[], .nil⟩
  | cons item items induction =>
      obtain ⟨⟨result, head⟩, rest⟩ := List.forall_mem_cons.mp each
      obtain ⟨results, tail⟩ := induction rest
      exact ⟨result :: results, .cons head tail⟩

/-- Variables that yield values which agree. -/
def Variable.Agrees (aligned : Nat → Nat → Prop) (agree : Value → Value → Prop)
    (input other : Variable) : Prop :=
  Run.Related aligned agree input.value other.value

section

variable {aligned : Nat → Nat → Prop} {agree : Value → Value → Prop}
  {header : Header} {inputs others : List Variable}

namespace Slots

theorem checkArity_related (wired : List.Forall₂ (Variable.Agrees aligned agree) inputs others) :
    Run.Related aligned Eq (checkArity ⟨header, inputs⟩) (checkArity ⟨header, others⟩) := by
  have lengths := wired.length_eq
  simp only [checkArity, arityError, lengths]
  split
  · exact Run.Related.pure rfl
  · exact Run.Related.fail _

theorem unchecked_related (wired : List.Forall₂ (Variable.Agrees aligned agree) inputs others)
    (index : Nat) :
    Run.Related aligned agree (unchecked ⟨header, inputs⟩ index)
      (unchecked ⟨header, others⟩ index) := by
  have lengths := wired.length_eq
  rcases getElem?_of_forall₂ wired index with
    ⟨missing, missing'⟩ | ⟨input, other, found, found', values⟩
  · simp only [unchecked, missing, missing', arityError, lengths]
    exact Run.Related.fail _
  · simp only [unchecked, found, found']
    exact values

variable [HostArithmetic]

theorem value_related (congruence : Value.Congruence agree)
    (wired : List.Forall₂ (Variable.Agrees aligned agree) inputs others) (index : Nat) :
    Run.Related aligned agree (value ⟨header, inputs⟩ index) (value ⟨header, others⟩ index) := by
  refine Run.Related.bind (unchecked_related wired index) fun {left right} agreed => ?_
  have types := congruence.type_eq agreed
  refine Run.Related.ofOutcome ?_
  simp only [admitted, typeError, types]
  cases header.inputs[index]? with
  | none => exact .ok agreed
  | some expected =>
      by_cases accepted : expected.accepts right.type = true
      · simp only [accepted, if_true]
        exact .ok agreed
      · simp only [accepted]
        exact .error _

/-- A slot that does not admit lists yields one value to both runs. -/
theorem value_same (congruence : Value.Congruence agree)
    (wired : List.Forall₂ (Variable.Agrees aligned agree) inputs others) {index : Nat}
    {expected : ValueType} (declared : header.inputs[index]? = some expected)
    (noList : expected.accepts .list = false) :
    Run.Related aligned Eq (value ⟨header, inputs⟩ index) (value ⟨header, others⟩ index) := by
  refine Run.Related.bind (unchecked_related wired index) fun {left right} agreed => ?_
  refine Run.Related.ofOutcome ?_
  obtain ⟨-, rfl⟩ | ⟨view, other, rfl, rfl, -⟩ := congruence.view agreed
  · exact .same _
  · simp only [admitted, declared, Value.type, noList, Bool.false_eq_true, if_false]
    exact .error _

theorem payload_related {α : Type} (congruence : Value.Congruence agree) {payloads : α → α → Prop}
    {payload? : Value → Option α} {left right : Value} (agreed : agree left right)
    (related : (payload? left = none ∧ payload? right = none) ∨
      ∃ found found', payload? left = some found ∧ payload? right = some found' ∧
        payloads found found')
    (index : Nat) (expected : ValueType) :
    Run.Related aligned payloads
      (.ofExcept (payload ⟨header, inputs⟩ index expected payload? left))
      (.ofExcept (payload ⟨header, others⟩ index expected payload? right)) := by
  have types := congruence.type_eq agreed
  refine Run.Related.ofOutcome ?_
  rcases related with ⟨missing, missing'⟩ | ⟨found, found', here, here', corresponding⟩
  · simp only [payload, missing, missing', typeError, types]
    exact .error _
  · simp only [payload, here, here']
    exact .ok corresponding

/-- A payload that lists do not have is the same in values that agree. -/
theorem payload?_cases {α : Type} (congruence : Value.Congruence agree)
    {payload? : Value → Option α} (noList : ∀ view, payload? (.list view) = none)
    {left right : Value} (agreed : agree left right) :
    (payload? left = none ∧ payload? right = none) ∨
      ∃ found found', payload? left = some found ∧ payload? right = some found' ∧
        found = found' := by
  obtain ⟨-, rfl⟩ | ⟨view, other, rfl, rfl, -⟩ := congruence.view agreed
  · cases payload? right with
    | none => exact .inl ⟨rfl, rfl⟩
    | some found => exact .inr ⟨found, found, rfl, rfl, rfl⟩
  · exact .inl ⟨noList view, noList other⟩

theorem read_related {α : Type} (congruence : Value.Congruence agree)
    (wired : List.Forall₂ (Variable.Agrees aligned agree) inputs others) (index : Nat)
    (expected : ValueType) {payload? : Value → Option α}
    (noList : ∀ view, payload? (.list view) = none) :
    Run.Related aligned Eq (read ⟨header, inputs⟩ index expected payload?)
      (read ⟨header, others⟩ index expected payload?) :=
  Run.Related.bind (value_related congruence wired index) fun agreed =>
    payload_related congruence agreed (payload?_cases congruence noList agreed) index expected

theorem list_related (congruence : Value.Congruence agree)
    (wired : List.Forall₂ (Variable.Agrees aligned agree) inputs others) (index : Nat) :
    Run.Related aligned (ListView.Agrees agree) (list ⟨header, inputs⟩ index)
      (list ⟨header, others⟩ index) := by
  refine Run.Related.bind (value_related congruence wired index) fun {left right} agreed => ?_
  refine payload_related congruence agreed ?_ index .list
  obtain ⟨noList, rfl⟩ | ⟨view, other, rfl, rfl, views⟩ := congruence.view agreed
  · exact .inl ⟨noList, noList⟩
  · exact .inr ⟨view, other, rfl, rfl, views⟩

theorem condition_related (congruence : Value.Congruence agree)
    (wired : List.Forall₂ (Variable.Agrees aligned agree) inputs others) (index : Nat) :
    Run.Related aligned Eq (condition ⟨header, inputs⟩ index)
      (condition ⟨header, others⟩ index) :=
  Run.Related.bind (unchecked_related wired index) fun agreed =>
    payload_related congruence agreed (payload?_cases congruence (fun _ => rfl) agreed) index
      .boolean

end Slots

end

section

variable [HostArithmetic]

/-- A way to compute, under a header, that takes related inputs to related results. -/
def Slots.Parametric (header : Header) (compute : Slots → Evaluation Value) : Prop :=
  ∀ ⦃aligned : Nat → Nat → Prop⦄ ⦃agree : Value → Value → Prop⦄
    ⦃inputs others : List Variable⦄, Value.Congruence agree →
    List.Forall₂ (Variable.Agrees aligned agree) inputs others →
    Run.Related aligned agree (compute ⟨header, inputs⟩) (compute ⟨header, others⟩)

/-- Variables that yield values which agree and declare one type. -/
structure Variable.Alike (aligned : Nat → Nat → Prop) (agree : Value → Value → Prop)
    (input other : Variable) : Prop where
  value : Variable.Agrees aligned agree input other
  type : Run.Related aligned Eq input.type other.type

/-- A rule that takes related inputs to one type. -/
def OutputRule.Parametric (rule : OutputRule) : Prop :=
  ∀ ⦃aligned : Nat → Nat → Prop⦄ ⦃agree : Value → Value → Prop⦄ ⦃inputs others : List Variable⦄,
    Value.Congruence agree → List.Forall₂ (Variable.Alike aligned agree) inputs others →
    Run.Related aligned Eq (rule inputs) (rule others)

theorem OutputRule.inputType_parametric (slot : Nat) : (inputType slot).Parametric := by
  intro aligned agree inputs others congruence wired
  simp only [inputType]
  rcases getElem?_of_forall₂ wired slot with
    ⟨missing, missing'⟩ | ⟨input, other, found, found', alike⟩
  · rw [missing, missing']
    exact Run.Related.pure rfl
  · rw [found, found']
    simp only [← bind_pure_comp]
    refine Run.Related.bind alike.type ?_
    rintro type _ rfl
    exact Run.Related.pure rfl

theorem OutputRule.elementType_parametric : elementType.Parametric := by
  intro aligned agree inputs others congruence wired
  simp only [elementType]
  rcases getElem?_of_forall₂ wired 0 with
    ⟨missing, missing'⟩ | ⟨input, other, found, found', alike⟩
  · rw [missing, missing']
    exact Run.Related.pure rfl
  · rw [found, found']
    refine Run.Related.bind alike.value.attempt fun {left right} attempted => ?_
    cases left with
    | error cause =>
        cases right with
        | error => exact Run.Related.pure rfl
        | ok => cases attempted
    | ok value =>
        cases right with
        | error => cases attempted
        | ok value' =>
            cases attempted with
            | ok agreed =>
                obtain ⟨-, rfl⟩ | ⟨view, view', rfl, rfl, views⟩ := congruence.view agreed
                · cases value' <;> exact Run.Related.pure rfl
                · exact Run.Related.pure (congrArg some views.elementType)

/-- A primitive operator whose value and output type depend on its inputs up to relatedness. -/
structure Primitive.Parametric (definition : Primitive) : Prop where
  evaluate : ∀ {aligned : Nat → Nat → Prop} {agree : Value → Value → Prop}
    {inputs others : List Variable}, Value.Congruence agree →
    List.Forall₂ (Variable.Agrees aligned agree) inputs others →
    Run.Related aligned agree (definition.evaluate inputs) (definition.evaluate others)
  outputType : ∀ {aligned : Nat → Nat → Prop} {agree : Value → Value → Prop}
    {inputs others : List Variable}, Value.Congruence agree →
    List.Forall₂ (Variable.Alike aligned agree) inputs others →
    Run.Related aligned Eq (definition.outputType inputs) (definition.outputType others)

theorem Primitive.parametric {definition : Primitive} {compute : Slots → Evaluation Value}
    (body : definition.body = .raw compute ∨ definition.body = .safe compute)
    (computes : Slots.Parametric definition.header compute)
    (rule : ∀ rule, definition.outputRule = some rule → rule.Parametric) :
    definition.Parametric where
  evaluate congruence wired := by
    simp only [Primitive.evaluate]
    rcases body with raw | safe
    · rw [raw]
      exact computes congruence wired
    · rw [safe]
      exact Run.Related.bind (Slots.checkArity_related wired) fun _ => computes congruence wired
  outputType congruence wired := by
    simp only [Primitive.outputType]
    cases given : definition.outputRule with
    | none => exact Run.Related.pure rfl
    | some refining =>
        refine Run.Related.bind (rule refining given congruence wired) ?_
        rintro refined _ rfl
        exact Run.Related.pure rfl

end

namespace Operator

/-- Operators whose primitive parts all have a property. -/
inductive BuiltFrom (property : Primitive → Prop) : Operator → Prop
  | primitive {definition : Primitive} :
      property definition → BuiltFrom property (.primitive definition)
  | composite {header : Header} {outer : Operator} {inners : List Operator} :
      BuiltFrom property outer → (∀ inner ∈ inners, BuiltFrom property inner) →
      BuiltFrom property (.composite header outer inners)

section

variable {aligned : Nat → Nat → Prop} {agree : Value → Value → Prop}

theorem evaluateAll_related {inners : List Operator} {inputs others : List Variable}
    (each : ∀ inner ∈ inners,
      Run.Related aligned agree (inner.evaluate inputs) (inner.evaluate others)) :
    Run.Related aligned (List.Forall₂ agree) (evaluateAll inners inputs)
      (evaluateAll inners others) := by
  induction inners with
  | nil => exact Run.Related.pure .nil
  | cons inner inners induction =>
      rw [evaluateAll, evaluateAll]
      refine Run.Related.bind (each inner List.mem_cons_self) fun agreed => ?_
      refine Run.Related.bind
        (induction fun inner member => each inner (List.mem_cons_of_mem _ member)) fun rest => ?_
      exact Run.Related.pure (.cons agreed rest)

/-- Whatever is built from parametric parts evaluates related inputs to related results. -/
theorem BuiltFrom.evaluate_related [HostArithmetic] {operator : Operator}
    (congruence : Value.Congruence agree) (built : BuiltFrom Primitive.Parametric operator)
    {inputs others : List Variable}
    (wired : List.Forall₂ (Variable.Agrees aligned agree) inputs others) :
    Run.Related aligned agree (operator.evaluate inputs) (operator.evaluate others) := by
  induction built generalizing inputs others with
  | primitive parametric => exact parametric.evaluate congruence wired
  | composite _ _ outer inners =>
      rw [evaluate, evaluate]
      refine Run.Related.bind
        (evaluateAll_related fun inner member => inners inner member wired) fun agreed => ?_
      refine outer ?_
      rw [List.forall₂_map_left_iff, List.forall₂_map_right_iff]
      exact agreed.imp fun _ _ agreed => Run.Related.pure agreed

/-- Whatever is built from parametric parts gives related inputs one type. -/
theorem BuiltFrom.outputType_related [HostArithmetic] {operator : Operator}
    (congruence : Value.Congruence agree) (built : BuiltFrom Primitive.Parametric operator)
    {inputs others : List Variable}
    (wired : List.Forall₂ (Variable.Alike aligned agree) inputs others) :
    Run.Related aligned Eq (operator.outputType inputs) (operator.outputType others) := by
  induction built generalizing inputs others with
  | primitive parametric => exact parametric.outputType congruence wired
  | @composite header outer inners _ builtInners typedOuter typedInners =>
      have values := wired.imp fun _ _ alike => alike.value
      have results : ∀ members : List Operator, (∀ inner ∈ members, inner ∈ inners) →
          Run.Related aligned (List.Forall₂ (Variable.Alike aligned agree))
            (innerResults members inputs) (innerResults members others) := by
        intro members among
        induction members with
        | nil => exact Run.Related.pure .nil
        | cons inner members induction =>
            have member := among inner List.mem_cons_self
            rw [innerResults, innerResults]
            refine Run.Related.bind (typedInners inner member wired) ?_
            rintro type _ rfl
            refine Run.Related.bind
              (induction fun inner member => among inner (List.mem_cons_of_mem _ member))
              fun rest => ?_
            exact Run.Related.pure (.cons
              ⟨(builtInners inner member).evaluate_related congruence values,
                Run.Related.pure rfl⟩ rest)
      rw [outputType, outputType]
      exact Run.Related.bind (results inners fun _ member => member) typedOuter

theorem declaredTypes_related {inputs others : List Variable}
    (wired : List.Forall₂ (Variable.Alike aligned agree) inputs others) :
    Run.Related aligned Eq (declaredTypes inputs) (declaredTypes others) := by
  induction wired with
  | nil => exact Run.Related.pure rfl
  | cons head _ induction =>
      rw [declaredTypes, declaredTypes]
      refine Run.Related.bind head.type ?_
      rintro type _ rfl
      refine Run.Related.bind induction ?_
      rintro types _ rfl
      exact Run.Related.pure rfl

/-- Inputs of the same types are checked in the same way. -/
theorem checkVariables_related {operator : Operator} {inputs others : List Variable}
    (wired : List.Forall₂ (Variable.Alike aligned agree) inputs others) :
    Run.Related aligned Eq (operator.checkVariables inputs) (operator.checkVariables others) := by
  refine Run.Related.bind ((declaredTypes_related wired).mapError _) ?_
  rintro types _ rfl
  exact Run.Related.same _

/-- An operator passes on how much its inputs are alike. -/
theorem BuiltFrom.applied_alike [HostArithmetic] {operator : Operator}
    (congruence : Value.Congruence agree) (built : BuiltFrom Primitive.Parametric operator)
    {inputs others : List Variable}
    (wired : List.Forall₂ (Variable.Alike aligned agree) inputs others) :
    Variable.Alike aligned agree (operator.applied inputs) (operator.applied others) where
  value := (built.evaluate_related congruence
    (wired.imp fun _ _ alike => alike.value)).recordError _ _
  type := built.outputType_related congruence wired

end

end Operator

namespace Catalogue

variable {property : Primitive → Prop}

/-- The relations that are no primitive operators are built from those that are. -/
theorem notEquals_builtFrom (negation : Catalogue.negation.BuiltFrom property)
    (equals : Catalogue.equals.BuiltFrom property) : notEquals.BuiltFrom property :=
  .composite negation (List.forall_mem_singleton.mpr equals)

theorem orEqual_builtFrom {symbol name : String} {strict : Operator}
    (disjunction : Catalogue.disjunction.BuiltFrom property)
    (equals : Catalogue.equals.BuiltFrom property) (strictOrder : strict.BuiltFrom property) :
    (orEqual symbol name strict).BuiltFrom property :=
  .composite disjunction
    (List.forall_mem_cons.mpr ⟨equals, List.forall_mem_singleton.mpr strictOrder⟩)

end Catalogue

end Dataflow

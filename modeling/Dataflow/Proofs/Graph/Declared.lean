import Dataflow.Proofs.Graph.Parts
import Dataflow.Proofs.Operator.Refinement

/-!
# Typing evaluates nothing

Only `get` looks at a list to find its output type. Where it does not occur, a graph can be typed
and checked from the declared types of its constants, leaves and lists: nothing is read, no element
is pulled, and nothing changes when these yield other values, or fail.
-/

namespace Dataflow

/-!
## Output types that are declared

Apart from `get`, which looks at the list that it is given, every built-in operator declares its
output type, or takes it over from the declared type of one input. Composites only pass this on:
they type their inner operators, and evaluate none of them.
-/

/-- The type of a variable is known without running anything. -/
def Variable.TypedAs (input : Variable) (type : ValueType) : Prop :=
  input.type = pure type

/-- A primitive operator that declares its output type, or has it declared by one input. -/
def Primitive.Declared (definition : Primitive) : Prop :=
  ∀ rule, definition.outputRule = some rule → ∃ slot, rule = .inputType slot

theorem Primitive.Declared.outputType {definition : Primitive} (declared : definition.Declared)
    (types : List ValueType) :
    ∃ output, ∀ inputs, List.Forall₂ Variable.TypedAs inputs types →
      definition.outputType inputs = pure output := by
  cases given : definition.outputRule with
  | none =>
      refine ⟨definition.header.output, fun inputs _ => ?_⟩
      rw [Primitive.outputType, given]
  | some rule =>
      obtain ⟨slot, rfl⟩ := declared rule given
      refine ⟨types[slot]?.getD definition.header.output, fun inputs wired => ?_⟩
      simp only [Primitive.outputType, given, OutputRule.inputType]
      rcases getElem?_of_forall₂ wired slot with
        ⟨missing, missing'⟩ | ⟨input, type, found, found', typedAs⟩
      · rw [missing, missing']
        rfl
      · have typed : input.type = pure type := typedAs
        simp only [found, found', typed]
        rfl

namespace Operator

/-- The operators in which an operator occurs: itself, and composites of operators with it. -/
inductive Part (part : Operator) : Operator → Prop
  | whole : Part part part
  | outer {header : Header} {outer : Operator} {inners : List Operator} : Part part outer →
      Part part (composite header outer inners)
  | inner {header : Header} {outer inner : Operator} {inners : List Operator} : inner ∈ inners →
      Part part inner → Part part (composite header outer inners)

theorem Part.of_primitive {definition : Primitive} (occurs : Part part (.primitive definition)) :
    part = .primitive definition := by
  cases occurs
  rfl

theorem Part.of_composite {header : Header} {outer : Operator} {inners : List Operator}
    (occurs : Part part (.composite header outer inners)) :
    part = .composite header outer inners ∨ ∃ member ∈ outer :: inners, Part part member := by
  cases occurs with
  | whole => exact .inl rfl
  | outer within => exact .inr ⟨outer, List.mem_cons_self, within⟩
  | inner among within => exact .inr ⟨_, List.mem_cons_of_mem _ among, within⟩

end Operator

namespace Catalogue

/-- A built-in operator without `get`. -/
theorem builtFrom_declared [HostArithmetic] {operator : Operator} (member : operator ∈ builtins)
    (without : ¬ Operator.Part element operator) : operator.BuiltFrom Primitive.Declared := by
  revert without
  refine builtins_cases member ?conjunction ?disjunction ?negation ?arithmetic ?modulus ?onInteger
    ?onIntegers ?equals ?strictOrder ?stringLength ?concatenation ?displayName ?rounding
    ?listLength ?element ?choice ?identity ?notEquals ?orEqual
  case arithmetic =>
    intro pattern symbol name operation _
    exact .primitive fun rule given => ⟨0, (Option.some.inj given).symm⟩
  case element =>
    intro without
    exact absurd .whole without
  case choice =>
    intro _
    exact .primitive fun rule given => ⟨1, (Option.some.inj given).symm⟩
  case identity =>
    intro _
    exact .primitive fun rule given => ⟨0, (Option.some.inj given).symm⟩
  case notEquals =>
    intro negation equals without
    exact notEquals_builtFrom (negation fun part => without (.outer part))
      (equals fun part => without (.inner List.mem_cons_self part))
  case orEqual =>
    intro symbol name strictSymbol strictName wanted disjunction equals strictOrder without
    exact orEqual_builtFrom (disjunction fun part => without (.outer part))
      (equals fun part => without (.inner List.mem_cons_self part))
      (strictOrder fun part => without (.inner (List.mem_cons_of_mem _ List.mem_cons_self) part))
  all_goals
    intros
    exact .primitive nofun

end Catalogue

namespace Operator

variable {part operator : Operator} {inputs : List Variable} {types : List ValueType}

/-- Whatever is derived from built-in operators without `get`. -/
theorem Derived.builtFrom_declared [HostArithmetic] (derived : Derived operator)
    (without : ¬ Part Catalogue.element operator) : operator.BuiltFrom Primitive.Declared := by
  revert without
  refine derived.inductionOn ?primitive ?composite
  case primitive =>
    intro definition member without
    exact Catalogue.builtFrom_declared member without
  case composite =>
    intro header outer inners _ _ _ outerBuilt innersBuilt without
    apply BuiltFrom.composite
    · exact outerBuilt fun part => without (.outer part)
    · exact fun inner member => innersBuilt inner member fun part => without (.inner member part)

theorem innerResults_declared {inners : List Operator} {outputs : List ValueType}
    (each : List.Forall₂ (fun inner output => outputType inner inputs = pure output) inners
      outputs) :
    ∃ results, innerResults inners inputs = pure results ∧
      List.Forall₂ Variable.TypedAs results outputs := by
  induction each with
  | nil => exact ⟨[], rfl, .nil⟩
  | @cons inner output inners outputs head _ induction =>
      obtain ⟨results, found, declared⟩ := induction
      refine ⟨⟨pure output, inner.evaluate inputs⟩ :: results, ?_, .cons rfl declared⟩
      rw [innerResults, head, found, pure_bind, pure_bind]

/-- Where nothing looks at a value, declared types determine the output type, and nothing is run to
find it. -/
theorem BuiltFrom.outputType_declared (built : operator.BuiltFrom Primitive.Declared)
    (types : List ValueType) :
    ∃ output, ∀ inputs, List.Forall₂ Variable.TypedAs inputs types →
      operator.outputType inputs = pure output := by
  induction built generalizing types with
  | primitive declared => exact declared.outputType types
  | composite _ _ outer inners =>
      obtain ⟨outputs, each⟩ := exists_forall₂ fun inner member => inners inner member types
      obtain ⟨output, ends⟩ := outer outputs
      refine ⟨output, fun inputs wired => ?_⟩
      obtain ⟨results, found, declared⟩ :=
        innerResults_declared (each.imp fun inner output typed => typed inputs wired)
      rw [outputType, found, pure_bind]
      exact ends results declared

theorem declaredTypes_declared (wired : List.Forall₂ Variable.TypedAs inputs types) :
    declaredTypes inputs = pure types := by
  induction wired with
  | nil => rfl
  | cons head _ induction =>
      rw [declaredTypes, head, induction, pure_bind, pure_bind]

/-- Checking declared types runs nothing. -/
theorem checkVariables_declared (wired : List.Forall₂ Variable.TypedAs inputs types) :
    operator.checkVariables inputs = .ofExcept (operator.checkTypes (types.map some)) := by
  rw [checkVariables, declaredTypes_declared wired]
  rfl

end Operator

/-! ## Typing a graph -/

namespace Graph

variable {graph other part : Graph} {constants : Value → Prop} {leaves : Leaf → Prop}

/-- Operators that are derived from the built-in ones without `get`. -/
def NeverLooks [HostArithmetic] (operator : Operator) : Prop :=
  operator.Derived ∧ ¬ Operator.Part Catalogue.element operator

/-- The type that a constant, a leaf or a list declares. -/
def sourceType? : Graph → Option ValueType
  | constant value => some value.type
  | leaf source => some source.type
  | list _ _ => some .list
  | node _ _ => none

/-- Sources that declare one type, whatever they yield. -/
def DeclareAlike (left right : Graph) : Prop :=
  ∃ type, left.sourceType? = some type ∧ right.sourceType? = some type

theorem declareAlike_atomic : Atomic DeclareAlike := by
  rintro left right operator inputs ⟨type, declares, declares'⟩
  constructor
  · rintro rfl
    cases declares
  · rintro rfl
    cases declares'

theorem DeclareAlike.self {source : Graph}
    (atomic : ∀ operator inputs, source ≠ node operator inputs) : DeclareAlike source source := by
  cases source with
  | constant value => exact ⟨value.type, rfl, rfl⟩
  | leaf source => exact ⟨source.type, rfl, rfl⟩
  | list elementType items => exact ⟨.list, rfl, rfl⟩
  | node operator inputs => exact absurd rfl (atomic operator inputs)

theorem corresponds_self [HostArithmetic] (made : graph.Over NeverLooks constants leaves) :
    Corresponds DeclareAlike graph graph :=
  .refl made fun _ atomic => .self atomic

theorem toVariable_typedAs {source : Graph} {type : ValueType}
    (declares : source.sourceType? = some type) : source.toVariable.TypedAs type := by
  cases source with
  | node => cases declares
  | _ =>
      cases declares
      rfl

theorem Corresponds.typedAs [HostArithmetic] {type : ValueType}
    (corresponds : Corresponds DeclareAlike graph other)
    (declares : graph.sourceType? = some type) : other.toVariable.TypedAs type := by
  cases corresponds with
  | source instead =>
      obtain ⟨same, here, there⟩ := instead
      obtain rfl : type = same := Option.some.inj (declares.symm.trans here)
      exact toVariable_typedAs there
  | node => cases declares

/-- The inputs of a node determine the types by which it is typed and checked. -/
theorem exists_types [HostArithmetic] {inputs : List Graph}
    (each : ∀ input ∈ inputs, ∃ type, ∀ other, Corresponds DeclareAlike input other →
      other.toVariable.TypedAs type) :
    ∃ types, ∀ others, List.Forall₂ (Corresponds DeclareAlike) inputs others →
      List.Forall₂ Variable.TypedAs (others.map toVariable) types := by
  induction inputs with
  | nil =>
      refine ⟨[], fun others wired => ?_⟩
      cases wired
      exact .nil
  | cons input inputs induction =>
      obtain ⟨⟨type, first⟩, later⟩ := List.forall_mem_cons.mp each
      obtain ⟨types, rest⟩ := induction later
      refine ⟨type :: types, fun others wired => ?_⟩
      cases wired with
      | cons head tail => exact .cons (first _ head) (rest _ tail)

/-- The type of a graph is known without running anything, and does not depend on what its sources
yield. -/
theorem exists_type [HostArithmetic] (made : graph.Over NeverLooks constants leaves) :
    ∃ type, ∀ other, Corresponds DeclareAlike graph other → other.toVariable.TypedAs type := by
  induction made with
  | constant => exact ⟨_, fun other corresponds => corresponds.typedAs rfl⟩
  | leaf => exact ⟨_, fun other corresponds => corresponds.typedAs rfl⟩
  | list => exact ⟨_, fun other corresponds => corresponds.typedAs rfl⟩
  | @node operator inputs admitted _ each =>
      obtain ⟨types, wired⟩ := exists_types each
      obtain ⟨output, found⟩ :=
        (admitted.1.builtFrom_declared admitted.2).outputType_declared types
      refine ⟨output, fun other corresponds => ?_⟩
      obtain ⟨others, rfl, same⟩ := corresponds.exists_inputs declareAlike_atomic
      rw [toVariable_node]
      exact found _ (wired others same)

/-- The verdict on the wiring of a node is known in the same way. -/
theorem exists_verdict [HostArithmetic] (made : graph.Over NeverLooks constants leaves) :
    ∃ verdict, ∀ operator inputs, Corresponds DeclareAlike graph (node operator inputs) →
      operator.checkVariables (inputs.map toVariable) = .ofExcept verdict := by
  cases made with
  | @node operator inputs _ within =>
      obtain ⟨types, wired⟩ := exists_types fun input member => exists_type (within input member)
      refine ⟨operator.checkTypes (types.map some), fun operator' others corresponds => ?_⟩
      obtain ⟨_, ⟨⟩, same⟩ := corresponds.exists_inputs declareAlike_atomic
      exact Operator.checkVariables_declared (wired others same)
  | _ =>
      refine ⟨.ok (), fun operator inputs corresponds => ?_⟩
      cases corresponds with
      | source instead => exact absurd rfl (declareAlike_atomic _ _ _ _ instead).2

/-- In a graph without `get`, finding the type of a part, the output type of its operator and the
verdict on its wiring leaves the trace as it is: no leaf is read, and no element of a list is
pulled. The answers are the same for all graphs that the part becomes when sources are exchanged for
others that declare the same types; the part itself is among these, by `corresponds_self`. -/
theorem typing_evaluates_nothing [HostArithmetic]
    (made : graph.Over NeverLooks (fun _ => True) (fun _ => True)) (within : part.Part graph) :
    ∃ type verdict, ∀ other, part.Corresponds DeclareAlike other → ∀ trace,
      other.type.after trace = (.ok type, trace) ∧
      ∀ operator inputs, other = node operator inputs →
        (operator.outputType (inputs.map toVariable)).after trace = (.ok type, trace) ∧
        (operator.checkVariables (inputs.map toVariable)).after trace =
          (.ofExcept verdict, trace) := by
  obtain ⟨type, typed⟩ := exists_type (made.part within)
  obtain ⟨verdict, checked⟩ := exists_verdict (made.part within)
  refine ⟨type, verdict, fun other corresponds trace => ?_⟩
  have found : other.type = pure type := typed other corresponds
  refine ⟨by rw [found, Run.after_pure], ?_⟩
  rintro operator inputs rfl
  constructor
  · rw [Graph.type, toVariable_node] at found
    change operator.outputType (inputs.map toVariable) = pure type at found
    rw [found, Run.after_pure]
  · rw [checked operator inputs corresponds, Run.after_ofExcept]

/-- The inputs of a choice between a number and zero. -/
def atLeastZero (number : Graph) : List Graph :=
  [node Catalogue.greaterOrEqual [number, constant (.integer 0)], number, constant (.integer 0)]

/-- A number that cannot be read. -/
def unreadable : Graph := leaf (.steady 0 .integer (.error .divisionByZero))

theorem atLeastZero_typing :
    ∃ verdict,
      (node Catalogue.choice (atLeastZero unreadable)).type.after .empty =
        (.ok .integer, .empty) ∧
      (node Catalogue.choice (atLeastZero (constant (.integer 5)))).type.after .empty =
        (.ok .integer, .empty) ∧
      (Catalogue.choice.checkVariables ((atLeastZero unreadable).map toVariable)).after .empty =
        (.ofExcept verdict, .empty) ∧
      (Catalogue.choice.checkVariables
        ((atLeastZero (constant (.integer 5))).map toVariable)).after .empty =
        (.ofExcept verdict, .empty) := by
  have absent : ∀ operator ∈ [Catalogue.disjunction, Catalogue.equals, Catalogue.greaterThan,
      Catalogue.choice], ¬ Operator.Part Catalogue.element operator := by
    simp only [List.forall_mem_cons, List.not_mem_nil, false_implies, implies_true, and_true]
    refine ⟨fun occurs => ?_, fun occurs => ?_, fun occurs => ?_, fun occurs => ?_⟩
    all_goals exact absurd (congrArg (·.header.name) occurs.of_primitive) (by decide)
  have choiceAdmitted : NeverLooks Catalogue.choice :=
    ⟨.builtin (by simp [Catalogue.builtins, Catalogue.general]), absent _ (by simp)⟩
  have orderAdmitted : NeverLooks Catalogue.greaterOrEqual := by
    refine ⟨.builtin (by simp [Catalogue.builtins, Catalogue.relational]), fun occurs => ?_⟩
    obtain same | ⟨member, among, within⟩ := occurs.of_composite
    · exact absurd (congrArg (·.header.name) same) (by decide)
    · exact absent member (List.mem_append_left [Catalogue.choice] among) within
  have inputs : ∀ input ∈ atLeastZero unreadable,
      input.Over NeverLooks (fun _ => True) fun _ => True := by
    simp only [atLeastZero, List.forall_mem_cons, List.not_mem_nil, false_implies, implies_true,
      and_true]
    refine ⟨.node orderAdmitted ?_, .leaf trivial, .constant trivial⟩
    exact List.forall_mem_cons.mpr
      ⟨.leaf trivial, List.forall_mem_singleton.mpr (.constant trivial)⟩
  have made := Over.node choiceAdmitted inputs
  have number : Corresponds DeclareAlike unreadable (constant (.integer 5)) :=
    .source ⟨.integer, rfl, rfl⟩
  have zero : Corresponds DeclareAlike (constant (.integer 0)) (constant (.integer 0)) :=
    .source (.self (by rintro _ _ ⟨⟩))
  have exchanged : (node Catalogue.choice (atLeastZero unreadable)).Corresponds DeclareAlike
      (node Catalogue.choice (atLeastZero (constant (.integer 5)))) := by
    have wired : List.Forall₂ (Corresponds DeclareAlike) [unreadable, constant (.integer 0)]
        [constant (.integer 5), constant (.integer 0)] := .cons number (.cons zero .nil)
    exact .of_inputs (.cons (.of_inputs wired) wired)
  obtain ⟨type, verdict, typed⟩ := typing_evaluates_nothing made .whole
  obtain ⟨found, checks⟩ := typed _ (corresponds_self made) .empty
  obtain ⟨foundThere, checksThere⟩ := typed _ exchanged .empty
  have integer : (node Catalogue.choice (atLeastZero (constant (.integer 5)))).type.after .empty =
      (.ok .integer, .empty) := rfl
  obtain rfl : type = .integer := by
    cases foundThere.symm.trans integer
    rfl
  exact ⟨verdict, found, foundThere, (checks _ _ rfl).2, (checksThere _ _ rfl).2⟩

end Graph

end Dataflow

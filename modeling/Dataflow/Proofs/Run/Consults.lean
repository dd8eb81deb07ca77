import Dataflow.Proofs.Operator.Parametric
import Dataflow.Proofs.Run.Meets

/-!
# Consulting variables

A run consults variables if they are all that it learns from: it reads some of them, pulls elements
from lists, and ends. What it reads, in which order and how often may depend on what it has read
before. Whatever passes through reading, pulling and ending holds of every such run, so that it has
to be shown once and not for each operator.
-/

namespace Dataflow

/-!
## Domains of values

A domain is a set of values that operators do not leave: what they make themselves belongs to it,
and so do what they find in lists and what the arithmetic of a host answers. It also says whether
dispatch on its values may end with a fault. All values form a domain in which dispatch may fault.
The values that carry well-declared types, at every depth, form one in which it does not, if hosts
keep to it.
-/

section

variable [HostArithmetic]

/-- Values that operators do not leave, and whether dispatch on those of them that a slot has
admitted may fault. -/
structure Value.Domain where
  contains : Value → Prop
  faults : Prop
  literal : ∀ {value : Value}, value.isLiteral = true → contains value
  element : ∀ {view : ListView Value}, contains (.list view) → ∀ index < view.length, ∀ item,
    view.element index = .ok item → contains item
  number : ∀ {value : Value}, contains value →
    (ValueType.placeholder .number).accepts value.type = true →
      (Category.number.arithmeticOf value).Meets faults (fun _ => True) fun _ => True
  named : ∀ {value : Value}, contains value →
    (ValueType.placeholder .named).accepts value.type = true →
      (Category.named.displayName value).Meets faults (fun _ => True) fun _ => True
  calculated : ∀ {serial : Nat} {operation : ArithmeticOperation} {left right answer : Value},
    left.type.arithmetic? = some (.host serial) → contains left → contains right →
      HostArithmetic.calculate serial operation left right = .ok answer → contains answer

namespace Value.Domain

/-- The values of a domain that a slot admits. -/
def Admits (domain : Value.Domain) (slot : ValueType) (value : Value) : Prop :=
  domain.contains value ∧ slot.accepts value.type = true

/-- Any events, and the faults of a domain. -/
def allowance (domain : Value.Domain) : Allowance where
  events _ := True
  faults := domain.faults

theorem admits_literal {domain : Value.Domain} {slot : ValueType} {value : Value}
    (literal : value.isLiteral = true) (typed : value.type = slot) : domain.Admits slot value := by
  subst typed
  exact ⟨domain.literal literal, value.type.accepts_refl⟩

/-- The domain of all values. -/
def all : Value.Domain where
  contains _ := True
  faults := True
  literal _ := trivial
  element _ _ _ _ _ := trivial
  number _ _ := .trivial _
  named _ _ := .trivial _
  calculated _ _ _ _ := trivial

end Value.Domain

end

/-- A type that a host may give to its objects: no placeholder, and a number only with
arithmetic. -/
structure ValueType.WellDeclared (type : ValueType) : Prop where
  concrete : type.isConcrete = true
  arithmetic : type.categories.contains .number = true → type.arithmetic? ≠ none

/-- Values whose host objects carry well-declared types, at every depth of lists. -/
inductive Value.WellDeclared : Value → Prop
  | literal {value : Value} : value.isLiteral = true → WellDeclared value
  | object {host : HostObject} : host.type.WellDeclared → WellDeclared (.object host)
  | list {view : ListView Value} :
      (∀ index < view.length, ∀ item, view.element index = .ok item → WellDeclared item) →
      WellDeclared (.list view)

namespace Value.WellDeclared

variable {value : Value} {category : Category}

theorem type (declared : value.WellDeclared) : value.type.WellDeclared := by
  cases value with
  | object host =>
      cases declared with
      | literal literal => cases literal
      | object declared => exact declared
  | _ => exact ⟨rfl, by simp [Value.type, ValueType.categories, ValueType.arithmetic?]⟩

theorem element {view : ListView Value} (declared : (Value.list view).WellDeclared) :
    ∀ index < view.length, ∀ item, view.element index = .ok item → item.WellDeclared := by
  cases declared with
  | literal literal => cases literal
  | list items => exact items

/-- A slot for a category admits members of the category only. -/
theorem member (declared : value.WellDeclared) (narrow : category ≠ .any)
    (accepted : (ValueType.placeholder category).accepts value.type = true) :
    value.type.categories.contains category = true := by
  refine ((ValueType.accepts_placeholder_iff narrow).mp accepted).resolve_left fun placeholder => ?_
  have concrete := declared.type.concrete
  rw [placeholder] at concrete
  cases concrete

theorem arithmeticOf_ok (declared : value.WellDeclared)
    (accepted : (ValueType.placeholder .number).accepts value.type = true) :
    ∃ arithmetic, Category.number.arithmeticOf value = .ok arithmetic := by
  have member := declared.member (by decide) accepted
  obtain ⟨arithmetic, found⟩ := Option.ne_none_iff_exists'.mp (declared.type.arithmetic member)
  refine ⟨arithmetic, ?_⟩
  simp only [Category.arithmeticOf, Category.assertMember_self member, found]
  rfl

theorem displayName_ok (declared : value.WellDeclared)
    (accepted : (ValueType.placeholder .named).accepts value.type = true) :
    ∃ name, Category.named.displayName value = .ok name := by
  have member := declared.member (by decide) accepted
  cases value with
  | object host =>
      refine ⟨host.name, ?_⟩
      simp only [Category.displayName, Category.assertMember_self member]
      rfl
  | _ => cases member

end Value.WellDeclared

section

variable [HostArithmetic]

/-- Hosts answer for operands that carry well-declared types with values that do so, too. -/
def HostArithmetic.KeepsDeclarations : Prop :=
  ∀ (serial : Nat) (operation : ArithmeticOperation) (left right answer : Value),
    left.type.arithmetic? = some (.host serial) → left.WellDeclared → right.WellDeclared →
      HostArithmetic.calculate serial operation left right = .ok answer → answer.WellDeclared

/-- It is enough that numbers of one type make numbers of this type. -/
theorem HostArithmetic.KeepsDeclarations.of_type_eq
    (represents : ∀ serial operation (left right answer : Value),
      HostArithmetic.calculate serial operation left right = .ok answer →
        answer.type = left.type) : HostArithmetic.KeepsDeclarations := by
  intro serial operation left right answer declares leftDeclared _ answered
  have typed := represents serial operation left right answer answered
  have declared : answer.type.WellDeclared := typed ▸ leftDeclared.type
  rw [← typed] at declares
  cases answer with
  | object host => exact .object declared
  | _ => cases declares

/-- The domain of the values that carry well-declared types. Dispatch on them does not fault. -/
def Value.Domain.wellDeclared (keeps : HostArithmetic.KeepsDeclarations) : Value.Domain where
  contains := Value.WellDeclared
  faults := False
  literal := .literal
  element declared := declared.element
  number declared accepted := by
    obtain ⟨arithmetic, found⟩ := declared.arithmeticOf_ok accepted
    rw [found]
    trivial
  named declared accepted := by
    obtain ⟨name, found⟩ := declared.displayName_ok accepted
    rw [found]
    trivial
  calculated := keeps _ _ _ _ _

end

/-! ## Runs that consult variables -/

section

variable [HostArithmetic] {α β : Type} {domain : Value.Domain} {inputs parts : List Variable}
  {input : Variable}

/-- Runs that learn of nothing but the values of some variables. These values may be taken to be in
the domain; the faults and the answers are as promised. -/
inductive Run.Consults (domain : Value.Domain) (inputs : List Variable) {α : Type}
    (answers : α → Prop) : Evaluation α → Prop
  | ends {outcome : Outcome EvaluationError α} :
      outcome.Meets domain.faults (fun _ => True) answers →
      Consults domain inputs answers (Run.ofOutcome outcome)
  | pulls {β : Type} {pulling : Pulling β} {next : β → Evaluation α} :
      (∀ answer, Consults domain inputs answers (next answer)) →
      Consults domain inputs answers (Run.ofPulling pulling >>= next)
  | reads {input : Variable} {next : Value → Evaluation α} : input ∈ inputs →
      (∀ value, domain.contains value → Consults domain inputs answers (next value)) →
      Consults domain inputs answers (input.value >>= next)

/-- Properties of evaluations that pass through ending, pulling and going on. -/
structure Run.Closed (property : ∀ ⦃α : Type⦄, Evaluation α → Prop) : Prop where
  ofOutcome : ∀ {α : Type} (outcome : Outcome EvaluationError α), property (Run.ofOutcome outcome)
  ofPulling : ∀ {α : Type} (pulling : Pulling α),
    property (Run.ofPulling pulling : Evaluation α)
  bind : ∀ {α β : Type} {run : Evaluation α} {next : α → Evaluation β}, property run →
    (∀ answer, property (next answer)) → property (run >>= next)

namespace Run.Consults

variable {answers wider : α → Prop} {run : Evaluation α}

theorem pure {answer : α} (promised : answers answer) :
    Consults domain inputs answers (Pure.pure answer) := by
  change Consults domain inputs answers (Run.ofOutcome (.ok answer))
  exact .ends promised

theorem fail (cause : EvaluationError) : Consults domain inputs answers (Run.fail cause) := by
  rw [Run.fail]
  exact .ends trivial

theorem bind {answers' : β → Prop} {next : α → Evaluation β}
    (first : Consults domain inputs answers run)
    (second : ∀ answer, answers answer → Consults domain inputs answers' (next answer)) :
    Consults domain inputs answers' (run >>= next) := by
  induction first with
  | @ends outcome met =>
      cases outcome with
      | ok answer => exact second answer met
      | error cause => exact .fail cause
      | fault reason =>
          change Consults domain inputs answers' (Run.ofOutcome (.fault reason))
          exact .ends met
  | pulls _ induction =>
      rw [bind_assoc]
      exact .pulls induction
  | reads member _ induction =>
      rw [bind_assoc]
      exact .reads member induction

theorem weaken (consults : Consults domain inputs answers run)
    (wide : ∀ answer, answers answer → wider answer) : Consults domain inputs wider run := by
  rw [← bind_pure run]
  exact consults.bind fun answer promised => .pure (wide answer promised)

theorem read (member : input ∈ inputs) :
    Consults domain inputs domain.contains input.value := by
  rw [← bind_pure input.value]
  exact .reads member fun value contained => .pure contained

/-- Variables that consult others may be replaced by these. -/
theorem rewire (consults : Consults domain parts answers run)
    (each : ∀ part ∈ parts, Consults domain inputs domain.contains part.value) :
    Consults domain inputs answers run := by
  induction consults with
  | ends met => exact .ends met
  | pulls _ induction => exact .pulls induction
  | reads member _ induction => exact (each _ member).bind induction

/-- A run keeps to an allowance if the variables that it consults do. -/
theorem meets (consults : Consults domain inputs answers run)
    (each : ∀ input ∈ inputs,
      input.value.Meets domain.allowance (fun _ => True) domain.contains) :
    run.Meets domain.allowance (fun _ => True) answers := by
  induction consults with
  | ends met => exact .ofOutcome met
  | @pulls _ pulling _ _ induction =>
      have pulled : (Run.ofPulling pulling : Evaluation _).Meets domain.allowance
          (fun _ => True) fun _ => True := .ofPulling (fun _ => trivial) trivial
      exact pulled.bind fun answer _ => induction answer
  | reads member _ induction => exact (each _ member).bind induction

/-- A run has a property of this kind if the variables that it consults do. -/
theorem closed {property : ∀ ⦃α : Type⦄, Evaluation α → Prop} (closed : Run.Closed property)
    (consults : Consults domain inputs answers run)
    (contained : ∀ value, domain.contains value)
    (each : ∀ input ∈ inputs, property input.value) : property run := by
  induction consults with
  | ends _ => exact closed.ofOutcome _
  | pulls _ induction => exact closed.bind (closed.ofPulling _) induction
  | reads member _ induction =>
      exact closed.bind (each _ member) fun value => induction value (contained value)

/-- Among all values, an answer is as promised whatever the variables do. -/
theorem promised {trace later : Trace} {answer : α}
    (consults : Consults .all inputs answers run)
    (ended : run.after trace = (.ok answer, later)) : answers answer := by
  have each : ∀ input ∈ inputs, input.value.Meets Value.Domain.all.allowance (fun _ => True)
      Value.Domain.all.contains :=
    fun _ _ _ => ⟨.trivial _, fun _ _ => .inr trivial⟩
  have met := (consults.meets each trace).1
  rw [ended] at met
  exact met

end Run.Consults

end

/-!
## Operators consult their inputs

On any list of inputs, however wired, an operator consults these and answers with a value of the
domain that they come from. What holds of the primitive parts passes to composites, and so it does
for typing, which evaluates inputs at most.
-/

variable [HostArithmetic] {domain : Value.Domain}

section

variable {α : Type} {header : Header} {inputs : List Variable} {expected : ValueType}

namespace Slots

theorem checkArity_consults :
    Run.Consults domain inputs (fun _ => True) (checkArity ⟨header, inputs⟩) := by
  rw [checkArity]
  split
  · exact .pure trivial
  · exact .fail _

theorem unchecked_consults (index : Nat) :
    Run.Consults domain inputs domain.contains (unchecked ⟨header, inputs⟩ index) := by
  rw [unchecked]
  split
  · rename_i input found
    exact .read (List.mem_of_getElem? found)
  · exact .fail _

/-- A slot that is read yields a value that it admits. -/
theorem value_consults (index : Nat) :
    Run.Consults domain inputs
      (fun value => domain.contains value ∧
        ∀ slot, header.inputs[index]? = some slot → slot.accepts value.type = true)
      (value ⟨header, inputs⟩ index) := by
  refine (unchecked_consults index).bind fun value contained => .ends ?_
  simp only [admitted]
  split
  · rename_i slot declared
    split
    · rename_i accepted
      refine ⟨contained, fun other declared' => ?_⟩
      obtain rfl : slot = other := Option.some.inj (declared.symm.trans declared')
      exact accepted
    · trivial
  · rename_i missing
    refine ⟨contained, fun other declared => ?_⟩
    cases missing.symm.trans declared

theorem admitted_consults {index : Nat} (declared : header.inputs[index]? = some expected) :
    Run.Consults domain inputs (domain.Admits expected) (value ⟨header, inputs⟩ index) :=
  (value_consults index).weaken fun _ read => ⟨read.1, read.2 expected declared⟩

theorem payload_consults {payload? : Value → Option α} (index : Nat) (value : Value) :
    Run.Consults domain inputs (fun payload => payload? value = some payload)
      (.ofExcept (payload ⟨header, inputs⟩ index expected payload? value)) := by
  refine .ends ?_
  simp only [payload]
  split
  · rename_i found
    exact found
  · trivial

theorem read_consults {payload? : Value → Option α} (index : Nat) :
    Run.Consults domain inputs
      (fun payload => ∃ value, domain.contains value ∧ payload? value = some payload)
      (read ⟨header, inputs⟩ index expected payload?) := by
  refine (value_consults index).bind fun value read => ?_
  exact (payload_consults index value).weaken fun payload found => ⟨value, read.1, found⟩

theorem condition_consults (index : Nat) :
    Run.Consults domain inputs (fun _ => True) (condition ⟨header, inputs⟩ index) := by
  refine (unchecked_consults index).bind fun value _ => ?_
  exact (payload_consults index value).weaken fun _ _ => trivial

end Slots

end

/-- A variable whose value stays in a domain, and which faults only as the domain does. -/
structure Variable.Within (domain : Value.Domain) (input : Variable) : Prop where
  type : input.type.Meets domain.allowance (fun _ => True) fun _ => True
  value : input.value.Meets domain.allowance (fun _ => True) domain.contains

theorem Variable.Within.constant {value : Value} (contained : domain.contains value) :
    (Variable.constant value).Within domain :=
  ⟨.pure trivial, .pure contained⟩

/-- A rule that faults only as a domain does, on inputs from the domain. -/
def OutputRule.Keeps (domain : Value.Domain) (rule : OutputRule) : Prop :=
  ∀ inputs : List Variable, (∀ input ∈ inputs, input.Within domain) →
    (rule inputs).Meets domain.allowance (fun _ => True) fun _ => True

theorem OutputRule.inputType_keeps (slot : Nat) : (inputType slot).Keeps domain := by
  intro inputs within
  rw [inputType]
  split
  · rename_i input found
    rw [← bind_pure_comp]
    exact (within input (List.mem_of_getElem? found)).type.bind fun _ _ => .pure trivial
  · exact .pure trivial

theorem OutputRule.elementType_keeps : elementType.Keeps domain := by
  intro inputs within
  rw [elementType]
  split
  · rename_i input found
    refine (within input (List.mem_of_getElem? found)).value.attempt.bind fun attempted _ => ?_
    split
    · exact .pure trivial
    · exact .pure trivial
  · exact .pure trivial

/-- A primitive operator that keeps to the domain of its inputs. -/
structure Primitive.Keeps (domain : Value.Domain) (definition : Primitive) : Prop where
  evaluate : ∀ inputs, Run.Consults domain inputs domain.contains (definition.evaluate inputs)
  rule : ∀ rule, definition.outputRule = some rule → rule.Keeps domain

theorem Primitive.Keeps.outputType {definition : Primitive} (keeps : definition.Keeps domain)
    {inputs : List Variable} (within : ∀ input ∈ inputs, input.Within domain) :
    (definition.outputType inputs).Meets domain.allowance (fun _ => True) fun _ => True := by
  rw [Primitive.outputType]
  split
  · exact .pure trivial
  · rename_i rule given
    exact (keeps.rule rule given inputs within).bind fun _ _ => .pure trivial

namespace Operator

variable {operator : Operator} {inputs : List Variable}

theorem evaluateAll_consults {inners : List Operator}
    (each : ∀ inner ∈ inners, Run.Consults domain inputs domain.contains (inner.evaluate inputs)) :
    Run.Consults domain inputs (fun answers => ∀ answer ∈ answers, domain.contains answer)
      (evaluateAll inners inputs) := by
  induction inners with
  | nil => exact .pure nofun
  | cons inner inners induction =>
      rw [evaluateAll]
      refine (each inner List.mem_cons_self).bind fun answer contained => ?_
      refine (induction fun inner member => each inner (List.mem_cons_of_mem _ member)).bind
        fun answers rest => ?_
      exact .pure (List.forall_mem_cons.mpr ⟨contained, rest⟩)

/-- Whatever is built from parts that keep to a domain consults its inputs, and answers from the
domain. -/
theorem BuiltFrom.evaluate_consults (built : operator.BuiltFrom (Primitive.Keeps domain))
    (inputs : List Variable) :
    Run.Consults domain inputs domain.contains (operator.evaluate inputs) := by
  induction built generalizing inputs with
  | primitive keeps => exact keeps.evaluate inputs
  | composite _ _ outer inners =>
      rw [evaluate]
      refine (evaluateAll_consults fun inner member => inners inner member inputs).bind
        fun answers contained => (outer _).rewire fun part member => ?_
      -- the outer operator reads what the inner ones have answered
      obtain ⟨answer, among, rfl⟩ := List.mem_map.mp member
      exact .pure (contained answer among)

theorem BuiltFrom.evaluate_meets (built : operator.BuiltFrom (Primitive.Keeps domain))
    (within : ∀ input ∈ inputs, input.Within domain) :
    (operator.evaluate inputs).Meets domain.allowance (fun _ => True) domain.contains :=
  (built.evaluate_consults inputs).meets fun input member => (within input member).value

/-- The results of inner operators are typed now and evaluated later. -/
theorem innerResults_meets {inners : List Operator}
    (typed : ∀ inner ∈ inners,
      (inner.outputType inputs).Meets domain.allowance (fun _ => True) fun _ => True)
    (evaluated : ∀ inner ∈ inners,
      (inner.evaluate inputs).Meets domain.allowance (fun _ => True) domain.contains) :
    (innerResults inners inputs).Meets domain.allowance (fun _ => True)
      fun results => ∀ result ∈ results, result.Within domain := by
  induction inners with
  | nil => exact .pure nofun
  | cons inner inners induction =>
      have rest := induction (fun inner member => typed inner (List.mem_cons_of_mem _ member))
        fun inner member => evaluated inner (List.mem_cons_of_mem _ member)
      rw [innerResults]
      refine (typed inner List.mem_cons_self).bind fun type _ => rest.bind fun results others => ?_
      have result : Variable.Within domain ⟨pure type, inner.evaluate inputs⟩ :=
        ⟨.pure trivial, evaluated inner List.mem_cons_self⟩
      exact .pure (List.forall_mem_cons.mpr ⟨result, others⟩)

/-- Whatever is built from parts that keep to a domain finds its output type without other faults
than those of the domain. -/
theorem BuiltFrom.outputType_meets (built : operator.BuiltFrom (Primitive.Keeps domain))
    (within : ∀ input ∈ inputs, input.Within domain) :
    (operator.outputType inputs).Meets domain.allowance (fun _ => True) fun _ => True := by
  induction built generalizing inputs with
  | primitive keeps => exact keeps.outputType within
  | composite _ builtInners outer inners =>
      rw [outputType]
      have results := innerResults_meets (fun inner member => inners inner member within)
        fun inner member => (builtInners inner member).evaluate_meets within
      exact results.bind fun results each => outer each

end Operator

end Dataflow

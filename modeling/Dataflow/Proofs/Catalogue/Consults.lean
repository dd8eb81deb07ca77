import Dataflow.Proofs.Run.Consults

/-!
# The built-in operators consult their inputs

On any wiring, a built-in operator that computes its answer itself answers with a value which its
declared output admits. Those that forward an input answer with whatever that input yields, and
arithmetic answers with whatever a host makes of its own numbers. Dispatch on categories only meets
values that a slot has admitted.
-/

namespace Dataflow

section

variable [HostArithmetic] {domain : Value.Domain} {left right : Value}

theorem Category.calculate_consults (operation : ArithmeticOperation)
    (number : domain.Admits (.placeholder .number) left) (contained : domain.contains right) :
    (Category.number.calculate operation left right).Meets domain.faults (fun _ => True)
      domain.contains := by
  have faults : (Category.number.calculate operation left right).Meets domain.faults
      (fun _ => True) fun _ => True := by
    refine (domain.number number.1 number.2).bind fun arithmetic _ => ?_
    cases arithmetic.calculate operation left right <;> trivial
  cases calculated : Category.number.calculate operation left right with
  | ok answer =>
      rcases Category.calculate_cases calculated with ⟨literal, -⟩ | ⟨serial, declares, answered⟩
      · exact domain.literal literal
      · exact domain.calculated declares number.1 contained answered
  | error cause => trivial
  | fault reason => rwa [calculated] at faults

theorem Category.compare_faults (number : domain.Admits (.placeholder .number) left) :
    (Category.number.compare left right).Meets domain.faults (fun _ => True) fun _ => True := by
  refine (domain.number number.1 number.2).bind fun arithmetic _ => ?_
  cases arithmetic.compare left right <;> trivial

namespace Catalogue

variable {inputs : List Variable} {template : Template} {symbol name : String}
  {compute : Slots → Evaluation Value}

/-- Operators that check the number of inputs first. -/
theorem safe_consults {answers : Value → Prop}
    (computes : Run.Consults domain inputs answers
      (compute ⟨(template.safe symbol name compute).header, inputs⟩)) :
    Run.Consults domain inputs answers
      ((template.safe symbol name compute).evaluate inputs) :=
  Slots.checkArity_consults.bind fun _ _ => computes

/-- Operators that change one payload into a literal. -/
theorem read_consults {α : Type} {expected : ValueType} {payload? : Value → Option α}
    {change : α → Value} (literal : ∀ payload, (change payload).isLiteral = true ∧
      (change payload).type = template.output) :
    Run.Consults domain inputs (domain.Admits template.output)
      ((template.safe symbol name fun slots => do
        let payload ← slots.read 0 expected payload?
        pure (change payload)).evaluate inputs) := by
  refine safe_consults ((Slots.read_consults 0).bind fun payload _ => .pure ?_)
  exact Value.Domain.admits_literal (literal payload).1 (literal payload).2

/-- Operators that combine two payloads of one kind into a literal. -/
theorem read_read_consults {α : Type} {expected : ValueType} {payload? : Value → Option α}
    {combine : α → α → Value} (literal : ∀ left right, (combine left right).isLiteral = true ∧
      (combine left right).type = template.output) :
    Run.Consults domain inputs (domain.Admits template.output)
      ((template.safe symbol name fun slots => do
        let left ← slots.read 0 expected payload?
        let right ← slots.read 1 expected payload?
        pure (combine left right)).evaluate inputs) := by
  refine safe_consults ((Slots.read_consults 0).bind fun left _ => ?_)
  refine (Slots.read_consults 1).bind fun right _ => .pure ?_
  exact Value.Domain.admits_literal (literal left right).1 (literal left right).2

theorem modulus_consults :
    Run.Consults domain inputs (domain.Admits .integer) (modulus.evaluate inputs) := by
  refine safe_consults ((Slots.read_consults 1).bind fun divisor _ => ?_)
  split
  · exact .fail _
  split
  · exact .pure (Value.Domain.admits_literal rfl rfl)
  · refine (Slots.read_consults 0).bind fun dividend _ => .pure ?_
    exact Value.Domain.admits_literal rfl rfl

theorem arithmetic_consults {pattern : RenderPattern} {operation : ArithmeticOperation} :
    Run.Consults domain inputs domain.contains
      (((arithmeticFamily pattern).safe symbol name (calculated operation)).evaluate inputs) := by
  refine safe_consults ((Slots.admitted_consults rfl).bind fun left number => ?_)
  refine (Slots.value_consults 1).bind fun right read => .ends ?_
  exact Category.calculate_consults operation number read.1

theorem strictOrder_consults {wanted : Ordering} :
    Run.Consults domain inputs (domain.Admits .boolean)
      ((strictOrder symbol name wanted).evaluate inputs) := by
  refine safe_consults ((Slots.admitted_consults rfl).bind fun left number => ?_)
  refine (Slots.value_consults 1).bind fun right _ => ?_
  refine Run.Consults.bind (.ends (Category.compare_faults number)) fun order _ => .pure ?_
  exact Value.Domain.admits_literal rfl rfl

theorem equals_consults :
    Run.Consults domain inputs (domain.Admits .boolean) (equals.evaluate inputs) := by
  refine safe_consults ((Slots.value_consults 0).bind fun left _ => ?_)
  refine (Slots.value_consults 1).bind fun right _ => ?_
  rw [← bind_pure_comp]
  exact .pulls fun truth => .pure (Value.Domain.admits_literal rfl rfl)

theorem displayName_consults :
    Run.Consults domain inputs (domain.Admits .string) (displayName.evaluate inputs) := by
  refine safe_consults ((Slots.admitted_consults rfl).bind fun value named => ?_)
  rw [← bind_pure_comp]
  refine Run.Consults.bind (.ends (domain.named named.1 named.2)) fun text _ => .pure ?_
  exact Value.Domain.admits_literal rfl rfl

theorem elementAt_consults {view : ListView Value} (contained : domain.contains (.list view))
    (index : Int32) : Run.Consults domain inputs domain.contains (elementAt view index) := by
  rw [elementAt]
  split
  · rename_i inside
    refine .pulls fun _ => .ends ?_
    cases produced : view.element index.toInt.toNat with
    | ok item => exact domain.element contained _ (by omega) item produced
    | error cause => trivial
  · exact .fail _

/-- The elements of a list from the domain are in the domain. -/
theorem element_consults :
    Run.Consults domain inputs domain.contains (element.evaluate inputs) := by
  refine safe_consults ((Slots.read_consults 0).bind fun view found => ?_)
  obtain ⟨value, contained, listed⟩ := found
  refine (Slots.read_consults 1).bind fun index _ => ?_
  cases value with
  | list other =>
      obtain rfl : other = view := Option.some.inj listed
      exact elementAt_consults contained index
  | _ => cases listed

theorem identity_consults :
    Run.Consults domain inputs domain.contains (identity.evaluate inputs) :=
  safe_consults ((Slots.value_consults 0).weaken fun _ read => read.1)

/-- Operators that read a condition and then go on in one of two ways. -/
theorem condition_consults {yes no : Slots → Evaluation Value}
    (onTrue : ∀ header, Run.Consults domain inputs domain.contains (yes ⟨header, inputs⟩))
    (onFalse : ∀ header, Run.Consults domain inputs domain.contains (no ⟨header, inputs⟩)) :
    Run.Consults domain inputs domain.contains
      ((template.raw symbol name fun slots => do
        slots.checkArity
        if ← slots.condition 0 then yes slots else no slots).evaluate inputs) := by
  refine Run.Consults.bind Slots.checkArity_consults fun _ _ => ?_
  refine (Slots.condition_consults 0).bind fun truth _ => ?_
  cases truth with
  | true => exact onTrue _
  | false => exact onFalse _

theorem conjunction_consults :
    Run.Consults domain inputs domain.contains (conjunction.evaluate inputs) :=
  condition_consults (fun _ => Slots.unchecked_consults 1) fun _ => .pure (domain.literal rfl)

theorem disjunction_consults :
    Run.Consults domain inputs domain.contains (disjunction.evaluate inputs) :=
  condition_consults (fun _ => .pure (domain.literal rfl)) fun _ => Slots.unchecked_consults 1

theorem choice_consults :
    Run.Consults domain inputs domain.contains (choice.evaluate inputs) :=
  condition_consults (fun _ => Slots.unchecked_consults 1) fun _ => Slots.unchecked_consults 2

theorem inputType_rule_keeps (slot : Nat) :
    ∀ rule, some (OutputRule.inputType slot) = some rule → rule.Keeps domain := by
  rintro _ ⟨⟩
  exact OutputRule.inputType_keeps slot

/-- A primitive operator keeps to a domain from which it answers. -/
theorem keeps {definition : Primitive}
    (consults : ∀ inputs, Run.Consults domain inputs domain.contains
      ((Operator.primitive definition).evaluate inputs))
    (rule : ∀ rule, definition.outputRule = some rule → rule.Keeps domain := by nofun) :
    (Operator.primitive definition).BuiltFrom (Primitive.Keeps domain) :=
  .primitive ⟨fun inputs => by simpa only [Operator.evaluate] using consults inputs, rule⟩

/-- A primitive operator keeps to a domain if it answers with values of the domain that a slot
admits. -/
theorem keeps_of_admits {definition : Primitive} {slot : ValueType}
    (consults : ∀ inputs, Run.Consults domain inputs (domain.Admits slot)
      ((Operator.primitive definition).evaluate inputs))
    (rule : ∀ rule, definition.outputRule = some rule → rule.Keeps domain := by nofun) :
    (Operator.primitive definition).BuiltFrom (Primitive.Keeps domain) :=
  keeps (fun inputs => (consults inputs).weaken fun _ admitted => admitted.1) rule

/-- Every built-in operator is built from parts that keep to the domain of their inputs. -/
theorem builtFrom_keeps {operator : Operator} (member : operator ∈ builtins) :
    operator.BuiltFrom (Primitive.Keeps domain) := by
  refine builtins_cases member ?conjunction ?disjunction ?negation ?arithmetic ?modulus ?onInteger
    ?onIntegers ?equals ?strictOrder ?stringLength ?concatenation ?displayName ?rounding
    ?listLength ?element ?choice ?identity ?notEquals ?orEqual
  case conjunction => exact keeps fun _ => conjunction_consults
  case disjunction => exact keeps fun _ => disjunction_consults
  case negation => exact keeps_of_admits fun _ => read_consults fun _ => ⟨rfl, rfl⟩
  case arithmetic =>
    intro pattern symbol name operation
    exact keeps (fun _ => arithmetic_consults) (inputType_rule_keeps 0)
  case modulus => exact keeps_of_admits fun _ => modulus_consults
  case onInteger =>
    intro kind pattern symbol name function
    exact keeps_of_admits fun _ => read_consults fun _ => ⟨rfl, rfl⟩
  case onIntegers =>
    intro symbol name function
    exact keeps_of_admits fun _ => read_read_consults fun _ _ => ⟨rfl, rfl⟩
  case equals => exact keeps_of_admits fun _ => equals_consults
  case strictOrder =>
    intro symbol name wanted
    exact keeps_of_admits fun _ => strictOrder_consults
  case stringLength => exact keeps_of_admits fun _ => read_consults fun _ => ⟨rfl, rfl⟩
  case concatenation => exact keeps_of_admits fun _ => read_read_consults fun _ _ => ⟨rfl, rfl⟩
  case displayName => exact keeps_of_admits fun _ => displayName_consults
  case rounding =>
    intro symbol name function
    exact keeps_of_admits fun _ => read_consults fun _ => ⟨rfl, rfl⟩
  case listLength => exact keeps_of_admits fun _ => read_consults fun _ => ⟨rfl, rfl⟩
  case element =>
    refine keeps (fun _ => element_consults) ?_
    rintro _ ⟨⟩
    exact OutputRule.elementType_keeps
  case choice => exact keeps (fun _ => choice_consults) (inputType_rule_keeps 1)
  case identity => exact keeps (fun _ => identity_consults) (inputType_rule_keeps 0)
  case notEquals => exact notEquals_builtFrom
  case orEqual => exact fun _ _ _ _ _ => orEqual_builtFrom

end Catalogue

end

/-!
## Declared outputs cover results

On any wiring, the declared output type of a built-in operator admits the type of its result. There
are two exceptions: conjunction and disjunction hand on a second input as it is, whatever its type,
and arithmetic hands on what a host answers for numbers of its own.
-/

variable {inputs : List Variable} {header : Header} {trace later : Trace} {value : Value}

namespace Slots

theorem checkArity_eq_ok {slots : Slots} (ended : slots.checkArity.after trace = (.ok (), later)) :
    slots.inputs.length = slots.header.arity ∧ trace = later := by
  rw [checkArity] at ended
  split at ended
  · rename_i lengths
    cases ended
    exact ⟨lengths, rfl⟩
  · cases ended

theorem unchecked_eq_ok {slots : Slots} {index : Nat}
    (ended : (slots.unchecked index).after trace = (.ok value, later)) :
    ∃ input, slots.inputs[index]? = some input ∧ input.value.after trace = (.ok value, later) := by
  rw [unchecked] at ended
  split at ended
  · rename_i input found
    exact ⟨input, found, ended⟩
  · cases ended

/-- A slot that yields a value admits it. -/
theorem value_eq_ok {slots : Slots} {index : Nat}
    (ended : (slots.value index).after trace = (.ok value, later)) :
    ∃ input, slots.inputs[index]? = some input ∧ input.value.after trace = (.ok value, later) ∧
      ∀ slot, slots.header.inputs[index]? = some slot → slot.accepts value.type = true := by
  obtain ⟨found, between, read, passed⟩ := Run.bind_eq_ok ended
  obtain ⟨input, there, yields⟩ := unchecked_eq_ok read
  simp only [admitted] at passed
  split at passed
  · rename_i expected declared
    split at passed
    · rename_i accepted
      cases passed
      refine ⟨input, there, yields, fun slot declared' => ?_⟩
      obtain rfl := Option.some.inj (declared.symm.trans declared')
      exact accepted
    · cases passed
  · rename_i missing
    cases passed
    refine ⟨input, there, yields, fun slot declared => ?_⟩
    cases missing.symm.trans declared

theorem condition_eq_ok {slots : Slots} {index : Nat} {truth : Bool}
    (ended : (slots.condition index).after trace = (.ok truth, later)) :
    ∃ input, slots.inputs[index]? = some input ∧
      input.value.after trace = (.ok (.boolean truth), later) := by
  obtain ⟨value, between, read, carried⟩ := Run.bind_eq_ok ended
  obtain ⟨input, found, yields⟩ := unchecked_eq_ok read
  cases value with
  | boolean other =>
      cases carried
      exact ⟨input, found, yields⟩
  | _ => cases carried

end Slots

namespace Operator

/-- Operators that have all answered, one after the other. -/
theorem evaluateAll_eq_ok {inners : List Operator} {answers : List Value}
    (ended : (evaluateAll inners inputs).after trace = (.ok answers, later)) :
    List.Forall₂ (fun inner answer => ∃ trace later,
      (evaluate inner inputs).after trace = (.ok answer, later)) inners answers := by
  induction inners generalizing trace answers later with
  | nil =>
      cases ended
      exact .nil
  | cons inner inners induction =>
      rw [evaluateAll] at ended
      obtain ⟨answer, between, first, rest⟩ := Run.bind_eq_ok ended
      obtain ⟨others, last, tail, returned⟩ := Run.bind_eq_ok rest
      cases returned
      exact .cons ⟨trace, between, first⟩ (induction tail)

end Operator

namespace Catalogue

/-- A logical operator has read a truth value from its first input that does not decide, and then
what it answers from its second one. -/
def Forwards (operator : Operator) (inputs : List Variable) (trace : Trace) (value : Value)
    (later : Trace) : Prop :=
  ∃ first second truth between, inputs = [first, second] ∧
    (operator = conjunction ∧ truth = true ∨ operator = disjunction ∧ truth = false) ∧
    first.value.after trace = (.ok (.boolean truth), between) ∧
    second.value.after between = (.ok value, later)

/-- A logical operator that answers has read a truth value, and then gone on as this says. -/
theorem logical_eq_ok {symbol name : String} {yes no : Slots → Evaluation Value}
    (ended : ((Template.logicalBinary.raw symbol name fun slots => do
      slots.checkArity
      if ← slots.condition 0 then yes slots else no slots).evaluate inputs).after trace =
        (.ok value, later)) :
    ∃ first second truth between header, inputs = [first, second] ∧
      first.value.after trace = (.ok (.boolean truth), between) ∧
      (if truth then yes ⟨header, inputs⟩ else no ⟨header, inputs⟩).after between =
        (.ok value, later) := by
  obtain ⟨_, _, checked, computed⟩ := Run.bind_eq_ok ended
  obtain ⟨truth, between, conditioned, decided⟩ := Run.bind_eq_ok computed
  obtain ⟨lengths, rfl⟩ := Slots.checkArity_eq_ok checked
  obtain ⟨first, second, rfl⟩ := List.length_eq_two.mp lengths
  obtain ⟨input, found, yields⟩ := Slots.condition_eq_ok conditioned
  obtain rfl : first = input := Option.some.inj found
  exact ⟨first, second, truth, between, _, rfl, yields, decided⟩

theorem second_eq_ok {first second : Variable}
    (ended : (Slots.unchecked ⟨header, [first, second]⟩ 1).after trace = (.ok value, later)) :
    second.value.after trace = (.ok value, later) := by
  obtain ⟨input, found, yields⟩ := Slots.unchecked_eq_ok ended
  obtain rfl : second = input := Option.some.inj found
  exact yields

theorem conjunction_forwards
    (ended : (conjunction.evaluate inputs).after trace = (.ok value, later)) :
    ValueType.boolean.accepts value.type = true ∨
      Forwards conjunction inputs trace value later := by
  obtain ⟨first, second, truth, between, header, rfl, yields, decided⟩ := logical_eq_ok ended
  cases truth with
  | true =>
      have read : (Slots.unchecked ⟨header, [first, second]⟩ 1).after between =
          (.ok value, later) := decided
      exact .inr ⟨first, second, true, between, rfl, .inl ⟨rfl, rfl⟩, yields, second_eq_ok read⟩
  | false =>
      cases decided
      exact .inl rfl

theorem disjunction_forwards
    (ended : (disjunction.evaluate inputs).after trace = (.ok value, later)) :
    ValueType.boolean.accepts value.type = true ∨
      Forwards disjunction inputs trace value later := by
  obtain ⟨first, second, truth, between, header, rfl, yields, decided⟩ := logical_eq_ok ended
  cases truth with
  | true =>
      cases decided
      exact .inl rfl
  | false =>
      have read : (Slots.unchecked ⟨header, [first, second]⟩ 1).after between =
          (.ok value, later) := decided
      exact .inr ⟨first, second, false, between, rfl, .inr ⟨rfl, rfl⟩, yields, second_eq_ok read⟩

section

variable [HostArithmetic]

/-- An arithmetic operator has read a number from its first input whose type is declared with the
arithmetic of a host, and then a second number, and this arithmetic has answered for the two. -/
def Delegates (operator : Operator) (inputs : List Variable) (trace : Trace) (value : Value)
    (later : Trace) : Prop :=
  ∃ pattern symbol name operation first second left right between serial,
    operator = (arithmeticFamily pattern).safe symbol name (calculated operation) ∧
    inputs = [first, second] ∧
    first.value.after trace = (.ok left, between) ∧
    second.value.after between = (.ok right, later) ∧
    left.type.arithmetic? = some (.host serial) ∧
    HostArithmetic.calculate serial operation left right = .ok value

/-- The declared output of an operator admits what it answers, unless it forwards that or leaves it
to a host. -/
def Covers (operator : Operator) : Prop :=
  ∀ inputs trace value later, (operator.evaluate inputs).after trace = (.ok value, later) →
    operator.header.output.accepts value.type = true ∨
      Forwards operator inputs trace value later ∨ Delegates operator inputs trace value later

theorem Covers.of_admits {operator : Operator} {slot : ValueType}
    (consults : ∀ inputs, Run.Consults .all inputs (Value.Domain.all.Admits slot)
      (operator.evaluate inputs))
    (declared : operator.header.output = slot) : Covers operator := by
  intro inputs trace value later ended
  rw [declared]
  exact .inl ((consults inputs).promised ended).2

theorem Covers.of_any {operator : Operator}
    (declared : operator.header.output = .placeholder .any) : Covers operator := by
  intro inputs trace value later ended
  rw [declared]
  exact .inl rfl

/-- The arithmetic of integers and doubles answers with a number of the type of the first input. -/
theorem arithmetic_covers {pattern : RenderPattern} {symbol name : String}
    {operation : ArithmeticOperation} :
    Covers ((arithmeticFamily pattern).safe symbol name (calculated operation)) := by
  intro inputs trace value later ended
  obtain ⟨_, _, checked, computed⟩ := Run.bind_eq_ok ended
  obtain ⟨left, between, leftRead, computed⟩ := Run.bind_eq_ok computed
  obtain ⟨right, last, rightRead, dispatched⟩ := Run.bind_eq_ok computed
  obtain ⟨lengths, rfl⟩ := Slots.checkArity_eq_ok checked
  obtain ⟨first, second, rfl⟩ := List.length_eq_two.mp lengths
  obtain ⟨input, found, leftYields, admits⟩ := Slots.value_eq_ok leftRead
  obtain ⟨other, found', rightYields, -⟩ := Slots.value_eq_ok rightRead
  obtain rfl : first = input := Option.some.inj found
  obtain rfl : second = other := Option.some.inj found'
  obtain ⟨calculated, rfl⟩ : Category.number.calculate operation left right = .ok value ∧
      last = later := Prod.ext_iff.mp dispatched
  rcases Category.calculate_cases calculated with ⟨-, typed⟩ | ⟨serial, declares, answered⟩
  · have accepted : (ValueType.placeholder .number).accepts value.type = true :=
      typed ▸ admits _ rfl
    exact .inl accepted
  · exact .inr (.inr ⟨pattern, symbol, name, operation, first, second, left, right, between, serial,
      rfl, rfl, leftYields, rightYields, declares, answered⟩)

theorem notEquals_covers : Covers notEquals := by
  intro inputs trace value later ended
  obtain ⟨answers, between, inner, outer⟩ := Run.bind_eq_ok ended
  have negated : Run.Consults .all (answers.map Variable.constant)
      (Value.Domain.all.Admits Template.logicalUnary.output)
      (negation.evaluate (answers.map Variable.constant)) :=
    read_consults fun _ => ⟨rfl, rfl⟩
  exact .inl (negated.promised outer).2

theorem orEqual_covers {symbol name strictSymbol strictName : String} {wanted : Ordering} :
    Covers (orEqual symbol name (strictOrder strictSymbol strictName wanted)) := by
  intro inputs trace value later ended
  obtain ⟨answers, between, inner, outer⟩ := Run.bind_eq_ok ended
  obtain _ | ⟨_, _ | ⟨⟨before, after, compared⟩, _ | _⟩⟩ := Operator.evaluateAll_eq_ok inner
  -- the disjunction may forward its second input, but that is the answer of the comparison
  have comparison := (strictOrder_consults.promised compared).2
  rcases disjunction_forwards outer with accepted | forwarded
  · exact .inl accepted
  · obtain ⟨first, second, truth, last, same, -, -, yields⟩ := forwarded
    cases same
    cases yields
    exact .inl comparison

/-- The declared output of a built-in operator admits the type of any answer, but for what
conjunction and disjunction forward and what arithmetic leaves to a host. -/
theorem builtin_covers {operator : Operator} (member : operator ∈ builtins) : Covers operator := by
  refine builtins_cases member ?conjunction ?disjunction ?negation ?arithmetic ?modulus ?onInteger
    ?onIntegers ?equals ?strictOrder ?stringLength ?concatenation ?displayName ?rounding
    ?listLength ?element ?choice ?identity ?notEquals ?orEqual
  case conjunction => exact fun _ _ _ _ ended => (conjunction_forwards ended).imp_right .inl
  case disjunction => exact fun _ _ _ _ ended => (disjunction_forwards ended).imp_right .inl
  case negation => exact .of_admits (fun _ => read_consults fun _ => ⟨rfl, rfl⟩) rfl
  case arithmetic =>
    intro pattern symbol name operation
    exact arithmetic_covers
  case modulus => exact .of_admits (fun _ => modulus_consults) rfl
  case onInteger =>
    intro kind pattern symbol name function
    exact .of_admits (fun _ => read_consults fun _ => ⟨rfl, rfl⟩) rfl
  case onIntegers =>
    intro symbol name function
    exact .of_admits (fun _ => read_read_consults fun _ _ => ⟨rfl, rfl⟩) rfl
  case equals => exact .of_admits (fun _ => equals_consults) rfl
  case strictOrder =>
    intro symbol name wanted
    exact .of_admits (fun _ => strictOrder_consults) rfl
  case stringLength => exact .of_admits (fun _ => read_consults fun _ => ⟨rfl, rfl⟩) rfl
  case concatenation => exact .of_admits (fun _ => read_read_consults fun _ _ => ⟨rfl, rfl⟩) rfl
  case displayName => exact .of_admits (fun _ => displayName_consults) rfl
  case rounding =>
    intro symbol name function
    exact .of_admits (fun _ => read_consults fun _ => ⟨rfl, rfl⟩) rfl
  case listLength => exact .of_admits (fun _ => read_consults fun _ => ⟨rfl, rfl⟩) rfl
  case element => exact .of_any rfl
  case choice => exact .of_any rfl
  case identity => exact .of_any rfl
  case notEquals => exact fun _ _ => notEquals_covers
  case orEqual => exact fun _ _ _ _ _ _ _ _ => orEqual_covers

/-- The declared output of every built-in operator admits every answer. -/
def OutputsCover : Prop :=
  ∀ operator ∈ builtins, ∀ inputs trace value later,
    (operator.evaluate inputs).after trace = (.ok value, later) →
      operator.header.output.accepts value.type = true

end

theorem output_covers_sum :
    ((addition.evaluate [.constant (.integer 4), .constant (.integer 3)]).after .empty).1 =
        .ok (.integer 7) ∧
      addition.header.output.accepts (Value.integer 7).type = true := by
  have member : addition ∈ builtins := by simp [builtins, arithmetic]
  have ended : (addition.evaluate [.constant (.integer 4), .constant (.integer 3)]).after .empty =
      (.ok (.integer 7), .empty) := rfl
  refine ⟨congrArg Prod.fst ended, ?_⟩
  rcases builtin_covers member _ _ _ _ ended with accepted | forwarded | delegated
  · exact accepted
  · obtain ⟨_, _, _, _, _, ⟨same, _⟩ | ⟨same, _⟩, _⟩ := forwarded
    · exact absurd (congrArg Operator.uniqueName same) (by decide)
    · exact absurd (congrArg Operator.uniqueName same) (by decide)
  · obtain ⟨_, _, _, _, _, _, _, _, _, _, -, ⟨⟩, ⟨⟩, -, ⟨⟩, -⟩ := delegated

/-- Words: objects of a host that are declared to be numbers, and whose arithmetic answers with a
string. -/
@[reducible]
def words : HostArithmetic where
  calculate _ _ left right :=
    match left, right with
    | .object left, .object right => .ok (.string (left.name ++ right.name))
    | left, right => .error (Arithmetic.mismatch left right)
  compare _ left right := .error (Arithmetic.mismatch left right)

/-- A word. -/
def word (name : String) : Value :=
  .object { type := .host { serial := 0, id := "word", kind := .numeric (.host 0) }, name }

/-- A conjunction of a truth value and an integer answers with the integer, and the sum of two words
is a string. -/
theorem outputs_uncovered : ¬ @OutputsCover HostArithmetic.absent ∧ ¬ @OutputsCover words := by
  constructor
  · intro covers
    have member : conjunction ∈ builtins := by simp [builtins, logical]
    have ended : (conjunction.evaluate [.constant (.boolean true), .constant (.integer 5)]).after
        .empty = (.ok (.integer 5), .empty) := rfl
    have accepted : ValueType.boolean.accepts .integer = true :=
      covers conjunction member _ _ _ _ ended
    cases accepted
  · intro covers
    have member : @addition words ∈ @builtins words := by simp [builtins, arithmetic]
    have ended : ((@addition words).evaluate [.constant (word "sea"),
        .constant (word "side")]).after .empty = (.ok (.string "seaside"), .empty) := rfl
    have accepted : (ValueType.placeholder .number).accepts .string = true :=
      covers _ member _ _ _ _ ended
    cases accepted

end Catalogue

end Dataflow

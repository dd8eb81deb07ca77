import Dataflow.Proofs.Catalogue.Sound
import Dataflow.Proofs.Graph.Declared

/-!
# Static and dynamic checks

A built-in operator meets the types of its inputs twice: when a wiring is checked, and when it is
evaluated. On constants that are no host objects, whatever passes the check is not rejected by the
evaluation. Six operators evaluate more than their checks let pass, since they skip inputs or
compare values of any two types. All others reject exactly what their checks reject.
-/

namespace Dataflow

variable {α β : Type}

/-- The failures by which an operator rejects its inputs, for their number or for their types. -/
def EvaluationError.Rejection : EvaluationError → Prop
  | wrongArity _ _ _ | wrongType _ _ _ _ | typeMismatch _ _ => True
  | divisionByZero | indexOutOfBounds _ _ | custom _ => False

/-- Whether a computation has ended with a rejection of its inputs. -/
def Outcome.IsRejection (outcome : Outcome EvaluationError α) : Prop :=
  ∃ cause, outcome = .error cause ∧ cause.Rejection

/-- Literals, and lists in memory, whatever they hold. -/
inductive Value.Stored : Value → Prop
  | literal {value : Value} : value.isLiteral = true → Stored value
  | list (handle : Nat) (elementType : ValueType) (items : List Value) :
      Stored (.list (.ofList handle elementType items))

theorem Value.Stored.not_object {value : Value} (stored : value.Stored) (host : HostObject) :
    value ≠ .object host := by
  rintro rfl
  cases stored with
  | literal literal => cases literal

theorem Value.Stored.exists_ofList {value : Value} {view : ListView Value} (stored : value.Stored)
    (listed : value.list? = some view) :
    ∃ handle elementType items, view = .ofList handle elementType items := by
  cases stored with
  | literal literal =>
      cases value with
      | list view => cases literal
      | _ => cases listed
  | list handle elementType items =>
      cases listed
      exact ⟨handle, elementType, items, rfl⟩

/-- A run that ends with a rejection if its inputs are not acceptable, and never otherwise. -/
def Run.RejectsUnless (acceptable : Prop) (run : Evaluation α) : Prop :=
  ∀ trace, (run.after trace).1.IsRejection ↔ ¬ acceptable

section Outcomes

@[simp] theorem Outcome.not_isRejection_ok (answer : α) : ¬ (ok answer).IsRejection := by
  rintro ⟨cause, ⟨⟩, -⟩

@[simp] theorem Outcome.not_isRejection_fault (reason : DispatchFault) :
    ¬ (fault reason : Outcome EvaluationError α).IsRejection := by
  rintro ⟨cause, ⟨⟩, -⟩

@[simp] theorem Outcome.isRejection_error {cause : EvaluationError} :
    (error cause : Outcome EvaluationError α).IsRejection ↔ cause.Rejection := by
  constructor
  · rintro ⟨_, ⟨⟩, rejection⟩
    exact rejection
  · exact fun rejection => ⟨cause, rfl, rejection⟩

end Outcomes

namespace Run.RejectsUnless

variable {acceptable acceptable' : Prop} {run : Evaluation α} {next : α → Evaluation β}

theorem congr (rejects : run.RejectsUnless acceptable) (same : acceptable ↔ acceptable') :
    run.RejectsUnless acceptable' :=
  fun trace => (rejects trace).trans (not_congr same)

theorem ofOutcome {outcome : Outcome EvaluationError α}
    (rejects : outcome.IsRejection ↔ ¬ acceptable) :
    (Run.ofOutcome outcome).RejectsUnless acceptable :=
  fun _ => rejects

theorem pure (answer : α) : (Pure.pure answer : Evaluation α).RejectsUnless True :=
  ofOutcome (by simp)

theorem fail {cause : EvaluationError} (rejection : cause.Rejection) (refused : ¬ acceptable) :
    (Run.fail cause : Evaluation α).RejectsUnless acceptable :=
  ofOutcome (by simp [rejection, refused])

theorem fail_residual {cause : EvaluationError} (residual : ¬ cause.Rejection) :
    (Run.fail cause : Evaluation α).RejectsUnless True :=
  ofOutcome (by simp [residual])

/-- What follows a run that may reject its inputs does not reject anything itself. -/
theorem bind (first : run.RejectsUnless acceptable)
    (second : ∀ answer, (next answer).RejectsUnless True) :
    (run >>= next).RejectsUnless acceptable := by
  intro trace
  have ended := first trace
  rw [after_bind]
  generalize run.after trace = finish at ended
  obtain ⟨outcome, later⟩ := finish
  cases outcome with
  | ok answer =>
      rw [← ended]
      simpa using second answer later
  | error cause => simpa using ended
  | fault reason => simpa using ended

/-- A run that rejects its inputs stops what follows. -/
theorem stop (first : run.RejectsUnless False) (refused : ¬ acceptable) :
    (run >>= next).RejectsUnless acceptable := by
  intro trace
  obtain ⟨cause, ended, rejection⟩ := (first trace).mpr not_false
  refine iff_of_true ⟨cause, ?_, rejection⟩ refused
  rw [after_bind]
  generalize run.after trace = finish at ended
  obtain ⟨outcome, later⟩ := finish
  cases ended
  rfl

/-- A run that always answers leaves the rejection to what follows. -/
theorem of_answers (answers : ∀ trace, ∃ answer later, run.after trace = (.ok answer, later) ∧
    (next answer).RejectsUnless acceptable) : (run >>= next).RejectsUnless acceptable := by
  intro trace
  obtain ⟨answer, later, ended, rejects⟩ := answers trace
  rw [after_bind, ended]
  exact rejects later

end Run.RejectsUnless

namespace Slots

variable {header : Header} {values : List Value} {index : Nat} {value : Value}
  {expected : ValueType} {acceptable : Prop}

/-- The inputs of an operator that are constants. -/
def ofValues (header : Header) (values : List Value) : Slots :=
  ⟨header, values.map .constant⟩

theorem checkArity_ofValues (wrong : values.length ≠ header.arity) :
    (ofValues header values).checkArity = .fail (ofValues header values).arityError :=
  if_neg (by simpa [ofValues] using wrong)

theorem unchecked_ofValues (found : values[index]? = some value) :
    (ofValues header values).unchecked index = pure value := by
  simp only [ofValues, unchecked, List.getElem?_map, found, Option.map_some, Variable.constant]

theorem value_ofValues (found : values[index]? = some value)
    (declared : header.inputs[index]? = some expected) :
    (ofValues header values).value index =
      if expected.accepts value.type = true then pure value
      else .fail ((ofValues header values).typeError index expected value) := by
  rw [Slots.value, unchecked_ofValues found, pure_bind]
  simp only [admitted, ofValues, declared]
  split <;> rfl

/-- A slot rejects constants whose type it does not accept. -/
theorem value_rejects {next : Value → Evaluation β} (found : values[index]? = some value)
    (declared : header.inputs[index]? = some expected)
    (rest : expected.accepts value.type = true → (next value).RejectsUnless acceptable) :
    ((ofValues header values).value index >>= next).RejectsUnless
      (expected.accepts value.type = true ∧ acceptable) := by
  rw [value_ofValues found declared]
  by_cases accepted : expected.accepts value.type = true
  · rw [if_pos accepted, pure_bind]
    exact (rest accepted).congr (by simp [accepted])
  · rw [if_neg accepted, Run.fail_bind]
    exact .fail trivial fun both => accepted both.1

/-- Reading a payload rejects constants whose type is not the one that carries it. -/
theorem read_rejects {payload? : Value → Option α} {next : α → Evaluation β}
    (found : values[index]? = some value) (declared : header.inputs[index]? = some expected)
    (kind : Value.Payload expected payload?)
    (stored : value.Stored)
    (rest : ∀ payload, payload? value = some payload → (next payload).RejectsUnless acceptable) :
    ((ofValues header values).read index expected payload? >>= next).RejectsUnless
      (expected.accepts value.type = true ∧ acceptable) := by
  rw [Slots.read, bind_assoc]
  refine value_rejects found declared fun accepted => ?_
  have typed := ValueType.accepts_of_isConcrete kind.isConcrete accepted
  obtain ⟨payload, present⟩ :=
    Option.ne_none_iff_exists'.mp (kind.carried typed stored.not_object)
  simp only [Slots.payload, present]
  exact rest payload present

end Slots

section Dispatch

variable {left right : Value} {arithmetic : Arithmetic}

theorem Arithmetic.calculate_rejects [HostArithmetic] (operation : ArithmeticOperation)
    (conventional : ∀ serial, arithmetic ≠ .host serial) :
    (Outcome.ofExcept (arithmetic.calculate operation left right)).IsRejection ↔
      ¬ arithmetic.Serves left right := by
  rcases Arithmetic.calculate_conventional operation left right conventional with
    ⟨serves, ⟨answer, done, -⟩ | done⟩ | ⟨unserved, done⟩
  · rw [done]
    exact iff_of_false (Outcome.not_isRejection_ok _) (not_not_intro serves)
  · rw [done]
    exact iff_of_false Outcome.isRejection_error.mp (not_not_intro serves)
  · rw [done]
    exact iff_of_true (Outcome.isRejection_error.mpr trivial) unserved

theorem Arithmetic.compare_rejects [HostArithmetic]
    (conventional : ∀ serial, arithmetic ≠ .host serial) :
    (Outcome.ofExcept (arithmetic.compare left right)).IsRejection ↔
      ¬ arithmetic.Serves left right := by
  rcases Arithmetic.compare_conventional left right conventional with
    ⟨serves, order?, done⟩ | ⟨unserved, done⟩
  · rw [done]
    exact iff_of_false (Outcome.not_isRejection_ok _) (not_not_intro serves)
  · rw [done]
    exact iff_of_true (Outcome.isRejection_error.mpr trivial) unserved

/-- The arithmetic of a number that is no host object serves all numbers of its type. -/
theorem Category.arithmeticOf_stored (leftStored : left.Stored) (rightStored : right.Stored)
    (number : (ValueType.placeholder .number).accepts left.type = true) :
    ∃ arithmetic, Category.number.arithmeticOf left = .ok arithmetic ∧
      (∀ serial, arithmetic ≠ .host serial) ∧
      (arithmetic.Serves left right ↔ left.type = right.type) := by
  cases left with
  | integer word =>
      refine ⟨.integer, rfl, fun _ => by simp, ?_⟩
      cases right with
      | object host => exact absurd rfl (rightStored.not_object host)
      | _ => simp [Arithmetic.Serves, Value.type]
  | double double =>
      refine ⟨.double, rfl, fun _ => by simp, ?_⟩
      cases right with
      | object host => exact absurd rfl (rightStored.not_object host)
      | _ => simp [Arithmetic.Serves, Value.type]
  | object host => exact absurd rfl (leftStored.not_object host)
  | _ => cases number

theorem Category.calculate_rejects [HostArithmetic] (operation : ArithmeticOperation)
    (leftStored : left.Stored) (rightStored : right.Stored)
    (number : (ValueType.placeholder .number).accepts left.type = true) :
    (Category.number.calculate operation left right).IsRejection ↔ ¬ left.type = right.type := by
  obtain ⟨arithmetic, found, conventional, serves⟩ :=
    arithmeticOf_stored leftStored rightStored number
  rw [calculate, found, Outcome.ok_bind, Arithmetic.calculate_rejects operation conventional,
    serves]

theorem Category.compare_rejects [HostArithmetic] (leftStored : left.Stored)
    (rightStored : right.Stored)
    (number : (ValueType.placeholder .number).accepts left.type = true) :
    (Category.number.compare left right).IsRejection ↔ ¬ left.type = right.type := by
  obtain ⟨arithmetic, found, conventional, serves⟩ :=
    arithmeticOf_stored leftStored rightStored number
  rw [compare, found, Outcome.ok_bind, Arithmetic.compare_rejects conventional, serves]

end Dispatch

namespace Catalogue

variable {template : Template} {symbol name : String} {compute : Slots → Evaluation Value}
  {values : List Value} {acceptable : Prop} {operator : Operator}

/-- The constants that an operator is given are as many as its slots, and the slots accept them. -/
def Accepted (slots : List ValueType) (values : List Value) : Prop :=
  List.Forall₂ (fun slot type => ValueType.accepts slot type = true) slots (values.map Value.type)

theorem accepted_nil : Accepted [] [] ↔ True :=
  iff_true_intro .nil

theorem accepted_cons {slot : ValueType} {slots : List ValueType} {value : Value} :
    Accepted (slot :: slots) (value :: values) ↔
      slot.accepts value.type = true ∧ Accepted slots values :=
  List.forall₂_cons

theorem Accepted.length_eq {slots : List ValueType} (accepted : Accepted slots values) :
    values.length = slots.length := by
  simpa using (List.Forall₂.length_eq accepted).symm

/-- Operators that run on the right number of inputs only. -/
theorem safe_rejects (lengths : acceptable → values.length = template.inputs.length)
    (computes : values.length = template.inputs.length →
      (compute (.ofValues (template.safe symbol name compute).header values)).RejectsUnless
        acceptable) :
    ((template.safe symbol name compute).evaluate (values.map .constant)).RejectsUnless
      acceptable := by
  by_cases count : values.length = template.inputs.length
  · rw [safe_evaluate (by simpa using count)]
    exact computes count
  · let slots := Slots.ofValues (template.safe symbol name compute).header values
    have refused : slots.checkArity = .fail slots.arityError := Slots.checkArity_ofValues count
    change (slots.checkArity >>= fun _ => compute slots).RejectsUnless acceptable
    rw [refused, Run.fail_bind]
    exact .fail trivial fun accepted => count (lengths accepted)

/-- Operators that read one payload. -/
theorem read_rejects {α : Type} {expected : ValueType} {payload? : Value → Option α}
    {change : α → Value} (slots : template.inputs = [expected])
    (kind : Value.Payload expected payload?)
    (stored : ∀ value ∈ values, value.Stored) :
    ((template.safe symbol name fun slots => do
      let payload ← slots.read 0 expected payload?
      pure (change payload)).evaluate (values.map .constant)).RejectsUnless
        (Accepted template.inputs values) := by
  refine safe_rejects Accepted.length_eq fun count => ?_
  rw [slots] at count ⊢
  obtain ⟨first, rfl⟩ := List.length_eq_one_iff.mp count
  simp only [accepted_cons, accepted_nil]
  exact Slots.read_rejects rfl (by exact congrArg (·[0]?) slots) kind
    (stored first (by simp)) fun _ _ => .pure _

/-- Operators that read two payloads of one kind. -/
theorem read_read_rejects {α : Type} {expected : ValueType} {payload? : Value → Option α}
    {combine : α → α → Value} (slots : template.inputs = [expected, expected])
    (kind : Value.Payload expected payload?)
    (stored : ∀ value ∈ values, value.Stored) :
    ((template.safe symbol name fun slots => do
      let left ← slots.read 0 expected payload?
      let right ← slots.read 1 expected payload?
      pure (combine left right)).evaluate (values.map .constant)).RejectsUnless
        (Accepted template.inputs values) := by
  refine safe_rejects Accepted.length_eq fun count => ?_
  rw [slots] at count ⊢
  obtain ⟨first, second, rfl⟩ := List.length_eq_two.mp count
  simp only [accepted_cons, accepted_nil]
  refine Slots.read_rejects rfl (by exact congrArg (·[0]?) slots) kind
    (stored first (by simp)) fun _ _ => ?_
  exact Slots.read_rejects rfl (by exact congrArg (·[1]?) slots) kind
    (stored second (by simp)) fun _ _ => .pure _

/-- Operators that read two numbers of one type. -/
theorem numbers_reject {combine : Value → Value → Evaluation Value}
    (slots : template.inputs = [.placeholder .number, .placeholder .number])
    (combines : ∀ left ∈ values, ∀ right ∈ values,
      (ValueType.placeholder .number).accepts left.type = true →
      (ValueType.placeholder .number).accepts right.type = true →
      (combine left right).RejectsUnless (left.type = right.type)) :
    ((template.safe symbol name fun slots => do
      let left ← slots.value 0
      let right ← slots.value 1
      combine left right).evaluate (values.map .constant)).RejectsUnless
        (Accepted template.inputs values ∧
          ∀ type ∈ (values.map Value.type).tail, (values.map Value.type).head? = some type) := by
  refine safe_rejects (fun acceptable => acceptable.1.length_eq) fun count => ?_
  rw [slots] at count ⊢
  obtain ⟨first, second, rfl⟩ := List.length_eq_two.mp count
  simp only [accepted_cons, accepted_nil, and_true, List.map_cons, List.map_nil, List.tail_cons,
    List.head?_cons, List.forall_mem_singleton, Option.some.injEq, and_assoc]
  refine Slots.value_rejects rfl (by exact congrArg (·[0]?) slots) fun left => ?_
  refine Slots.value_rejects rfl (by exact congrArg (·[1]?) slots) fun right => ?_
  exact combines first (by simp) second (by simp) left right

theorem arithmetic_rejects [HostArithmetic] {pattern : RenderPattern}
    {operation : ArithmeticOperation} (stored : ∀ value ∈ values, value.Stored) :
    (((arithmeticFamily pattern).safe symbol name (calculated operation)).evaluate
      (values.map .constant)).RejectsUnless
        (Accepted (arithmeticFamily pattern).inputs values ∧
          ∀ type ∈ (values.map Value.type).tail, (values.map Value.type).head? = some type) :=
  numbers_reject rfl fun left leftMember right rightMember number _ =>
    .ofOutcome (Category.calculate_rejects operation (stored left leftMember)
      (stored right rightMember) number)

theorem strictOrder_rejects [HostArithmetic] {wanted : Ordering}
    (stored : ∀ value ∈ values, value.Stored) :
    ((strictOrder symbol name wanted).evaluate (values.map .constant)).RejectsUnless
      (Accepted Template.comparison.inputs values ∧
        ∀ type ∈ (values.map Value.type).tail, (values.map Value.type).head? = some type) :=
  numbers_reject rfl fun left leftMember right rightMember number _ =>
    .bind (.ofOutcome (Category.compare_rejects (stored left leftMember)
      (stored right rightMember) number)) fun _ => .pure _

/-- There are no display names among values that are no host objects. -/
theorem displayName_rejects (stored : ∀ value ∈ values, value.Stored) :
    (displayName.evaluate (values.map .constant)).RejectsUnless
      (Accepted [.placeholder .named] values) := by
  refine safe_rejects Accepted.length_eq fun count => ?_
  obtain ⟨first, rfl⟩ := List.length_eq_one_iff.mp count
  rw [accepted_cons, accepted_nil]
  refine Slots.value_rejects rfl rfl fun accepted => ?_
  cases first with
  | object host => exact absurd rfl ((stored _ List.mem_cons_self).not_object host)
  | _ => cases accepted

theorem identity_rejects :
    (identity.evaluate (values.map .constant)).RejectsUnless
      (Accepted [.placeholder .any] values) := by
  refine safe_rejects Accepted.length_eq fun count => ?_
  obtain ⟨first, rfl⟩ := List.length_eq_one_iff.mp count
  exact Run.RejectsUnless.congr (.pure first) (by simp [accepted_cons, accepted_nil])

theorem elementAt_ofList (handle : Nat) (elementType : ValueType) (items : List Value)
    (index : Int32) :
    (elementAt (.ofList handle elementType items) index).RejectsUnless True := by
  rw [elementAt]
  split
  · refine .of_answers fun trace => ⟨(), _, rfl, .ofOutcome ?_⟩
    simp only [ListView.ofList]
    split
    · exact iff_of_false (Outcome.not_isRejection_ok _) (not_not_intro trivial)
    · exact iff_of_false (Outcome.isRejection_error.not.mpr id) (not_not_intro trivial)
  · exact .ofOutcome (iff_of_false (Outcome.isRejection_error.not.mpr id) (not_not_intro trivial))

/-- What a list in memory holds does not matter, since any element will do. -/
theorem element_rejects (stored : ∀ value ∈ values, value.Stored) :
    (element.evaluate (values.map .constant)).RejectsUnless
      (Accepted [.list, .integer] values) := by
  refine safe_rejects Accepted.length_eq fun count => ?_
  obtain ⟨first, second, rfl⟩ := List.length_eq_two.mp count
  rw [accepted_cons, accepted_cons, accepted_nil]
  have listed := stored first (by simp)
  refine Slots.read_rejects rfl rfl .list listed fun view found => ?_
  refine Slots.read_rejects rfl rfl .integer (stored second (by simp)) fun index _ => ?_
  obtain ⟨handle, elementType, items, rfl⟩ := listed.exists_ofList found
  exact elementAt_ofList handle elementType items index

/-- Equality takes any two values. -/
theorem equals_rejects :
    (equals.evaluate (values.map .constant)).RejectsUnless
      (Accepted [.placeholder .any, .placeholder .any] values) := by
  refine safe_rejects Accepted.length_eq fun count => ?_
  obtain ⟨first, second, rfl⟩ := List.length_eq_two.mp count
  have answers : ∀ trace, ((.boolean <$> Run.ofPulling (first.equal second) :
      Evaluation Value).after trace).1 = .ok (.boolean (first.equal second).answer) := fun _ => rfl
  refine fun trace => ?_
  change ((.boolean <$> Run.ofPulling (first.equal second) : Evaluation Value).after
    trace).1.IsRejection ↔ _
  rw [answers]
  simp [accepted_cons, accepted_nil]

/-- The dividend is not always read, and then its type does not matter. -/
theorem modulus_tolerates (stored : ∀ value ∈ values, value.Stored)
    (accepted : Accepted [.integer, .integer] values) :
    (modulus.evaluate (values.map .constant)).RejectsUnless True := by
  refine safe_rejects (fun _ => accepted.length_eq) fun count => ?_
  obtain ⟨first, second, rfl⟩ := List.length_eq_two.mp count
  obtain ⟨firstAccepted, secondAccepted, -⟩ :
      ValueType.integer.accepts first.type = true ∧ ValueType.integer.accepts second.type = true ∧
        True := by
    simpa [accepted_cons, accepted_nil] using accepted
  refine (Slots.read_rejects rfl rfl .integer (stored second (by simp))
    fun divisor _ => ?_).congr (and_iff_right secondAccepted)
  split
  · exact .fail_residual id
  split
  · exact .pure _
  · exact (Slots.read_rejects rfl rfl .integer (stored first (by simp))
      fun dividend _ => .pure _).congr (and_iff_right firstAccepted)

/-- A truth value in memory. -/
theorem exists_boolean {value : Value} (stored : value.Stored)
    (accepted : ValueType.boolean.accepts value.type = true) : ∃ truth, value = .boolean truth := by
  cases value with
  | boolean truth => exact ⟨truth, rfl⟩
  | object host => exact absurd rfl (stored.not_object host)
  | _ => cases accepted

theorem conjunction_answers (truth : Bool) (second : Value) :
    (conjunction.evaluate [.constant (Value.boolean truth), .constant second]).RejectsUnless
      True := by
  cases truth with
  | true => exact .pure second
  | false => exact .pure (Value.boolean false)

theorem disjunction_answers (truth : Bool) (second : Value) :
    (disjunction.evaluate [.constant (.boolean truth), .constant second]).RejectsUnless True := by
  cases truth with
  | true => exact .pure (Value.boolean true)
  | false => exact .pure second

theorem choice_answers (truth : Bool) (second third : Value) :
    (choice.evaluate [.constant (.boolean truth), .constant second,
      .constant third]).RejectsUnless True := by
  cases truth with
  | true => exact .pure second
  | false => exact .pure third

theorem negation_answers (truth : Bool) :
    (negation.evaluate [.constant (.boolean truth)]).RejectsUnless True :=
  .pure (Value.boolean !truth)

theorem equals_answers (first second : Value) (trace : Trace) :
    ∃ truth later, (equals.evaluate [.constant first, .constant second]).after trace =
      (.ok (.boolean truth), later) :=
  ⟨_, _, rfl⟩

theorem notEquals_answers (first second : Value) :
    (notEquals.evaluate [.constant first, .constant second]).RejectsUnless True := by
  have parts : notEquals.evaluate [.constant first, .constant second] =
      equals.evaluate [.constant first, .constant second] >>= fun answer =>
        negation.evaluate [.constant answer] := by
    rw [notEquals, Operator.composition, Operator.evaluate]
    simp [Operator.evaluateAll]
  rw [parts]
  refine .of_answers fun trace => ?_
  obtain ⟨truth, later, ended⟩ := equals_answers first second trace
  exact ⟨_, later, ended, negation_answers truth⟩

/-- Both parts are evaluated, and so two numbers of different types are rejected even if the first
part is true. -/
theorem orEqual_rejects [HostArithmetic] {strictSymbol strictName : String} {wanted : Ordering}
    (stored : ∀ value ∈ values, value.Stored) :
    ((orEqual symbol name (strictOrder strictSymbol strictName wanted)).evaluate
      (values.map .constant)).RejectsUnless
        (Accepted Template.comparison.inputs values ∧
          ∀ type ∈ (values.map Value.type).tail, (values.map Value.type).head? = some type) := by
  have parts : ∀ inputs, (orEqual symbol name (strictOrder strictSymbol strictName wanted)).evaluate
      inputs = equals.evaluate inputs >>= fun answer =>
        (strictOrder strictSymbol strictName wanted).evaluate inputs >>= fun other =>
          disjunction.evaluate [.constant answer, .constant other] := by
    intro inputs
    rw [orEqual, Operator.composition, Operator.evaluate]
    simp [Operator.evaluateAll]
  rw [parts]
  by_cases count : values.length = 2
  · obtain ⟨first, second, rfl⟩ := List.length_eq_two.mp count
    refine .of_answers fun trace => ?_
    obtain ⟨truth, later, ended⟩ := equals_answers first second trace
    refine ⟨_, later, ended, ?_⟩
    exact .bind (strictOrder_rejects stored) fun other => disjunction_answers truth other
  · exact .stop (equals_rejects.congr (iff_false_intro fun accepted => count accepted.length_eq))
      fun acceptable => count acceptable.1.length_eq

/-- The strict comparison asks for more than the equality does. -/
theorem orEqual_checkTypes_iff [HostArithmetic] {strictSymbol strictName : String}
    {wanted : Ordering} :
    (orEqual symbol name (strictOrder strictSymbol strictName wanted)).checkTypes
        ((values.map Value.type).map some) = .ok () ↔
      Accepted Template.comparison.inputs values ∧
        ∀ type ∈ (values.map Value.type).tail, (values.map Value.type).head? = some type := by
  rw [orEqual, Operator.composition, Operator.composite_checkTypes_eq_ok_iff]
  constructor
  · rintro ⟨-, inners⟩
    exact TypeCheck.uniform_eq_ok_iff.mp (inners _ (List.mem_cons_of_mem _ List.mem_cons_self))
  · rintro ⟨accepted, same⟩
    refine ⟨TypeCheck.default_eq_ok_iff.mpr accepted, fun inner member => ?_⟩
    rcases List.mem_pair.mp member with rfl | rfl
    · obtain ⟨first, second, rfl⟩ := List.length_eq_two.mp accepted.length_eq
      refine TypeCheck.uniform_eq_ok_iff.mpr ⟨?_, same⟩
      exact .cons rfl (.cons rfl .nil)
    · exact TypeCheck.uniform_eq_ok_iff.mpr ⟨accepted, same⟩

/-- The operators that evaluate more than their checks let pass: they skip inputs, or take values of
two types. -/
def permissive : List Operator :=
  [conjunction, disjunction, modulus, equals, notEquals, choice]

/-- An operator does not reject what its check lets pass. Unless it is permissive, it rejects
everything else. -/
def Agrees (values : List Value) (operator : Operator) : Prop :=
  (operator.checkTypes ((values.map Value.type).map some) = .ok () →
    (operator.evaluate (values.map .constant)).RejectsUnless True) ∧
  (operator ∉ permissive → (operator.evaluate (values.map .constant)).RejectsUnless
    (operator.checkTypes ((values.map Value.type).map some) = .ok ()))

namespace Agrees

theorem of_iff (rejects : (operator.evaluate (values.map .constant)).RejectsUnless acceptable)
    (checked : operator.checkTypes ((values.map Value.type).map some) = .ok () ↔ acceptable) :
    Agrees values operator :=
  ⟨fun accepted => rejects.congr (iff_true_intro (checked.mp accepted)),
    fun _ => rejects.congr checked.symm⟩

theorem of_default {slots : List ValueType}
    (rejects : (operator.evaluate (values.map .constant)).RejectsUnless (Accepted slots values))
    (declared : operator.header.inputs = slots)
    (check : operator.checkTypes ((values.map Value.type).map some) =
      TypeCheck.default operator.header ((values.map Value.type).map some)) :
    Agrees values operator := by
  subst declared
  exact of_iff rejects (check ▸ TypeCheck.default_eq_ok_iff)

theorem of_uniform {slots : List ValueType}
    (rejects : (operator.evaluate (values.map .constant)).RejectsUnless
      (Accepted slots values ∧
        ∀ type ∈ (values.map Value.type).tail, (values.map Value.type).head? = some type))
    (declared : operator.header.inputs = slots)
    (check : operator.checkTypes ((values.map Value.type).map some) =
      TypeCheck.uniform operator.header ((values.map Value.type).map some)) :
    Agrees values operator := by
  subst declared
  exact of_iff rejects (check ▸ TypeCheck.uniform_eq_ok_iff)

theorem of_permissive (permits : operator ∈ permissive)
    (tolerates : operator.checkTypes ((values.map Value.type).map some) = .ok () →
      (operator.evaluate (values.map .constant)).RejectsUnless True) : Agrees values operator :=
  ⟨tolerates, fun strict => absurd permits strict⟩

end Agrees

/-- Constants that pass the check of a logical operator are two truth values. -/
theorem logical_accepted (stored : ∀ value ∈ values, value.Stored)
    (accepted : Accepted [.boolean, .boolean] values) :
    ∃ truth second, values = [.boolean truth, second] := by
  obtain ⟨first, second, rfl⟩ := List.length_eq_two.mp accepted.length_eq
  obtain ⟨truth, rfl⟩ := exists_boolean (stored first (by simp)) (accepted_cons.mp accepted).1
  exact ⟨truth, second, rfl⟩

theorem builtin_agrees [HostArithmetic] (member : operator ∈ builtins)
    (stored : ∀ value ∈ values, value.Stored) :
    Agrees values operator := by
  refine builtins_cases member ?conjunction ?disjunction ?negation ?arithmetic ?modulus ?onInteger
    ?onIntegers ?equals ?strictOrder ?stringLength ?concatenation ?displayName ?rounding
    ?listLength ?element ?choice ?identity ?notEquals ?orEqual
  case conjunction =>
    refine .of_permissive (by simp [permissive]) fun checked => ?_
    obtain ⟨truth, second, rfl⟩ := logical_accepted stored (TypeCheck.default_eq_ok_iff.mp checked)
    exact conjunction_answers truth second
  case disjunction =>
    refine .of_permissive (by simp [permissive]) fun checked => ?_
    obtain ⟨truth, second, rfl⟩ := logical_accepted stored (TypeCheck.default_eq_ok_iff.mp checked)
    exact disjunction_answers truth second
  case negation => exact .of_default (read_rejects rfl .boolean stored) rfl rfl
  case arithmetic =>
    intro pattern symbol name operation
    exact .of_uniform (arithmetic_rejects stored) rfl rfl
  case modulus =>
    refine .of_permissive (by simp [permissive]) fun checked => ?_
    exact modulus_tolerates stored (TypeCheck.default_eq_ok_iff.mp checked)
  case onInteger =>
    intro kind pattern symbol name function
    exact .of_default (read_rejects rfl .integer stored) rfl rfl
  case onIntegers =>
    intro symbol name function
    exact .of_default (read_read_rejects rfl .integer stored) rfl rfl
  case equals =>
    refine .of_permissive (by simp [permissive]) fun checked => ?_
    exact equals_rejects.congr (iff_true_intro (TypeCheck.uniform_eq_ok_iff.mp checked).1)
  case strictOrder =>
    intro symbol name wanted
    exact .of_uniform (strictOrder_rejects stored) rfl rfl
  case stringLength => exact .of_default (read_rejects rfl .string stored) rfl rfl
  case concatenation => exact .of_default (read_read_rejects rfl .string stored) rfl rfl
  case displayName => exact .of_default (displayName_rejects stored) rfl rfl
  case rounding =>
    intro symbol name function
    exact .of_default (read_rejects rfl .double stored) rfl rfl
  case listLength => exact .of_default (read_rejects rfl .list stored) rfl rfl
  case element => exact .of_default (element_rejects stored) rfl rfl
  case choice =>
    refine .of_permissive (by simp [permissive]) fun checked => ?_
    have accepted : Accepted [.boolean, .placeholder .any, .placeholder .any] values :=
      TypeCheck.default_eq_ok_iff.mp (TypeCheck.then_eq_ok_iff.mp checked).1
    obtain ⟨first, second, third, rfl⟩ := List.length_eq_three.mp accepted.length_eq
    obtain ⟨truth, rfl⟩ := exists_boolean (stored first (by simp)) (accepted_cons.mp accepted).1
    exact choice_answers truth second third
  case identity => exact .of_default identity_rejects rfl rfl
  case notEquals =>
    intro _ _
    refine .of_permissive (by simp [permissive]) fun checked => ?_
    have accepted : Accepted [.placeholder .any, .placeholder .any] values :=
      TypeCheck.default_eq_ok_iff.mp (Operator.composite_checkTypes_eq_ok_iff.mp checked).1
    obtain ⟨first, second, rfl⟩ := List.length_eq_two.mp accepted.length_eq
    exact notEquals_answers first second
  case orEqual =>
    intro symbol name strictSymbol strictName wanted _ _ _
    exact .of_iff (orEqual_rejects stored) orEqual_checkTypes_iff

theorem checkVariables_constants :
    operator.checkVariables (values.map .constant) =
      .ofExcept (operator.checkTypes ((values.map Value.type).map some)) := by
  apply Operator.checkVariables_declared
  rw [List.forall₂_map_left_iff, List.forall₂_map_right_iff]
  exact List.forall₂_same.mpr fun value _ => rfl

/-- Static and dynamic checks agree. On constants that are no host objects, however many, a wiring
that passes the check of a built-in operator is not rejected by the evaluation. Conversely, unless
the operator is permissive, a wiring that the evaluation does not reject passes the check. -/
theorem checks_agree [HostArithmetic] (member : operator ∈ builtins)
    (stored : ∀ value ∈ values, value.Stored) (start trace : Trace) :
    (((operator.checkVariables (values.map .constant)).after start).1 = .ok () →
      ¬ ((operator.evaluate (values.map .constant)).after trace).1.IsRejection) ∧
    (operator ∉ permissive →
      ¬ ((operator.evaluate (values.map .constant)).after trace).1.IsRejection →
        ((operator.checkVariables (values.map .constant)).after start).1 = .ok ()) := by
  obtain ⟨tolerates, rejects⟩ := builtin_agrees member stored
  have checked : ((operator.checkVariables (values.map .constant)).after start).1 = .ok () ↔
      operator.checkTypes ((values.map Value.type).map some) = .ok () := by
    rw [checkVariables_constants, Run.after_ofExcept]
    cases operator.checkTypes ((values.map Value.type).map some) <;> simp [Outcome.ofExcept]
  constructor
  · intro accepted
    exact (tolerates (checked.mp accepted) trace).not.mpr (not_not_intro trivial)
  · intro strict tolerated
    exact checked.mpr (not_not.mp ((rejects strict trace).not.mp tolerated))

/-- An index past the end of a list that does not even keep to its declared type: the check lets it
pass, and the evaluation fails without a rejection. -/
theorem checks_agree_pastEnd :
    let view := ListView.ofList 0 .integer [Value.string "seven"]
    let values := [Value.list view, .integer 1]
    ((element.checkVariables (values.map .constant)).after .empty).1 = .ok () ∧
      ((element.evaluate (values.map .constant)).after .empty).1 =
        .error (.indexOutOfBounds 1 1) ∧
      ¬ ((element.evaluate (values.map .constant)).after .empty).1.IsRejection := by
  intro view values
  have member : element ∈ builtins := by simp [builtins, lists]
  have stored : ∀ value ∈ values, value.Stored := by
    simp only [values, List.forall_mem_cons]
    exact ⟨.list 0 .integer _, .literal rfl, List.forall_mem_nil _⟩
  have strict : element ∉ permissive := fun permits =>
    absurd (List.mem_map_of_mem (f := (·.header.symbol)) permits) (by decide)
  have failed : ((element.evaluate (values.map .constant)).after .empty).1 =
    .error (.indexOutOfBounds 1 1) := rfl
  obtain ⟨tolerates, complete⟩ := checks_agree member stored .empty .empty
  have checked := complete strict (failed ▸ Outcome.isRejection_error.not.mpr id)
  exact ⟨checked, failed, tolerates checked⟩

end Catalogue

end Dataflow

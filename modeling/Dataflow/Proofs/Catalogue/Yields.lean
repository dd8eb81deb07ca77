import Dataflow.Catalogue
import Dataflow.Proofs.Discipline

/-!
# What the built-in operators yield

For each family of operators, the values that it yields on inputs of given types. Under a lenient
discipline any types will do, as long as their number is right; under a strict one the slots have to
admit them.
-/

namespace Dataflow

variable {discipline : Discipline}

section Dispatch

variable {leftType rightType : ValueType} {left right : Value}

/-- Conventional arithmetic answers with a number of the type of the operands. -/
theorem Arithmetic.calculate_meets [HostArithmetic] {arithmetic : Arithmetic}
    (operation : ArithmeticOperation) (conventional : ∀ serial, arithmetic ≠ .host serial)
    (serves : discipline.lenient ∨ arithmetic.Serves left right) :
    (Outcome.ofExcept (arithmetic.calculate operation left right)).Meets discipline.faults
      discipline.permits fun answer => answer.isLiteral = true ∧ answer.type = left.type := by
  rcases Arithmetic.calculate_conventional operation left right conventional with
    ⟨-, ⟨answer, done, literal⟩ | done⟩ | ⟨unserved, done⟩
  · rw [done]
    exact literal
  · rw [done]
    exact discipline.divisionByZero
  · rw [done]
    exact discipline.typeMismatch (serves.resolve_right unserved) _ _

theorem Arithmetic.compare_meets [HostArithmetic] {arithmetic : Arithmetic}
    (conventional : ∀ serial, arithmetic ≠ .host serial)
    (serves : discipline.lenient ∨ arithmetic.Serves left right) :
    (Outcome.ofExcept (arithmetic.compare left right)).Meets discipline.faults discipline.permits
      fun _ => True := by
  rcases Arithmetic.compare_conventional left right conventional with
    ⟨-, order?, done⟩ | ⟨unserved, done⟩
  · rw [done]
    trivial
  · rw [done]
    exact discipline.typeMismatch (serves.resolve_right unserved) _ _

theorem Category.assertMember_meets {invoked expected : Category} {type : ValueType}
    (faults : discipline.faults) :
    (invoked.assertMember expected type).Meets discipline.faults discipline.permits
      fun _ => True := by
  unfold assertMember
  split
  · exact faults
  split
  · exact trivial
  · exact faults

/-- The first operand finds conventional arithmetic, which serves both operands unless the
discipline is lenient. -/
theorem Category.arithmeticOf_meets
    (number : (ValueType.placeholder .number).accepts left.type = true)
    (leftFits : discipline.fits leftType left) (rightFits : discipline.fits rightType right)
    (alike : discipline.lenient ∨ left.type = right.type) :
    (Category.number.arithmeticOf left).Meets discipline.faults discipline.permits
      fun arithmetic => (∀ serial, arithmetic ≠ .host serial) ∧
        (discipline.lenient ∨ arithmetic.Serves left right) := by
  cases left with
  | integer word =>
      refine ⟨nofun, ?_⟩
      cases right with
      | integer other => exact .inr trivial
      | object host => exact .inl (discipline.object rightFits).1
      | _ => exact .inl (alike.resolve_right nofun)
  | double double =>
      refine ⟨nofun, ?_⟩
      cases right with
      | double other => exact .inr trivial
      | object host => exact .inl (discipline.object rightFits).1
      | _ => exact .inl (alike.resolve_right nofun)
  | object host =>
      obtain ⟨lenient, faults, conventional⟩ := discipline.object leftFits
      refine (assertMember_meets faults).bind fun _ _ => ?_
      split
      · rename_i arithmetic found
        exact ⟨fun serial same => conventional serial (same ▸ found), .inl lenient⟩
      · exact faults
  | _ => cases number

theorem Category.calculate_meets [HostArithmetic] (operation : ArithmeticOperation)
    (number : (ValueType.placeholder .number).accepts left.type = true)
    (leftFits : discipline.fits leftType left) (rightFits : discipline.fits rightType right)
    (alike : discipline.lenient ∨ left.type = right.type) :
    (Category.number.calculate operation left right).Meets discipline.faults discipline.permits
      (discipline.fits leftType) := by
  refine (arithmeticOf_meets number leftFits rightFits alike).bind fun _ found => ?_
  refine (Arithmetic.calculate_meets operation found.1 found.2).weaken fun answer literal => ?_
  exact discipline.retyped leftFits literal.1 literal.2

theorem Category.compare_meets [HostArithmetic]
    (number : (ValueType.placeholder .number).accepts left.type = true)
    (leftFits : discipline.fits leftType left) (rightFits : discipline.fits rightType right)
    (alike : discipline.lenient ∨ left.type = right.type) :
    (Category.number.compare left right).Meets discipline.faults discipline.permits
      fun _ => True :=
  (arithmeticOf_meets number leftFits rightFits alike).bind fun _ found =>
    Arithmetic.compare_meets found.1 found.2

theorem Category.displayName_meets
    (named : (ValueType.placeholder .named).accepts left.type = true)
    (fits : discipline.fits leftType left) :
    (Category.named.displayName left).Meets discipline.faults discipline.permits
      fun _ => True := by
  cases left with
  | object host =>
      obtain ⟨-, faults, -⟩ := discipline.object fits
      exact (assertMember_meets faults).bind fun _ _ => trivial
  | _ => cases named

end Dispatch

namespace Catalogue

variable {template : Template} {symbol name : String} {compute : Slots → Evaluation Value}
  {first second third output : ValueType}

theorem safe_evaluate {inputs : List Variable} (arity : inputs.length = template.inputs.length) :
    (template.safe symbol name compute).evaluate inputs =
      compute ⟨(template.safe symbol name compute).header, inputs⟩ :=
  (Primitive.evaluate_of_safe rfl inputs).trans (if_pos arity)

/-- Operators that change one payload into a literal. -/
theorem read_yields {α : Type} {expected : ValueType} {payload? : Value → Option α}
    {change : α → Value} (slots : template.inputs = [expected])
    (kind : Value.Payload expected payload?)
    (literal : ∀ payload, (change payload).isLiteral = true ∧
      (change payload).type = template.output)
    (admits : discipline.lenient ∨ expected.accepts first = true) :
    (template.safe symbol name fun slots => do
      let payload ← slots.read 0 expected payload?
      pure (change payload)).YieldsAt discipline [first] template.output := by
  intro inputs feeds
  obtain _ | ⟨meets, _ | _⟩ := feeds
  rw [safe_evaluate (by rw [slots]; rfl)]
  refine (Slots.read_meets rfl (by exact congrArg (·[0]?) slots) admits meets
    (fun _ fits => fits) kind).bind fun payload _ => ?_
  exact Discipline.meets_literal (literal payload).1 (literal payload).2

/-- Operators that combine two payloads of one kind into a literal. -/
theorem read_read_yields {α : Type} {expected : ValueType} {payload? : Value → Option α}
    {combine : α → α → Value} (slots : template.inputs = [expected, expected])
    (kind : Value.Payload expected payload?)
    (literal : ∀ left right, (combine left right).isLiteral = true ∧
      (combine left right).type = template.output)
    (firstAdmits : discipline.lenient ∨ expected.accepts first = true)
    (secondAdmits : discipline.lenient ∨ expected.accepts second = true) :
    (template.safe symbol name fun slots => do
      let left ← slots.read 0 expected payload?
      let right ← slots.read 1 expected payload?
      pure (combine left right)).YieldsAt discipline [first, second] template.output := by
  intro inputs feeds
  obtain _ | ⟨left, _ | ⟨right, _ | _⟩⟩ := feeds
  rw [safe_evaluate (by rw [slots]; rfl)]
  refine (Slots.read_meets rfl (by exact congrArg (·[0]?) slots) firstAdmits left
    (fun _ fits => fits) kind).bind fun payload _ => ?_
  refine (Slots.read_meets rfl (by exact congrArg (·[1]?) slots) secondAdmits right
    (fun _ fits => fits) kind).bind fun payload' _ => ?_
  exact Discipline.meets_literal (literal payload payload').1 (literal payload payload').2

theorem modulus_yields (firstAdmits : discipline.lenient ∨ ValueType.integer.accepts first = true)
    (secondAdmits : discipline.lenient ∨ ValueType.integer.accepts second = true) :
    modulus.YieldsAt discipline [first, second] .integer := by
  intro inputs feeds
  obtain _ | ⟨left, _ | ⟨right, _ | _⟩⟩ := feeds
  rw [modulus, safe_evaluate rfl]
  refine (Slots.read_meets rfl rfl secondAdmits right (fun _ fits => fits)
    .integer).bind fun divisor _ => ?_
  split
  · exact Run.Meets.fail discipline.divisionByZero
  split
  · exact Discipline.meets_literal rfl rfl
  · refine (Slots.read_meets rfl rfl firstAdmits left (fun _ fits => fits)
      .integer).bind fun dividend _ => ?_
    exact Discipline.meets_literal rfl rfl

/-- Operators that combine two values of one kind of number. -/
theorem numbers_yield {combine : Value → Value → Evaluation Value}
    (slots : template.inputs = [.placeholder .number, .placeholder .number])
    (firstAdmits : discipline.lenient ∨ (ValueType.placeholder .number).accepts first = true)
    (alike : discipline.lenient ∨ second = first)
    (combines : ∀ left right, discipline.fits first left → discipline.fits second right →
      (ValueType.placeholder .number).accepts left.type = true →
      discipline.lenient ∨ left.type = right.type →
      discipline.Meets (discipline.fits output) (combine left right)) :
    (template.safe symbol name fun slots => do
      let left ← slots.value 0
      let right ← slots.value 1
      combine left right).YieldsAt discipline [first, second] output := by
  intro inputs feeds
  obtain _ | ⟨left, _ | ⟨right, _ | _⟩⟩ := feeds
  rw [safe_evaluate (by rw [slots]; rfl)]
  refine (Slots.value_meets rfl (by exact congrArg (·[0]?) slots) firstAdmits left
    fun _ fits => fits).bind fun leftValue leftMet => ?_
  have secondAdmits : discipline.lenient ∨
      (ValueType.placeholder .number).accepts second = true := by
    rcases alike with lenient | rfl
    · exact .inl lenient
    · exact firstAdmits
  refine (Slots.value_meets rfl (by exact congrArg (·[1]?) slots) secondAdmits right
    fun _ fits => fits).bind fun rightValue rightMet => ?_
  refine combines leftValue rightValue leftMet.1 rightMet.1 leftMet.2 ?_
  rcases alike with lenient | rfl
  · exact .inl lenient
  · exact discipline.alike leftMet.1 rightMet.1

theorem arithmetic_yields [HostArithmetic] {pattern : RenderPattern}
    {operation : ArithmeticOperation}
    (firstAdmits : discipline.lenient ∨ (ValueType.placeholder .number).accepts first = true)
    (alike : discipline.lenient ∨ second = first) :
    ((arithmeticFamily pattern).safe symbol name (calculated operation)).YieldsAt discipline
      [first, second] first := by
  refine numbers_yield rfl firstAdmits alike fun left right leftFits rightFits number same => ?_
  exact Run.Meets.ofOutcome (Category.calculate_meets operation number leftFits rightFits same)

theorem strictOrder_yields [HostArithmetic] {wanted : Ordering}
    (firstAdmits : discipline.lenient ∨ (ValueType.placeholder .number).accepts first = true)
    (alike : discipline.lenient ∨ second = first) :
    (strictOrder symbol name wanted).YieldsAt discipline [first, second] .boolean := by
  refine numbers_yield rfl firstAdmits alike fun left right leftFits rightFits number same => ?_
  have compared := Category.compare_meets number leftFits rightFits same
  refine (Run.Meets.ofOutcome compared).bind fun order _ => ?_
  exact Discipline.meets_literal rfl rfl

/-- Equality admits inputs of any two types. -/
theorem equals_yields : equals.YieldsAt discipline [first, second] .boolean := by
  intro inputs feeds
  obtain _ | ⟨left, _ | ⟨right, _ | _⟩⟩ := feeds
  rw [equals, safe_evaluate rfl]
  refine (Slots.value_meets rfl rfl (.inr (ValueType.any_accepts first)) left
    fun _ fits => fits).bind fun leftValue _ => ?_
  refine (Slots.value_meets rfl rfl (.inr (ValueType.any_accepts second)) right
    fun _ fits => fits).bind fun rightValue _ => ?_
  simp only [← bind_pure_comp]
  refine (Run.Meets.ofPulling discipline.pull trivial).bind fun truth (_ : True) => ?_
  exact Discipline.meets_literal rfl rfl

theorem displayName_yields
    (admits : discipline.lenient ∨ (ValueType.placeholder .named).accepts first = true) :
    displayName.YieldsAt discipline [first] .string := by
  intro inputs feeds
  obtain _ | ⟨meets, _ | _⟩ := feeds
  rw [displayName, safe_evaluate rfl]
  refine (Slots.value_meets rfl rfl admits meets fun _ fits => fits).bind fun value met => ?_
  simp only [← bind_pure_comp]
  refine (Run.Meets.ofOutcome (Category.displayName_meets met.2 met.1)).bind fun text _ => ?_
  exact Discipline.meets_literal rfl rfl

theorem identity_yields : identity.YieldsAt discipline [first] first := by
  intro inputs feeds
  obtain _ | ⟨meets, _ | _⟩ := feeds
  rw [identity, safe_evaluate rfl]
  exact (Slots.value_meets rfl rfl (.inr (ValueType.any_accepts first)) meets
    fun _ fits => fits).weaken fun value met => met.1

/-- The second input of a conjunction is the answer, and so has to promise a boolean. -/
theorem conjunction_yields
    (admits : discipline.lenient ∨ ValueType.boolean.accepts first = true)
    (fits : ∀ value, discipline.fits second value → discipline.fits .boolean value) :
    conjunction.YieldsAt discipline [first, second] .boolean := by
  intro inputs feeds
  obtain _ | ⟨left, _ | ⟨right, _ | _⟩⟩ := feeds
  exact Slots.branch_meets rfl admits left (right.weaken fits) (Discipline.meets_literal rfl rfl)

theorem disjunction_yields
    (admits : discipline.lenient ∨ ValueType.boolean.accepts first = true)
    (fits : ∀ value, discipline.fits second value → discipline.fits .boolean value) :
    disjunction.YieldsAt discipline [first, second] .boolean := by
  intro inputs feeds
  obtain _ | ⟨left, _ | ⟨right, _ | _⟩⟩ := feeds
  exact Slots.branch_meets rfl admits left (Discipline.meets_literal rfl rfl) (right.weaken fits)

/-- A choice answers with either branch, and so the second has to promise what the first does. -/
theorem choice_yields
    (admits : discipline.lenient ∨ ValueType.boolean.accepts first = true)
    (fits : ∀ value, discipline.fits third value → discipline.fits second value) :
    choice.YieldsAt discipline [first, second, third] second := by
  intro inputs feeds
  obtain _ | ⟨condition, _ | ⟨left, _ | ⟨right, _ | _⟩⟩⟩ := feeds
  exact Slots.branch_meets rfl admits condition left (right.weaken fits)

end Catalogue

end Dataflow

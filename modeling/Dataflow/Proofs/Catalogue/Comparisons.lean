import Dataflow.Proofs.Catalogue.Integers
import Dataflow.Proofs.Operator.Refinement

/-!
# The order of integers

Eight operators compare two integers. Equality looks at the payloads, the strict relations and the
selections go by the arithmetic of the operands, and the other relations are composites, which
negate or join what their parts answer. Whichever way is taken, all of them speak of one total
order: that of the numbers which the words stand for.
-/

namespace Dataflow

/-- A composite of steady operators ends as the outer one does on the answers of the inner ones. -/
theorem Operator.composite_steady {header : Header} {outer : Operator} {inners : List Operator}
    {inputs : List Variable} {answers : List Value} {outcome : Outcome EvaluationError Value}
    (each : List.Forall₂ (fun inner answer => (evaluate inner inputs).Steady (.ok answer)) inners
      answers)
    (last : (outer.evaluate (answers.map Variable.constant)).Steady outcome) :
    ((composite header outer inners).evaluate inputs).Steady outcome := by
  have evaluated := evaluateAll_steady (List.forall₂_map_right_iff.mpr each)
  rw [mapM_answers] at evaluated
  rw [evaluate]
  exact evaluated.bind_ok last

/-! ## What the relations compute -/

namespace Catalogue

variable {symbol name : String} {first second : Variable} {left right : Int32}

theorem equals_steady (steady : first.value.Steady (.ok (.integer left)))
    (steady' : second.value.Steady (.ok (.integer right))) :
    (equals.evaluate [first, second]).Steady (.ok (.boolean (left == right))) :=
  value_value_steady rfl rfl rfl steady steady' fun _ => rfl

theorem strictOrder_steady [HostArithmetic] {wanted : Ordering}
    (steady : first.value.Steady (.ok (.integer left)))
    (steady' : second.value.Steady (.ok (.integer right))) :
    ((strictOrder symbol name wanted).evaluate [first, second]).Steady
      (.ok (.boolean (orderOfIntegers left right == wanted))) :=
  value_value_steady rfl rfl rfl steady steady' fun _ => rfl

theorem notEquals_steady (steady : first.value.Steady (.ok (.integer left)))
    (steady' : second.value.Steady (.ok (.integer right))) :
    (notEquals.evaluate [first, second]).Steady (.ok (.boolean !(left == right))) :=
  Operator.composite_steady (.cons (equals_steady steady steady') .nil) fun _ => rfl

/-- Both parts are evaluated, and then the first of them may decide. -/
theorem orEqual_steady [HostArithmetic] {wanted : Ordering} {strictSymbol strictName : String}
    (steady : first.value.Steady (.ok (.integer left)))
    (steady' : second.value.Steady (.ok (.integer right))) :
    ((orEqual symbol name (strictOrder strictSymbol strictName wanted)).evaluate
      [first, second]).Steady
        (.ok (.boolean (left == right || orderOfIntegers left right == wanted))) := by
  refine Operator.composite_steady
    (.cons (equals_steady steady steady') (.cons (strictOrder_steady steady steady') .nil)) ?_
  cases left == right with
  | true => exact fun _ => rfl
  | false => exact fun _ => rfl

end Catalogue

/-! ## One order -/

/-- The order of words is that of their numbers. -/
theorem orderOfIntegers_eq_compare (left right : Int32) :
    orderOfIntegers left right = compare left.toInt right.toInt := by
  simp only [orderOfIntegers, Int32.lt_iff_toInt_lt, ← Int32.toInt_inj]
  rfl

theorem orderOfIntegers_eq_eq_iff {left right : Int32} :
    orderOfIntegers left right = .eq ↔ left = right := by
  rw [orderOfIntegers_eq_compare, compare_eq_iff_eq, Int32.toInt_inj]

theorem orderOfIntegers_eq_gt_iff {left right : Int32} :
    orderOfIntegers left right = .gt ↔ right < left := by
  rw [orderOfIntegers_eq_compare, compare_gt_iff_gt, Int32.lt_iff_toInt_lt]

/-- Equality of payloads is a case of the order, although it is not decided by it. -/
theorem beq_eq_orderOfIntegers (left right : Int32) :
    (left == right) = (orderOfIntegers left right == .eq) := by
  rw [Bool.eq_iff_iff, beq_iff_eq, beq_iff_eq, orderOfIntegers_eq_eq_iff]

/-- What the eight operators answer for two variables. -/
structure Comparison where
  /-- The answer of `<`. -/
  less : Bool
  /-- The answer of `==`. -/
  equal : Bool
  /-- The answer of `>`. -/
  greater : Bool
  /-- The answer of `!=`. -/
  notEqual : Bool
  /-- The answer of `>=`. -/
  greaterOrEqual : Bool
  /-- The answer of `<=`. -/
  lessOrEqual : Bool
  /-- The answer of `max`. -/
  greatest : Int32
  /-- The answer of `min`. -/
  least : Int32

namespace Comparison

/-- The operators evaluate to these answers, whatever has happened before. -/
structure Answers [HostArithmetic] (comparison : Comparison) (first second : Variable) : Prop where
  less : (Catalogue.lessThan.evaluate [first, second]).Steady (.ok (.boolean comparison.less))
  equal : (Catalogue.equals.evaluate [first, second]).Steady (.ok (.boolean comparison.equal))
  greater : (Catalogue.greaterThan.evaluate [first, second]).Steady
    (.ok (.boolean comparison.greater))
  notEqual : (Catalogue.notEquals.evaluate [first, second]).Steady
    (.ok (.boolean comparison.notEqual))
  greaterOrEqual : (Catalogue.greaterOrEqual.evaluate [first, second]).Steady
    (.ok (.boolean comparison.greaterOrEqual))
  lessOrEqual : (Catalogue.lessOrEqual.evaluate [first, second]).Steady
    (.ok (.boolean comparison.lessOrEqual))
  greatest : (Catalogue.maximum.evaluate [first, second]).Steady
    (.ok (.integer comparison.greatest))
  least : (Catalogue.minimum.evaluate [first, second]).Steady (.ok (.integer comparison.least))

/-- Answers that describe the order of two numbers, and agree with each other. -/
structure Describes (comparison : Comparison) (left right : Int32) : Prop where
  less_iff : comparison.less = true ↔ left.toInt < right.toInt
  equal_iff : comparison.equal = true ↔ left.toInt = right.toInt
  greater_iff : comparison.greater = true ↔ right.toInt < left.toInt
  exactlyOne : [comparison.less, comparison.equal, comparison.greater].count true = 1
  notEqual : comparison.notEqual = !comparison.equal
  greaterOrEqual : comparison.greaterOrEqual = !comparison.less
  lessOrEqual : comparison.lessOrEqual = !comparison.greater
  greatest : comparison.greatest = if comparison.greater then left else right
  least : comparison.least = if comparison.less then left else right

/-- The answers for two words, as the operators come to them. -/
def ofWords (left right : Int32) : Comparison where
  less := orderOfIntegers left right == .lt
  equal := left == right
  greater := orderOfIntegers left right == .gt
  notEqual := !(left == right)
  greaterOrEqual := left == right || orderOfIntegers left right == .gt
  lessOrEqual := left == right || orderOfIntegers left right == .lt
  greatest := if right < left then left else right
  least := if right < left then right else left

variable {first second : Variable} {left right : Int32}

theorem ofWords_answers [HostArithmetic] (steady : first.value.Steady (.ok (.integer left)))
    (steady' : second.value.Steady (.ok (.integer right))) :
    (ofWords left right).Answers first second where
  less := Catalogue.strictOrder_steady steady steady'
  equal := Catalogue.equals_steady steady steady'
  greater := Catalogue.strictOrder_steady steady steady'
  notEqual := Catalogue.notEquals_steady steady steady'
  greaterOrEqual := Catalogue.orEqual_steady steady steady'
  lessOrEqual := Catalogue.orEqual_steady steady steady'
  greatest := Catalogue.calculated_steady steady steady'
  least := Catalogue.calculated_steady steady steady'

theorem ofWords_describes (left right : Int32) : (ofWords left right).Describes left right where
  less_iff := by
    rw [ofWords, beq_iff_eq, orderOfIntegers_eq_compare, compare_lt_iff_lt]
  equal_iff := by
    rw [ofWords, beq_iff_eq, Int32.toInt_inj]
  greater_iff := by
    rw [ofWords, beq_iff_eq, orderOfIntegers_eq_compare, compare_gt_iff_gt]
  exactlyOne := by
    simp only [ofWords, beq_eq_orderOfIntegers]
    cases orderOfIntegers left right <;> rfl
  notEqual := rfl
  greaterOrEqual := by
    simp only [ofWords, beq_eq_orderOfIntegers]
    cases orderOfIntegers left right <;> rfl
  lessOrEqual := by
    simp only [ofWords, beq_eq_orderOfIntegers]
    cases orderOfIntegers left right <;> rfl
  greatest := by
    simp only [ofWords, beq_iff_eq, orderOfIntegers_eq_gt_iff]
  least := by
    -- of two equal words, `min` takes the first and the rule the second
    simp only [ofWords, ← orderOfIntegers_eq_gt_iff]
    cases order : orderOfIntegers left right with
    | lt => rfl
    | eq => exact orderOfIntegers_eq_eq_iff.mp order
    | gt => rfl

end Comparison

namespace Catalogue

variable {first second third : Variable} {left right other : Int32}

/-- The relation `<` holds of variables as it does of their numbers. -/
theorem lessThan_steady_iff [HostArithmetic] (steady : first.value.Steady (.ok (.integer left)))
    (steady' : second.value.Steady (.ok (.integer right))) :
    (lessThan.evaluate [first, second]).Steady (.ok (.boolean true)) ↔
      left.toInt < right.toInt := by
  have evaluated := (Comparison.ofWords_answers steady steady').less
  rw [← (Comparison.ofWords_describes left right).less_iff]
  constructor
  · intro holds
    exact Value.boolean.inj (Outcome.ok.inj (evaluated.unique holds))
  · intro less
    rwa [less] at evaluated

/-- On variables that yield integers, the eight operators answer, and their answers are those of one
total order. Exactly one of `<`, `==` and `>` holds; `>=`, `<=` and `!=` are the negations of `<`,
`>` and `==`; `max` and `min` take the operand that `>` and `<` select; and `<` is transitive. The
order is that of the numbers. -/
theorem comparisons_totalOrder [HostArithmetic] (steady : first.value.Steady (.ok (.integer left)))
    (steady' : second.value.Steady (.ok (.integer right))) :
    (∃ comparison : Comparison,
      comparison.Answers first second ∧ comparison.Describes left right) ∧
    (third.value.Steady (.ok (.integer other)) →
      (lessThan.evaluate [first, second]).Steady (.ok (.boolean true)) →
      (lessThan.evaluate [second, third]).Steady (.ok (.boolean true)) →
      (lessThan.evaluate [first, third]).Steady (.ok (.boolean true))) := by
  refine ⟨⟨.ofWords left right, Comparison.ofWords_answers steady steady',
    Comparison.ofWords_describes left right⟩, fun steady'' less less' => ?_⟩
  rw [lessThan_steady_iff steady steady'] at less
  rw [lessThan_steady_iff steady' steady''] at less'
  rw [lessThan_steady_iff steady steady'']
  exact less.trans less'

/-- From the least integer to the greatest one, whose difference is out of range. -/
theorem comparisons_totalOrder_bounds :
    let least := Variable.constant (.integer Int32.minValue)
    let between := Variable.constant (.integer (-1))
    let greatest := Variable.constant (.integer Int32.maxValue)
    (greaterOrEqual.evaluate [least, between]).Steady (.ok (.boolean false)) ∧
      (maximum.evaluate [least, between]).Steady (.ok (.integer (-1))) ∧
      (minimum.evaluate [least, between]).Steady (.ok (.integer Int32.minValue)) ∧
      (lessThan.evaluate [least, greatest]).Steady (.ok (.boolean true)) := by
  intro least between greatest
  have first := Variable.constant_steady (.integer Int32.minValue)
  have second := Variable.constant_steady (.integer (-1))
  have third := Variable.constant_steady (.integer Int32.maxValue)
  have below : (lessThan.evaluate [between, greatest]).Steady (.ok (.boolean true)) :=
    (lessThan_steady_iff second third).mpr (by decide)
  obtain ⟨⟨comparison, answers, describes⟩, transitive⟩ := comparisons_totalOrder first second
  have less : comparison.less = true := describes.less_iff.mpr (by decide)
  have greater : comparison.greater = false :=
    Bool.eq_false_iff.mpr fun greater => absurd (describes.greater_iff.mp greater) (by decide)
  have notGreaterOrEqual := answers.greaterOrEqual
  have maximal := answers.greatest
  have minimal := answers.least
  have above := answers.less
  rw [describes.greaterOrEqual, less] at notGreaterOrEqual
  rw [describes.greatest, greater] at maximal
  rw [describes.least, less] at minimal
  rw [less] at above
  exact ⟨notGreaterOrEqual, maximal, minimal, transitive third above below⟩

end Catalogue

end Dataflow

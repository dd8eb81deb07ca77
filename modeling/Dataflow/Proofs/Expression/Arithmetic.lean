import Dataflow.Proofs.Catalogue.Integers
import Dataflow.Proofs.Expression.ListLiteral

/-!
# Exact arithmetic

Addition, subtraction, multiplication and the operators that count up, count down or complement
commute with taking residues modulo 2³². So it makes no difference how often the parts of an
expression of these wrap around: the whole is worth the word that its number without bounds comes
down to.
-/

namespace Dataflow

namespace Catalogue

/-- The operators on one integer that are exact modulo 2³², and what they do to numbers. -/
inductive ExactUnary : Operator → (ℤ → ℤ) → Prop
  | increment : ExactUnary increment fun number => number + 1
  | decrement : ExactUnary decrement fun number => number - 1
  | complement : ExactUnary complement fun number => -number - 1

/-- The operators on two integers that are exact modulo 2³², and what they do to numbers. -/
inductive ExactBinary : Operator → (ℤ → ℤ → ℤ) → Prop
  | addition : ExactBinary addition fun left right => left + right
  | subtraction : ExactBinary subtraction fun left right => left - right
  | multiplication : ExactBinary multiplication fun left right => left * right

variable {operator : Operator} {first second : Variable} {onNumber : ℤ → ℤ}
  {onNumbers : ℤ → ℤ → ℤ}

/-- An operator on one integer takes the residue of a number to that of its result. -/
theorem ExactUnary.value (unary : ExactUnary operator onNumber) {number : ℤ}
    (steady : first.value.Steady (.ok (.integer (.ofInt number)))) :
    (operator.evaluate [first]).Steady (.ok (.integer (.ofInt (onNumber number)))) := by
  cases unary with
  | increment =>
      rw [Int32.ofInt_add]
      exact onInteger_steady steady
  | decrement =>
      rw [Int32.ofInt_sub]
      exact onInteger_steady steady
  | complement =>
      rw [Int32.ofInt_sub, Int32.ofInt_neg]
      have complemented : (Catalogue.complement.evaluate [first]).Steady
          (.ok (.integer (~~~ Int32.ofInt number))) := onInteger_steady steady
      rwa [Int32.not_eq_neg_sub] at complemented

/-- An operator on two integers takes the residues of numbers to that of their result. -/
theorem ExactBinary.value (binary : ExactBinary operator onNumbers) {left right : ℤ}
    (steady : first.value.Steady (.ok (.integer (.ofInt left))))
    (steady' : second.value.Steady (.ok (.integer (.ofInt right)))) :
    (operator.evaluate [first, second]).Steady
      (.ok (.integer (.ofInt (onNumbers left right)))) := by
  cases binary with
  | addition =>
      rw [Int32.ofInt_add]
      exact calculated_steady steady steady'
  | subtraction =>
      rw [Int32.ofInt_sub]
      exact calculated_steady steady steady'
  | multiplication =>
      rw [Int32.ofInt_mul]
      exact calculated_steady steady steady'

theorem ExactUnary.accepts (unary : ExactUnary operator onNumber) :
    operator.checkTypes [some .integer] = .ok () := by
  cases unary <;> rfl

theorem ExactBinary.accepts (binary : ExactBinary operator onNumbers) :
    operator.checkTypes [some .integer, some .integer] = .ok () := by
  cases binary <;> rfl

theorem ExactUnary.type (unary : ExactUnary operator onNumber) :
    (operator.outputType [first]).Steady (.ok .integer) := by
  cases unary <;> exact fun _ => rfl

/-- Arithmetic is typed by its first operand. -/
theorem ExactBinary.type (binary : ExactBinary operator onNumbers)
    (steady : first.type.Steady (.ok .integer)) :
    (operator.outputType [first, second]).Steady (.ok .integer) := by
  have inherited : operator.outputType [first, second] = first.type := by
    cases binary <;> exact inputType_outputType rfl _ first rfl
  rwa [inherited]

end Catalogue

theorem Graph.declared_of_steady {graph : Graph} {type : ValueType}
    (steady : graph.type.Steady (.ok type)) : graph.declared = type := by
  rw [declared, steady .empty]

namespace Expression

open Catalogue (ExactUnary ExactBinary)

/-- An expression of exact arithmetic, with the number that it amounts to when nothing wraps. -/
inductive AmountsTo : Expression → ℤ → Prop
  | literal (word : Int32) : AmountsTo (integer word) word.toInt
  | unary {key : String} {operator : Operator} {onNumber : ℤ → ℤ} {argument : Expression}
      {number : ℤ} :
      Registry.builtins.find? key = some operator → ExactUnary operator onNumber →
      AmountsTo argument number → AmountsTo (apply key [argument]) (onNumber number)
  | binary {key : String} {operator : Operator} {onNumbers : ℤ → ℤ → ℤ} {left right : Expression}
      {leftNumber rightNumber : ℤ} :
      Registry.builtins.find? key = some operator → ExactBinary operator onNumbers →
      AmountsTo left leftNumber → AmountsTo right rightNumber →
      AmountsTo (apply key [left, right]) (onNumbers leftNumber rightNumber)

/-- The six symbols of exact arithmetic are found in the registry. -/
theorem exact_find? {key : String} {operator : Operator}
    (named : (key, operator) ∈ [("+", Catalogue.addition), ("-", Catalogue.subtraction),
      ("*", Catalogue.multiplication), ("++", Catalogue.increment),
      ("--", Catalogue.decrement), ("~", Catalogue.complement)]) :
    Registry.builtins.find? key = some operator := by
  rw [Registry.builtins_find?_eq_some_iff]
  simp only [List.mem_cons, Prod.mk.injEq, List.not_mem_nil, or_false] at named
  rcases named with ⟨rfl, rfl⟩ | ⟨rfl, rfl⟩ | ⟨rfl, rfl⟩ | ⟨rfl, rfl⟩ | ⟨rfl, rfl⟩ | ⟨rfl, rfl⟩ <;>
    refine ⟨?_, .inl rfl⟩ <;>
    simp [Catalogue.builtins, Catalogue.arithmetic, Catalogue.integer, Catalogue.bitwise]

/-- Building an expression gives a graph that is declared an integer and evaluates to a word,
whatever has happened before. -/
structure Computes (expression : Expression) (graph : Graph) (word : Int32) : Prop where
  builds : expression.Builds graph
  type : graph.type.Steady (.ok .integer)
  value : graph.value.Steady (.ok (.integer word))

variable {key : String} {operator : Operator} {arguments : List Expression} {inputs : List Graph}

theorem buildAll_steady (built : List.Forall₂ Builds arguments inputs) :
    (buildAll Registry.builtins arguments).Steady (.ok inputs) := by
  induction built with
  | nil => exact fun _ => rfl
  | cons builds _ induction =>
      rw [buildAll]
      exact builds.bind_ok (induction.bind_ok fun _ => rfl)

/-- An application builds if its arguments do and its operator accepts their declared types. -/
theorem builds_apply (named : Registry.builtins.find? key = some operator)
    (built : List.Forall₂ Builds arguments inputs)
    (accepted : operator.checkTypes ((inputs.map Graph.declared).map some) = .ok ()) :
    (apply key arguments).Builds (.node operator inputs) := by
  have parts := buildAll_steady built
  have sound := Run.Steady.promised parts (buildAll_meets arguments)
  have passes : miswired? operator inputs = none := by rw [miswired?, accepted]
  have checked := checkedNode_settles operator sound
  rw [passes] at checked
  obtain - | steady := checked
  rw [Builds, build, named]
  exact parts.bind_ok (steady.mapError _)

theorem computes_apply {word : Int32} (named : Registry.builtins.find? key = some operator)
    (built : List.Forall₂ Builds arguments inputs)
    (accepted : operator.checkTypes ((inputs.map Graph.declared).map some) = .ok ())
    (typed : (operator.outputType (inputs.map Graph.toVariable)).Steady (.ok .integer))
    (evaluated : (operator.evaluate (inputs.map Graph.toVariable)).Steady
      (.ok (.integer word))) :
    (apply key arguments).Computes (.node operator inputs) word where
  builds := builds_apply named built accepted
  type := by
    rw [Graph.type, Graph.toVariable_node]
    exact typed
  value := by
    rw [Graph.value, Graph.toVariable_node]
    exact evaluated.recordError _

/-- By induction on the expression, with residues in place of the words that parts evaluate to. -/
theorem AmountsTo.exists_computes {expression : Expression} {number : ℤ}
    (amounts : expression.AmountsTo number) :
    ∃ graph, expression.Computes graph (.ofInt number) := by
  induction amounts with
  | literal word =>
      refine ⟨.constant (.integer word), fun _ => rfl, fun _ => rfl, ?_⟩
      rw [Int32.ofInt_toInt]
      exact fun _ => rfl
  | @unary _ operator _ _ _ named unary _ induction =>
      obtain ⟨graph, argument⟩ := induction
      have accepted : operator.checkTypes (([graph].map Graph.declared).map some) = .ok () := by
        simpa [Graph.declared_of_steady argument.type] using unary.accepts
      exact ⟨_, computes_apply named (.cons argument.builds .nil) accepted unary.type
        (unary.value argument.value)⟩
  | @binary _ operator _ _ _ _ _ named binary _ _ inductionLeft inductionRight =>
      obtain ⟨graph, left⟩ := inductionLeft
      obtain ⟨graph', right⟩ := inductionRight
      have accepted :
          operator.checkTypes (([graph, graph'].map Graph.declared).map some) = .ok () := by
        simpa [Graph.declared_of_steady left.type, Graph.declared_of_steady right.type]
          using binary.accepts
      exact ⟨_, computes_apply named (.cons left.builds (.cons right.builds .nil)) accepted
        (binary.type left.type) (binary.value left.value right.value)⟩

/-- An expression of exact arithmetic builds, is declared an integer, and evaluates to the only word
that is congruent to the number that it amounts to. -/
theorem exact_arithmetic {expression : Expression} {number : ℤ}
    (amounts : expression.AmountsTo number) :
    ∃ graph word, expression.Computes graph word ∧ IsResidue word number := by
  obtain ⟨graph, computes⟩ := amounts.exists_computes
  exact ⟨graph, _, computes, isResidue_ofInt number⟩

/-- The greatest word, incremented and negated by way of a product. The factor in between is too
great for a word, and the result is not. -/
theorem exact_arithmetic_product :
    ∃ graph, (apply "*" [apply "++" [integer Int32.maxValue], apply "~" [integer 0]]).Computes graph
      Int32.minValue := by
  have times : Registry.builtins.find? "*" = some Catalogue.multiplication :=
    exact_find? (by simp)
  have next : Registry.builtins.find? "++" = some Catalogue.increment := exact_find? (by simp)
  have opposite : Registry.builtins.find? "~" = some Catalogue.complement := exact_find? (by simp)
  have left := AmountsTo.unary next .increment (.literal Int32.maxValue)
  have right := AmountsTo.unary opposite .complement (.literal 0)
  obtain ⟨graph, word, computes, residue⟩ :=
    exact_arithmetic (.binary times .multiplication left right)
  obtain rfl : Int32.minValue = word := (residue Int32.minValue).mp (by decide)
  exact ⟨graph, computes⟩

end Expression

end Dataflow

import Dataflow.ValueType

/-!
# Outcomes

A computation ends with an answer, with an error that callers are meant to see, or with a fault: an
operation was dispatched on a value that cannot serve it. Errors and faults both stop a computation,
but only an error can be inspected and recovered from.
-/

namespace Dataflow

/-!
## Evaluation errors

The ways in which the evaluation of a variable or an operator fails.
-/

/-- A failure raised while a variable or an operator is evaluated. -/
inductive EvaluationError where
  /-- An operator was given the wrong number of inputs. -/
  | wrongArity (operator : String) (expected got : Nat)
  /-- An input carries a value that its slot does not admit. -/
  | wrongType (operator : String) (index : Nat) (expected got : ValueType)
  /-- The operands of an arithmetic operation differ in type. -/
  | typeMismatch (left right : ValueType)
  | divisionByZero
  | indexOutOfBounds (index : Int) (length : Nat)
  /-- A failure of a host or of one particular operator. -/
  | custom (message : String)
deriving DecidableEq

/-- The text shown to users. -/
def EvaluationError.message : EvaluationError → String
  | wrongArity operator expected got =>
      s!"wrong number of inputs for {operator}: expected {expected}, got {got}"
  | wrongType operator index expected got =>
      s!"{operator} expected input {index} to be {expected.id}, got {got.id}"
  | typeMismatch left right => s!"operands must share one type, got {left.id} and {right.id}"
  | divisionByZero => "division by zero"
  | indexOutOfBounds index length => s!"index {index} out of bounds for list of length {length}"
  | custom message => message

/-! ## Ends of computations -/

/-- An operation dispatched on a category or a value that cannot serve it. -/
inductive DispatchFault where
  /-- The operation belongs to another category. -/
  | wrongCategory (expected invoked : Category)
  /-- The type of the value is not declared in the category. -/
  | notMember (type : ValueType) (category : Category)
  /-- A numeric type without arithmetic. -/
  | withoutArithmetic (type : ValueType)
  /-- A value of a named type that is no host object. -/
  | withoutObject (type : ValueType)
deriving DecidableEq

/-- The text of a fault. -/
def DispatchFault.message : DispatchFault → String
  | wrongCategory expected invoked =>
      "operation of category " ++ expected.name ++ " invoked on category " ++ invoked.name
  | notMember type category => type.id ++ " is not a member of category " ++ category.name
  | withoutArithmetic type => "number type " ++ type.id ++ " was declared without arithmetic"
  | withoutObject type =>
      "value of type " ++ type.id ++ " claims category named but carries no host object"

/-- How a computation ends. -/
inductive Outcome (ε α : Type) where
  | ok (answer : α)
  | error (cause : ε)
  | fault (reason : DispatchFault)

namespace Outcome

variable {ε ε' α β : Type}

/-- Continues with the answer, if there is one. -/
protected def bind (outcome : Outcome ε α) (next : α → Outcome ε β) : Outcome ε β :=
  match outcome with
  | ok answer => next answer
  | error cause => error cause
  | fault reason => fault reason

instance : Monad (Outcome ε) where
  pure := ok
  bind := Outcome.bind

@[simp] theorem ok_bind (answer : α) (next : α → Outcome ε β) :
    (ok answer >>= next) = next answer := rfl

instance : LawfulMonad (Outcome ε) :=
  LawfulMonad.mk' (Outcome ε)
    (by intro α outcome; cases outcome <;> rfl)
    (by intro α β answer next; rfl)
    (by intro α β γ outcome first second; cases outcome <;> rfl)

/-- An outcome without faults. -/
def ofExcept : Except ε α → Outcome ε α
  | .ok answer => ok answer
  | .error cause => error cause

/-- Rewords the error of an outcome. -/
def mapError (reword : ε → ε') : Outcome ε α → Outcome ε' α
  | ok answer => ok answer
  | error cause => error (reword cause)
  | fault reason => fault reason

/-- Turns the error of an outcome into an answer. Faults stay. -/
def attempt : Outcome ε α → Outcome ε' (Except ε α)
  | ok answer => ok (.ok answer)
  | error cause => ok (.error cause)
  | fault reason => fault reason

end Outcome

end Dataflow

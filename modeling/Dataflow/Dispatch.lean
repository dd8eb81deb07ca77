import Dataflow.Value

/-!
# Dispatch on categories

Arithmetic over `number` is that of the type of the first operand. The arithmetic of integers and of
doubles refuses operands that do not both carry such a number; a host may bring arithmetic of its
own for the types that it declares, and nothing is asked of its answers. The display name over
`named` is that of a host object. Dispatch on a value whose type does not serve the operation is a
fault; operators check their inputs before.
-/

namespace Dataflow

/-- An operation on two numbers of one type. -/
inductive ArithmeticOperation where
  | add
  | subtract
  | multiply
  | divide
  | minimum
  | maximum
deriving DecidableEq

namespace ArithmeticOperation

/-- The operation on words of 32 bits. All results wrap around, and quotients are truncated. -/
def onIntegers (operation : ArithmeticOperation) (left right : Int32) :
    Except EvaluationError Int32 :=
  match operation with
  | add => .ok (left + right)
  | subtract => .ok (left - right)
  | multiply => .ok (left * right)
  | divide => if right = 0 then .error .divisionByZero else .ok (left / right)
  | minimum => .ok (if right < left then right else left)
  | maximum => .ok (if right < left then left else right)

/-- The lesser of two doubles. A NaN gives way to the other operand. -/
def lesser (left right : Float) : Float :=
  if left.isNaN then right
  else if right.isNaN then left
  else if right < left then right else left

/-- The greater of two doubles. A NaN gives way to the other operand. -/
def greater (left right : Float) : Float :=
  if left.isNaN then right
  else if right.isNaN then left
  else if left < right then right else left

/-- The operation on doubles. Division by either zero fails. -/
def onDoubles (operation : ArithmeticOperation) (left right : Float) :
    Except EvaluationError Float :=
  match operation with
  | add => .ok (left + right)
  | subtract => .ok (left - right)
  | multiply => .ok (left * right)
  | divide => if right == 0 then .error .divisionByZero else .ok (left / right)
  | minimum => .ok (lesser left right)
  | maximum => .ok (greater left right)

end ArithmeticOperation

/-- The order of two words. -/
def orderOfIntegers (left right : Int32) : Ordering :=
  if left < right then .lt else if left = right then .eq else .gt

/-- The order of two doubles, unless one is a NaN. -/
def orderOfDoubles (left right : Float) : Option Ordering :=
  if left < right then some .lt
  else if left == right then some .eq
  else if right < left then some .gt
  else none

/-- The error on operands that are not both numbers of the wanted kind. -/
def Arithmetic.mismatch (left right : Value) : EvaluationError :=
  .typeMismatch left.type right.type

/-- What hosts implement for numeric types of their own, by the serial numbers of their
arithmetic. -/
class HostArithmetic where
  /-- An operation on two values, which need not be numbers, and whose answer need not be one. -/
  calculate (serial : Nat) (operation : ArithmeticOperation) (left right : Value) :
    Except EvaluationError Value
  /-- The order of two values, if they are in one. -/
  compare (serial : Nat) (left right : Value) : Except EvaluationError (Option Ordering)

/-- No arithmetic but that of integers and doubles, for programs without a host. -/
instance (priority := low) HostArithmetic.absent : HostArithmetic where
  calculate _ _ left right := .error (Arithmetic.mismatch left right)
  compare _ left right := .error (Arithmetic.mismatch left right)

section

variable [HostArithmetic]

namespace Arithmetic

/-- An operation under one kind of arithmetic. -/
def calculate (arithmetic : Arithmetic) (operation : ArithmeticOperation) (left right : Value) :
    Except EvaluationError Value :=
  match arithmetic, left, right with
  | integer, .integer left, .integer right => .integer <$> operation.onIntegers left right
  | double, .double left, .double right => .double <$> operation.onDoubles left right
  | host serial, left, right => HostArithmetic.calculate serial operation left right
  | _, _, _ => .error (mismatch left right)

/-- The order of two values under one kind of arithmetic. -/
def compare (arithmetic : Arithmetic) (left right : Value) :
    Except EvaluationError (Option Ordering) :=
  match arithmetic, left, right with
  | integer, .integer left, .integer right => .ok (orderOfIntegers left right)
  | double, .double left, .double right => .ok (orderOfDoubles left right)
  | host serial, left, right => HostArithmetic.compare serial left right
  | _, _, _ => .error (mismatch left right)

end Arithmetic

namespace Category

/-- An operation of the category `expected`, invoked on another category or with a value whose type
is not declared in it, is a fault. -/
def assertMember (invoked expected : Category) (type : ValueType) : Outcome EvaluationError Unit :=
  if invoked ≠ expected then .fault (.wrongCategory expected invoked)
  else if type.categories.contains invoked then .ok ()
  else .fault (.notMember type invoked)

/-- The arithmetic of the type of a value. -/
def arithmeticOf (category : Category) (value : Value) : Outcome EvaluationError Arithmetic := do
  category.assertMember .number value.type
  match value.type.arithmetic? with
  | some arithmetic => pure arithmetic
  | none => .fault (.withoutArithmetic value.type)

/-- An arithmetic operation of a category. The first operand decides on the arithmetic. -/
def calculate (category : Category) (operation : ArithmeticOperation) (left right : Value) :
    Outcome EvaluationError Value := do
  let arithmetic ← category.arithmeticOf left
  .ofExcept (arithmetic.calculate operation left right)

/-- The order of two values of a category. There is none if one of them is a NaN. -/
def compare (category : Category) (left right : Value) :
    Outcome EvaluationError (Option Ordering) := do
  let arithmetic ← category.arithmeticOf left
  .ofExcept (arithmetic.compare left right)

/-- The display name of a value of a category. -/
def displayName (category : Category) (value : Value) : Outcome EvaluationError String := do
  category.assertMember .named value.type
  match value with
  | .object host => pure host.name
  | _ => .fault (.withoutObject value.type)

end Category

end

end Dataflow

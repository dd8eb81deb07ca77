import Dataflow.Dispatch
import Dataflow.Operator

/-!
# The built-in operators

Each operator is a template, specialised by a symbol, a name and a body. Most belong to a family
whose members differ in a function, a name or a layout.
-/

namespace Dataflow.Catalogue

/-!
## Operators on numbers

Arithmetic on any kind of number, the integer operators, operations on the bits of integers, and the
rounding of doubles.
-/

section

variable [HostArithmetic]

/-- Dispatches an arithmetic operation on two inputs. -/
def calculated (operation : ArithmeticOperation) (slots : Slots) : Evaluation Value := do
  let left ← slots.value 0
  let right ← slots.value 1
  Run.ofOutcome (Category.number.calculate operation left right)

/-- Addition, `+`. -/
def addition : Operator :=
  Template.arithmetic.safe "+" "addition" (calculated .add)

/-- Subtraction, `-`. -/
def subtraction : Operator :=
  Template.arithmetic.safe "-" "subtraction" (calculated .subtract)

/-- Multiplication, `*`. -/
def multiplication : Operator :=
  Template.arithmetic.safe "*" "multiplication" (calculated .multiply)

/-- Division, `/`. -/
def division : Operator :=
  Template.arithmetic.safe "/" "division" (calculated .divide)

/-- The greater of two numbers, `max`. -/
def maximum : Operator :=
  Template.arithmeticFunction.safe "max" "maximum" (calculated .maximum)

/-- The lesser of two numbers, `min`. -/
def minimum : Operator :=
  Template.arithmeticFunction.safe "min" "minimum" (calculated .minimum)

/-- Arithmetic on any kind of number. -/
def arithmetic : List Operator :=
  [addition, subtraction, multiplication, division, maximum, minimum]

/-- The truncating remainder, `%`, which takes the sign of the dividend. The dividend is read only
when it matters. -/
def modulus : Operator :=
  Template.integerBinary.safe "%" "modulus" fun slots => do
    let divisor ← slots.integer 1
    if divisor = 0 then .fail .divisionByZero
    else if divisor = 1 then pure (.integer 0)
    else do
      let dividend ← slots.integer 0
      pure (.integer (dividend % divisor))

/-- Applies a function to one integer. -/
def onInteger (function : Int32 → Int32) (slots : Slots) : Evaluation Value := do
  let number ← slots.integer 0
  pure (.integer (function number))

/-- Applies a function to two integers. -/
def onIntegers (function : Int32 → Int32 → Int32) (slots : Slots) : Evaluation Value := do
  let left ← slots.integer 0
  let right ← slots.integer 1
  pure (.integer (function left right))

/-- Increment, `++`. -/
def increment : Operator :=
  Template.integerUnary.safe "++" "increment" (onInteger (· + 1))

/-- Decrement, `--`. -/
def decrement : Operator :=
  Template.integerUnary.safe "--" "decrement" (onInteger (· - 1))

/-- The integer operators. -/
def integer : List Operator := [modulus, increment, decrement]

/-- Conjunction bit by bit, `&`. -/
def bitAnd : Operator :=
  Template.bitwiseBinary.safe "&" "and" (onIntegers (· &&& ·))

/-- Disjunction bit by bit, `|`. -/
def bitOr : Operator :=
  Template.bitwiseBinary.safe "|" "or" (onIntegers (· ||| ·))

/-- Exclusive disjunction bit by bit, `^`. -/
def bitXor : Operator :=
  Template.bitwiseBinary.safe "^" "xor" (onIntegers (· ^^^ ·))

/-- Complement bit by bit, `~`. -/
def complement : Operator :=
  Template.bitwiseUnary.safe "~" "complement" (onInteger (~~~ ·))

/-- The shift `<<`. Of a count, here and below, only the low five bits matter. -/
def shiftLeft : Operator :=
  Template.bitwiseBinary.safe "<<" "lshift" (onIntegers (· <<< ·))

/-- The shift `>>`, which brings in copies of the sign bit. -/
def shiftRight : Operator :=
  Template.bitwiseBinary.safe ">>" "rshift" (onIntegers (· >>> ·))

/-- The shift `>>>`, which brings in zeros. -/
def shiftRightZero : Operator :=
  Template.bitwiseBinary.safe ">>>" "rzshift"
    (onIntegers fun number count => (number.toUInt32 >>> count.toUInt32).toInt32)

/-- The operators on bits. -/
def bitwise : List Operator :=
  [bitAnd, bitOr, bitXor, complement, shiftLeft, shiftRight, shiftRightZero]

/-- Rounds a double to an integer. Numbers out of range become the nearest bound, and a NaN becomes
zero. -/
def rounded (function : Float → Float) (slots : Slots) : Evaluation Value := do
  let number ← slots.double 0
  pure (.integer (function number).toInt32)

/-- The family of operators from doubles to integers. -/
def roundingTemplate : Template :=
  { Template.doubleUnary with output := .integer }

/-- Rounding to the nearest integer, `|| ||`, and to the greater of two equally near ones. -/
def round : Operator :=
  roundingTemplate.safe "|| ||" "round" (rounded fun number => (number + 0.5).floor)

/-- Rounding up, `⌈ ⌉`. -/
def ceiling : Operator :=
  roundingTemplate.safe "⌈ ⌉" "ceil" (rounded Float.ceil)

/-- Rounding down, `⌊ ⌋`. -/
def floor : Operator :=
  roundingTemplate.safe "⌊ ⌋" "floor" (rounded Float.floor)

/-- The rounding operators. -/
def rounding : List Operator := [round, ceiling, floor]

end

/-!
## Operators on strings, lists and values of any type

Lengths saturate at the greatest integer. The length of a list is known without its elements, and an
element is pulled only when its index is in range.
-/

/-- The greatest length that an integer can state. -/
def greatestLength : Nat := 0x7fffffff

/-- A length as an integer. -/
def lengthValue (length : Nat) : Value :=
  .integer (Int32.ofNat (min length greatestLength))

/-- The number of characters of a string, `len`. -/
def stringLength : Operator :=
  { Template.stringUnary with output := .integer : Template }.safe "len" "length" fun slots => do
    let text ← slots.string 0
    pure (lengthValue text.length)

/-- Concatenation, `..`. -/
def concatenation : Operator :=
  Template.stringBinary.safe ".." "concat" fun slots => do
    let left ← slots.string 0
    let right ← slots.string 1
    pure (.string (left ++ right))

/-- The display name of a host object, `name`. -/
def displayName : Operator :=
  { Template.stringUnary with
    inputs := [.placeholder .named]
    pattern := .trailing : Template }.safe "name" "name" fun slots => do
      let value ← slots.value 0
      .string <$> Run.ofOutcome (Category.named.displayName value)

/-- The operators on strings. -/
def strings : List Operator := [stringLength, concatenation, displayName]

/-- The length of a list, `| |`. -/
def listLength : Operator :=
  { Template.listUnary with output := .integer : Template }.safe "| |" "length" fun slots => do
    let view ← slots.list 0
    pure (lengthValue view.length)

/-- Pulls the element at a signed index. -/
def elementAt (view : ListView Value) (index : Int32) : Evaluation Value :=
  if 0 ≤ index.toInt ∧ index.toInt < view.length then view.get index.toInt.toNat
  else .fail (.indexOutOfBounds index.toInt view.length)

/-- The element of a list at an index, `get`. -/
def element : Operator :=
  { Template.listUnary with
    inputs := [.list, .integer]
    output := .placeholder .any
    pattern := .between
    outputRule := some .elementType : Template }.safe "get" "get" fun slots => do
      let view ← slots.list 0
      let index ← slots.integer 1
      elementAt view index

/-- The operators on lists. -/
def lists : List Operator := [listLength, element]

/-- The family of operators on values of any type. -/
def generalTemplate : Template where
  kind := "general"
  inputs := [.placeholder .any]
  output := .placeholder .any
  pattern := .leading

/-- The default check, then that both branches carry one type. -/
def choiceCheck : TypeCheck := fun header types => do
  TypeCheck.default header types
  TypeCheck.same 1 2 3 header types

/-- Choice, `?`, which reads the condition and then only the chosen branch. -/
def choice : Operator :=
  { generalTemplate with
    inputs := [.boolean, .placeholder .any, .placeholder .any]
    check := some choiceCheck
    outputRule := some (.inputType 1) : Template }.raw "?" "choice" fun slots => do
      slots.checkArity
      if ← slots.condition 0 then slots.unchecked 1 else slots.unchecked 2

/-- Identity, `id`. -/
def identity : Operator :=
  { generalTemplate with outputRule := some (.inputType 0) : Template }.safe "id" "identity"
    fun slots => slots.value 0

/-- The operators on values of any type. -/
def general : List Operator := [choice, identity]

/-!
## Operators on and into truth values

Conjunction and disjunction read their second input only if the first does not decide. Of the six
relations, three are primitive; the others are composed from them and so evaluate both parts.
-/

section

variable [HostArithmetic]

/-- Conjunction, `&&`: the second input is read only if the first is true, and its value is the
answer. -/
def conjunction : Operator :=
  Template.logicalBinary.raw "&&" "and" fun slots => do
    slots.checkArity
    if ← slots.condition 0 then slots.unchecked 1 else pure (.boolean false)

/-- Disjunction, `||`: the second input is read only if the first is false, and its value is the
answer. -/
def disjunction : Operator :=
  Template.logicalBinary.raw "||" "or" fun slots => do
    slots.checkArity
    if ← slots.condition 0 then pure (.boolean true) else slots.unchecked 1

/-- Negation, `!`. -/
def negation : Operator :=
  Template.logicalUnary.safe "!" "not" fun slots => do
    let truth ← slots.boolean 0
    pure (.boolean !truth)

/-- The logical operators. -/
def logical : List Operator := [conjunction, disjunction, negation]

/-- Equality of two values of one type, `==`. -/
def equals : Operator :=
  { Template.relational with
    inputs := [.placeholder .any, .placeholder .any]
    check := some .uniform : Template }.safe "==" "equals" fun slots => do
      let left ← slots.value 0
      let right ← slots.value 1
      .boolean <$> Run.ofPulling (left.equal right)

/-- Compares two numbers. A NaN is in no order with any number. -/
def compared (wanted : Ordering) (slots : Slots) : Evaluation Value := do
  let left ← slots.value 0
  let right ← slots.value 1
  let order ← Run.ofOutcome (Category.number.compare left right)
  pure (.boolean (order == some wanted))

/-- The relation `>`. -/
def greaterThan : Operator :=
  Template.comparison.safe ">" "gt" (compared .gt)

/-- The relation `<`. -/
def lessThan : Operator :=
  Template.comparison.safe "<" "lt" (compared .lt)

/-- Inequality, `!=`. -/
def notEquals : Operator :=
  Operator.composition negation [equals] 2 "!=" "notequals" .between "relational"

/-- Equal or greater, `>=`. -/
def greaterOrEqual : Operator :=
  Operator.composition disjunction [equals, greaterThan] 2 ">=" "ge" .between "relational"

/-- Equal or less, `<=`. -/
def lessOrEqual : Operator :=
  Operator.composition disjunction [equals, lessThan] 2 "<=" "le" .between "relational"

/-- The relations. -/
def relational : List Operator :=
  [equals, greaterThan, lessThan, notEquals, greaterOrEqual, lessOrEqual]

end

/-! ## All operators -/

/-- All built-in operators, in the order of the catalogue. -/
def builtins [HostArithmetic] : List Operator :=
  logical ++ arithmetic ++ integer ++ relational ++ bitwise ++ strings ++ rounding ++ lists ++
    general

/-!
## Families

A property of all built-in operators is proved once for each family, and the composites among them
may use it for their parts.
-/

variable [HostArithmetic]

/-- Operators on one integer. -/
def integerFamily (kind : String) (pattern : RenderPattern) : Template where
  kind := kind
  inputs := [.integer]
  output := .integer
  pattern := pattern

/-- Arithmetic on any one kind of number. -/
def arithmeticFamily (pattern : RenderPattern) : Template :=
  { Template.arithmetic with pattern := pattern }

/-- A strict comparison of two numbers. -/
def strictOrder (symbol name : String) (wanted : Ordering) : Operator :=
  Template.comparison.safe symbol name (compared wanted)

/-- Equality or a strict comparison. -/
def orEqual (symbol name : String) (strict : Operator) : Operator :=
  Operator.composition disjunction [equals, strict] 2 symbol name .between "relational"

@[elab_as_elim]
theorem builtins_cases {motive : Operator → Prop} {operator : Operator}
    (member : operator ∈ builtins)
    (conjunction : motive conjunction) (disjunction : motive disjunction)
    (negation : motive negation)
    (arithmetic : ∀ pattern symbol name operation,
      motive ((arithmeticFamily pattern).safe symbol name (calculated operation)))
    (modulus : motive modulus)
    (onInteger : ∀ kind pattern symbol name function,
      motive ((integerFamily kind pattern).safe symbol name (onInteger function)))
    (onIntegers : ∀ symbol name function,
      motive (Template.bitwiseBinary.safe symbol name (onIntegers function)))
    (equals : motive equals)
    (strictOrder : ∀ symbol name wanted, motive (strictOrder symbol name wanted))
    (stringLength : motive stringLength) (concatenation : motive concatenation)
    (displayName : motive displayName)
    (rounding : ∀ symbol name function,
      motive (roundingTemplate.safe symbol name (rounded function)))
    (listLength : motive listLength) (element : motive element)
    (choice : motive choice) (identity : motive identity)
    (notEquals : motive Catalogue.negation → motive Catalogue.equals → motive notEquals)
    (orEqual : ∀ symbol name strictSymbol strictName wanted,
      motive Catalogue.disjunction → motive Catalogue.equals →
      motive (Catalogue.strictOrder strictSymbol strictName wanted) →
      motive (orEqual symbol name (Catalogue.strictOrder strictSymbol strictName wanted))) :
    motive operator := by
  simp only [builtins, logical, Catalogue.arithmetic, integer, relational, bitwise, strings,
    Catalogue.rounding, lists, general, List.mem_append, List.mem_cons, List.not_mem_nil,
    or_false] at member
  rcases member with
    (((((((truth | number) | word) | relation) | bits) | text) | rounds) | lists) | values
  · rcases truth with rfl | rfl | rfl <;> assumption
  · rcases number with rfl | rfl | rfl | rfl | rfl | rfl
    · exact arithmetic .between "+" "addition" .add
    · exact arithmetic .between "-" "subtraction" .subtract
    · exact arithmetic .between "*" "multiplication" .multiply
    · exact arithmetic .between "/" "division" .divide
    · exact arithmetic .leading "max" "maximum" .maximum
    · exact arithmetic .leading "min" "minimum" .minimum
  · rcases word with rfl | rfl | rfl
    · exact modulus
    · exact onInteger "integer" .trailing "++" "increment" (· + 1)
    · exact onInteger "integer" .trailing "--" "decrement" (· - 1)
  · rcases relation with rfl | rfl | rfl | rfl | rfl | rfl
    · exact equals
    · exact strictOrder ">" "gt" .gt
    · exact strictOrder "<" "lt" .lt
    · exact notEquals negation equals
    · exact orEqual ">=" "ge" ">" "gt" .gt disjunction equals (strictOrder ">" "gt" .gt)
    · exact orEqual "<=" "le" "<" "lt" .lt disjunction equals (strictOrder "<" "lt" .lt)
  · rcases bits with rfl | rfl | rfl | rfl | rfl | rfl | rfl
    · exact onIntegers "&" "and" (· &&& ·)
    · exact onIntegers "|" "or" (· ||| ·)
    · exact onIntegers "^" "xor" (· ^^^ ·)
    · exact onInteger "binary" .leading "~" "complement" (~~~ ·)
    · exact onIntegers "<<" "lshift" (· <<< ·)
    · exact onIntegers ">>" "rshift" (· >>> ·)
    · exact onIntegers ">>>" "rzshift"
        fun number count => (number.toUInt32 >>> count.toUInt32).toInt32
  · rcases text with rfl | rfl | rfl <;> assumption
  · rcases rounds with rfl | rfl | rfl
    · exact rounding "|| ||" "round" fun number => (number + 0.5).floor
    · exact rounding "⌈ ⌉" "ceil" Float.ceil
    · exact rounding "⌊ ⌋" "floor" Float.floor
  · rcases lists with rfl | rfl <;> assumption
  · rcases values with rfl | rfl <;> assumption

end Dataflow.Catalogue

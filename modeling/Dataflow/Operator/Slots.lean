import Dataflow.Run

/-!
# Signatures and slots

What is known of an operator before anything is evaluated, how it comes to its inputs, and which
wirings of these are rejected.
-/

namespace Dataflow

/-!
## Operator headers

What an operator shows to the outside: its symbol and names, its signature, and how a user interface
lays it out.
-/

/-- Where the symbol of an operator stands relative to its inputs. -/
inductive RenderPattern where
  /-- Before the inputs. -/
  | leading
  /-- Between two inputs. -/
  | between
  /-- After the inputs. -/
  | trailing
deriving DecidableEq

/-- The name of a pattern. -/
def RenderPattern.name : RenderPattern → String
  | leading => "prefix"
  | between => "infix"
  | trailing => "suffix"

/-- What an operator shows to the outside. -/
structure Header where
  /-- A short token, such as `+`. -/
  symbol : String
  /-- The identifier within the kind. -/
  name : String
  /-- A group label, such as `arithmetic`. -/
  kind : String
  /-- The declared types of the input slots. -/
  inputs : List ValueType
  /-- The declared type of the output. -/
  output : ValueType
  pattern : RenderPattern
deriving DecidableEq

namespace Header

/-- The name of an operator in a catalogue. -/
def uniqueName (header : Header) : String :=
  header.kind ++ "." ++ header.name

/-- The key under which a user interface finds the display name of an operator. -/
def localizationKey (header : Header) : String :=
  "operator.operators." ++ header.uniqueName ++ ".name"

/-- The number of input slots. -/
def arity (header : Header) : Nat :=
  header.inputs.length

end Header

/-!
## Input slots

Typed access to the inputs of an operator. Nothing is evaluated until a slot is read, every read
evaluates again, and every value is checked against the declared type of its slot.
-/

/-- The inputs of an operator, to be read slot by slot. -/
structure Slots where
  header : Header
  inputs : List Variable

namespace Slots

/-- The error on a wrong number of inputs. -/
def arityError (slots : Slots) : EvaluationError :=
  .wrongArity slots.header.uniqueName slots.header.arity slots.inputs.length

/-- Fails unless there is one input for each declared slot. -/
def checkArity (slots : Slots) : Evaluation Unit :=
  if slots.inputs.length = slots.header.arity then pure () else .fail slots.arityError

/-- Evaluates an input without a check. An input past the end is a wrong number of inputs. -/
def unchecked (slots : Slots) (index : Nat) : Evaluation Value :=
  match slots.inputs[index]? with
  | some input => input.value
  | none => .fail slots.arityError

/-- The error on a value that does not carry the type `expected`. -/
def typeError (slots : Slots) (index : Nat) (expected : ValueType) (value : Value) :
    EvaluationError :=
  .wrongType slots.header.uniqueName index expected value.type

/-- The value itself, if the slot admits its type. A slot that is not declared admits every type. -/
def admitted (slots : Slots) (index : Nat) (value : Value) : Except EvaluationError Value :=
  match slots.header.inputs[index]? with
  | some expected =>
      if expected.accepts value.type then .ok value
      else .error (slots.typeError index expected value)
  | none => .ok value

/-- Reads a slot: evaluates its input and checks the value. -/
def value (slots : Slots) (index : Nat) : Evaluation Value := do
  let value ← slots.unchecked index
  .ofExcept (slots.admitted index value)

/-- A payload of a value, or the error that it is missing. -/
def payload {α : Type} (slots : Slots) (index : Nat) (expected : ValueType)
    (payload? : Value → Option α) (value : Value) : Except EvaluationError α :=
  match payload? value with
  | some payload => .ok payload
  | none => .error (slots.typeError index expected value)

/-- Reads a slot for a payload. -/
def read {α : Type} (slots : Slots) (index : Nat) (expected : ValueType)
    (payload? : Value → Option α) : Evaluation α := do
  let value ← slots.value index
  .ofExcept (slots.payload index expected payload? value)

/-- Reads a slot for a truth value. -/
def boolean (slots : Slots) (index : Nat) : Evaluation Bool :=
  slots.read index .boolean Value.boolean?

/-- Reads a slot for an integer. -/
def integer (slots : Slots) (index : Nat) : Evaluation Int32 :=
  slots.read index .integer Value.integer?

/-- Reads a slot for a double. -/
def double (slots : Slots) (index : Nat) : Evaluation Float :=
  slots.read index .double Value.double?

/-- Reads a slot for a string. -/
def string (slots : Slots) (index : Nat) : Evaluation String :=
  slots.read index .string Value.string?

/-- Reads a slot for a list. -/
def list (slots : Slots) (index : Nat) : Evaluation (ListView Value) :=
  slots.read index .list Value.list?

/-- Reads an input as a condition: only its payload counts, not the declared type of its slot. -/
def condition (slots : Slots) (index : Nat) : Evaluation Bool := do
  let value ← slots.unchecked index
  .ofExcept (slots.payload index .boolean Value.boolean? value)

end Slots

/-!
## Type checks

The static check of a wiring: which types may be connected to the slots of an operator. A check
evaluates nothing, and it reports the first violation that it finds.
-/

/-- Why a wiring is rejected. -/
inductive TypeError where
  /-- A wrong number of inputs. -/
  | wrongInputLength (operator : String) (got expected : Nat)
  /-- An input without a type. -/
  | nullType (operator : String) (index : Nat)
  /-- An input of a wrong type. -/
  | wrongType (operator : String) (got : ValueType) (index : Nat) (expected : ValueType)
deriving DecidableEq

namespace TypeError

/-- The text of a rejection. -/
def message : TypeError → String
  | wrongInputLength operator got expected => s!"{operator} expects {expected} inputs, got {got}"
  | nullType operator index => s!"{operator} has no type for input {index}"
  | wrongType operator got index expected =>
      s!"{operator} got {got.id} at input {index}, expected {expected.id}"

/-- The key under which a user interface finds a text of its own. -/
def localizationKey : TypeError → String
  | wrongInputLength .. => "operator.error.wrongInputLength"
  | nullType .. => "operator.error.nullType"
  | wrongType .. => "operator.error.wrongType"

/-- The parts of such a text, in order. -/
def arguments : TypeError → List String
  | wrongInputLength operator got expected => [operator, toString got, toString expected]
  | nullType operator index => [operator, toString index]
  | wrongType operator got index expected =>
      [operator, got.localizationKey, toString index, expected.localizationKey]

end TypeError

/-- A check of the types that are wired to an operator, where `none` is an input without a type. -/
abbrev TypeCheck := Header → List (Option ValueType) → Except TypeError Unit

namespace TypeCheck

/-- The types from slot `index` on, unless one of them is missing. -/
def presentFrom (operator : String) :
    Nat → List (Option ValueType) → Except TypeError (List ValueType)
  | _, [] => .ok []
  | index, none :: _ => .error (.nullType operator index)
  | index, some type :: rest => do
      let types ← presentFrom operator (index + 1) rest
      .ok (type :: types)

/-- The types of all inputs: first their number is checked, then that none is missing. -/
def resolved (header : Header) (types : List (Option ValueType)) :
    Except TypeError (List ValueType) :=
  if types.length = header.arity then presentFrom header.uniqueName 0 types
  else .error (.wrongInputLength header.uniqueName types.length header.arity)

/-- Checks the types from slot `index` on against the declared ones. -/
def acceptFrom (operator : String) :
    Nat → List ValueType → List ValueType → Except TypeError Unit
  | index, expected :: slots, got :: types =>
      if expected.accepts got then acceptFrom operator (index + 1) slots types
      else .error (.wrongType operator got index expected)
  | _, _, _ => .ok ()

/-- Number, presence, then acceptance slot by slot. -/
def default : TypeCheck := fun header types => do
  let got ← resolved header types
  acceptFrom header.uniqueName 0 header.inputs got

/-- Checks that all types from slot `index` on are one type. -/
def sameFrom (operator : String) (expected : ValueType) :
    Nat → List ValueType → Except TypeError Unit
  | _, [] => .ok ()
  | index, got :: types =>
      if got = expected then sameFrom operator expected (index + 1) types
      else .error (.wrongType operator got index expected)

/-- Number, presence, then that the slots from `start` up to but excluding `stop` carry the type of
slot `first`. Slots out of range are ignored. -/
def same (first start stop : Nat) : TypeCheck := fun header types => do
  let got ← resolved header types
  match got[first]? with
  | none => .ok ()
  | some expected =>
      sameFrom header.uniqueName expected start ((got.take stop).drop start)

/-- The default check, then that all slots carry the type of the first. -/
def uniform : TypeCheck := fun header types => do
  TypeCheck.default header types
  same 0 1 types.length header types

/-- Accepts every wiring. -/
def accept : TypeCheck := fun _ _ => .ok ()

end TypeCheck

end Dataflow

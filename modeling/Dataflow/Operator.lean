import Dataflow.Json
import Dataflow.Operator.Slots

/-!
# Operators

An operator is a header with a way to compute one value from its inputs. A primitive operator
computes by a function of its own. A composite operator feeds its inputs to several inner operators,
evaluates all of them, and passes their results on to an outer operator; whatever it does follows
from these parts.
-/

namespace Dataflow

/-- How a primitive operator computes. -/
inductive Body where
  /-- Receives the inputs as they are, however many, and decides what to evaluate. -/
  | raw (compute : Slots → Evaluation Value)
  /-- Runs when the number of inputs is right. -/
  | safe (compute : Slots → Evaluation Value)

/-- Finds the output type from the actual inputs. Without an answer the declared type holds. -/
abbrev OutputRule := List Variable → Typing (Option ValueType)

namespace OutputRule

/-- The type of the input in a slot. -/
def inputType (slot : Nat) : OutputRule := fun inputs =>
  match inputs[slot]? with
  | some input => some <$> input.type
  | none => pure none

/-- The element type of a list in the first slot, when it can be evaluated. -/
def elementType : OutputRule := fun inputs =>
  match inputs[0]? with
  | some input => do
      match ← input.value.attempt with
      | .ok (.list view) => pure (some view.elementType)
      | _ => pure none
  | none => pure none

end OutputRule

/-- An operator with a function of its own. -/
structure Primitive where
  header : Header
  body : Body
  /-- Replaces the default check of a wiring. -/
  check : Option TypeCheck := none
  /-- Refines the declared output type. -/
  outputRule : Option OutputRule := none

namespace Primitive

/-- Computes the value of a primitive operator. -/
def evaluate (primitive : Primitive) (inputs : List Variable) : Evaluation Value :=
  let slots : Slots := ⟨primitive.header, inputs⟩
  match primitive.body with
  | .raw compute => compute slots
  | .safe compute => do
      slots.checkArity
      compute slots

/-- Checks a wiring of a primitive operator. -/
def checkTypes (primitive : Primitive) (types : List (Option ValueType)) : Except TypeError Unit :=
  (primitive.check.getD .default) primitive.header types

/-- Finds the output type of a primitive operator. -/
def outputType (primitive : Primitive) (inputs : List Variable) : Typing ValueType :=
  match primitive.outputRule with
  | none => pure primitive.header.output
  | some rule => do
      let refined ← rule inputs
      pure (refined.getD primitive.header.output)

end Primitive

/-- A way to compute one value from a list of inputs. -/
inductive Operator where
  | primitive (definition : Primitive)
  /-- The inner operators share the inputs; their results are the inputs of the outer one. -/
  | composite (header : Header) (outer : Operator) (inners : List Operator)

namespace Operator

/-- What an operator shows to the outside. -/
def header : Operator → Header
  | primitive definition => definition.header
  | composite header _ _ => header

/-- The name of an operator in a catalogue. -/
def uniqueName (operator : Operator) : String :=
  operator.header.uniqueName

/-- The number of input slots. -/
def arity (operator : Operator) : Nat :=
  operator.header.arity

mutual

/-- Computes the value of an operator. A composite evaluates all its inner operators first, in
order, and stops at the first failure. -/
def evaluate : Operator → List Variable → Evaluation Value
  | primitive definition, inputs => definition.evaluate inputs
  | composite _ outer inners, inputs => do
      let answers ← evaluateAll inners inputs
      outer.evaluate (answers.map Variable.constant)

/-- Computes the values of several operators on the same inputs, in order. -/
def evaluateAll : List Operator → List Variable → Evaluation (List Value)
  | [], _ => pure []
  | operator :: operators, inputs => do
      let answer ← operator.evaluate inputs
      let answers ← evaluateAll operators inputs
      pure (answer :: answers)

end

mutual

/-- Checks a wiring without evaluating anything. A composite checks its own signature and then asks
its inner operators. -/
def checkTypes : Operator → List (Option ValueType) → Except TypeError Unit
  | primitive definition, types => definition.checkTypes types
  | composite header _ inners, types => do
      TypeCheck.default header types
      checkAll inners types

/-- Checks one wiring for several operators, in order. -/
def checkAll : List Operator → List (Option ValueType) → Except TypeError Unit
  | [], _ => .ok ()
  | operator :: operators, types => do
      operator.checkTypes types
      checkAll operators types

end

mutual

/-- Finds the output type from the actual inputs. A composite asks its outer operator about the
results of its inner ones. -/
def outputType : Operator → List Variable → Typing ValueType
  | primitive definition, inputs => definition.outputType inputs
  | composite _ outer inners, inputs => do
      let results ← innerResults inners inputs
      outer.outputType results

/-- The results of several operators on the same inputs: typed at once, evaluated when read. -/
def innerResults : List Operator → List Variable → Typing (List Variable)
  | [], _ => pure []
  | operator :: operators, inputs => do
      let type ← operator.outputType inputs
      let results ← innerResults operators inputs
      pure (⟨pure type, operator.evaluate inputs⟩ :: results)

end

/-- The declared types of several variables. -/
def declaredTypes : List Variable → Typing (List ValueType)
  | [] => pure []
  | input :: inputs => do
      let type ← input.type
      let types ← declaredTypes inputs
      pure (type :: types)

/-- Checks the declared types of actual inputs. -/
def checkVariables (operator : Operator) (inputs : List Variable) : Run TypeError Unit := do
  let types ← .ofTyping (declaredTypes inputs)
  .ofExcept (operator.checkTypes (types.map some))

end Operator

/-!
## Composition

A composition needs one inner operator for each slot of the outer one, and inner operators of one
arity. Each slot of the composite has the narrowest type that an inner operator declares there, so
that it admits what all of them admit.
-/

/-- Why operators cannot be composed. -/
inductive CompositionError where
  /-- A wrong number of inner operators. -/
  | innerCount (composite : String) (expected got : Nat)
  /-- Inner operators of different arities. -/
  | innerArity (composite : String) (first other : Nat)
deriving DecidableEq

/-- The text of a failed composition. -/
def CompositionError.message : CompositionError → String
  | innerCount composite expected got =>
      s!"composite {composite} needs {expected} inner operators for its outer operator, got {got}"
  | innerArity composite first other =>
      s!"inner operators of {composite} disagree on arity: {first} and {other}"

/-- The narrower of two slot types. The left one stays if they are equally narrow. -/
def ValueType.narrower (left right : ValueType) : ValueType :=
  if left.specificity < right.specificity then right else left

/-- The narrowest of some slot types, the first one of equally narrow ones. -/
def ValueType.narrowest : List ValueType → ValueType
  | [] => .placeholder .any
  | type :: types => types.foldl narrower type

namespace Operator

/-- The type that an operator declares for a slot. -/
def slotType (operator : Operator) (slot : Nat) : ValueType :=
  operator.header.inputs.getD slot (.placeholder .any)

/-- The signature of a composite, slot by slot. -/
def narrowestSignature (inners : List Operator) (arity : Nat) : List ValueType :=
  (List.range arity).map fun slot => .narrowest (inners.map (·.slotType slot))

/-- The composite of an outer operator and inner operators of the given arity. -/
def composition (outer : Operator) (inners : List Operator) (arity : Nat) (symbol name : String)
    (pattern : RenderPattern) (kind : String) : Operator :=
  .composite
    { symbol, name, kind, pattern
      inputs := narrowestSignature inners arity
      output := outer.header.output }
    outer inners

/-- Composes operators: the inner ones compute the inputs of the outer one. -/
def compose (outer : Operator) (inners : List Operator) (symbol name : String)
    (pattern : RenderPattern) (kind : String) : Except CompositionError Operator :=
  let composite := kind ++ "." ++ name
  if inners.length ≠ outer.arity then
    .error (.innerCount composite outer.arity inners.length)
  else
    match inners with
    | [] => .error (.innerCount composite outer.arity 0)
    | first :: others =>
        match others.find? (·.arity ≠ first.arity) with
        | some other => .error (.innerArity composite first.arity other.arity)
        | none => .ok (composition outer inners first.arity symbol name pattern kind)

end Operator

/-!
## Templates and drafts

A draft is an operator in the making, with parts still missing; building it reports the first part
that is. A template fixes what a family of operators has in common, and is specialised by a symbol,
a name and a body.
-/

/-- A part that no operator can do without. -/
inductive RequiredPart where
  | kind
  | name
  | symbol
  | outputType
  | function
deriving DecidableEq

/-- The name of a part in messages. -/
def RequiredPart.text : RequiredPart → String
  | kind => "kind"
  | name => "name"
  | symbol => "symbol"
  | outputType => "output type"
  | function => "function"

/-- The text of a failed build. -/
def RequiredPart.missingMessage (part : RequiredPart) : String :=
  "operator builder is missing its " ++ part.text

/-- An operator in the making. -/
structure Draft where
  symbol : Option String := none
  name : Option String := none
  kind : Option String := none
  inputs : List ValueType := []
  output : Option ValueType := none
  pattern : RenderPattern := .between
  body : Option Body := none
  check : Option TypeCheck := none
  outputRule : Option OutputRule := none

namespace Draft

/-- A draft without any parts. -/
def empty : Draft := {}

/-- Uses one token as symbol and as name. -/
def token (draft : Draft) (token : String) : Draft :=
  { draft with symbol := some token, name := some token }

/-- Declares a number of slots of one type. -/
def repeated (draft : Draft) (count : Nat) (type : ValueType) : Draft :=
  { draft with inputs := List.replicate count type }

/-- Keeps the number of slots and declares one type for all of them. -/
def retyped (draft : Draft) (type : ValueType) : Draft :=
  draft.repeated draft.inputs.length type

/-- A part that has to be there. -/
def require {α : Type} (part : RequiredPart) : Option α → Except RequiredPart α
  | some found => .ok found
  | none => .error part

/-- The operator, or the first part that is missing. -/
def build (draft : Draft) : Except RequiredPart Operator := do
  let kind ← require .kind draft.kind
  let name ← require .name draft.name
  let symbol ← require .symbol draft.symbol
  let output ← require .outputType draft.output
  let body ← require .function draft.body
  return .primitive
    { header := { symbol, name, kind, output, inputs := draft.inputs, pattern := draft.pattern }
      body
      check := draft.check
      outputRule := draft.outputRule }

end Draft

/-- What a family of operators has in common. -/
structure Template where
  kind : String
  inputs : List ValueType
  output : ValueType
  pattern : RenderPattern := .between
  check : Option TypeCheck := none
  outputRule : Option OutputRule := none

namespace Template

/-- The operator of a family with the given symbol, name and body. -/
def operator (template : Template) (symbol name : String) (body : Body) : Operator :=
  .primitive
    { header :=
        { symbol, name
          kind := template.kind
          inputs := template.inputs
          output := template.output
          pattern := template.pattern }
      body
      check := template.check
      outputRule := template.outputRule }

/-- The operator of a family whose body runs on the right number of inputs. -/
def safe (template : Template) (symbol name : String) (compute : Slots → Evaluation Value) :
    Operator :=
  template.operator symbol name (.safe compute)

/-- The operator of a family whose body receives all inputs. -/
def raw (template : Template) (symbol name : String) (compute : Slots → Evaluation Value) :
    Operator :=
  template.operator symbol name (.raw compute)

/-- A template as the start of a draft. -/
def draft (template : Template) : Draft :=
  { kind := some template.kind
    inputs := template.inputs
    output := some template.output
    pattern := template.pattern
    check := template.check
    outputRule := template.outputRule }

/-- Operators from one truth value to another. -/
def logicalUnary : Template where
  kind := "logical"
  inputs := [.boolean]
  output := .boolean
  pattern := .leading

/-- Operators from two truth values to a third. -/
def logicalBinary : Template where
  kind := "logical"
  inputs := [.boolean, .boolean]
  output := .boolean

/-- Arithmetic on any one kind of number, whose type is that of the result. -/
def arithmetic : Template where
  kind := "arithmetic"
  inputs := [.placeholder .number, .placeholder .number]
  output := .placeholder .number
  check := some .uniform
  outputRule := some (.inputType 0)

/-- Arithmetic that is written like a function. -/
def arithmeticFunction : Template :=
  { arithmetic with pattern := .leading }

/-- Operators on one integer, written after it. -/
def integerUnary : Template where
  kind := "integer"
  inputs := [.integer]
  output := .integer
  pattern := .trailing

/-- Operators on two integers. -/
def integerBinary : Template where
  kind := "integer"
  inputs := [.integer, .integer]
  output := .integer

/-- Relational operators answer a boolean; they declare their own slots. -/
def relational : Template where
  kind := "relational"
  inputs := []
  output := .boolean

/-- Comparison of two numbers of one kind. -/
def comparison : Template where
  kind := "relational"
  inputs := [.placeholder .number, .placeholder .number]
  output := .boolean
  check := some .uniform

/-- Operators on the bits of one integer. -/
def bitwiseUnary : Template where
  kind := "binary"
  inputs := [.integer]
  output := .integer
  pattern := .leading

/-- Operators on the bits of two integers. -/
def bitwiseBinary : Template where
  kind := "binary"
  inputs := [.integer, .integer]
  output := .integer

/-- Operators on one string. -/
def stringUnary : Template where
  kind := "string"
  inputs := [.string]
  output := .string
  pattern := .leading

/-- Operators on two strings. -/
def stringBinary : Template where
  kind := "string"
  inputs := [.string, .string]
  output := .string

/-- Operators on one double. -/
def doubleUnary : Template where
  kind := "double"
  inputs := [.double]
  output := .double
  pattern := .leading

/-- Operators on one list. -/
def listUnary : Template where
  kind := "list"
  inputs := [.list]
  output := .list
  pattern := .leading

end Template

/-- The start of a draft of a general operator, which declares its own signature. -/
def Draft.general : Draft :=
  { kind := some "general", pattern := .leading }

/-!
## Descriptions

The forms in which operators and rejected wirings are shown to tools and in diagnostics.
-/

/-- The summary of an operator for tools. -/
def Header.document (header : Header) : Json.Document :=
  .object [
    ("symbol", .string header.symbol),
    ("name", .string header.name),
    ("unique_name", .string header.uniqueName),
    ("kind", .string header.kind),
    ("inputs", .array (header.inputs.map (.string ·.id))),
    ("output", .string header.output.id),
    ("render_pattern", .string header.pattern.name)]

/-- The summary of a rejected wiring for tools. -/
def TypeError.document : TypeError → Json.Document
  | wrongInputLength operator got expected => .object [
      ("kind", .string "wrong_input_length"),
      ("operator", .string operator),
      ("got", .number got),
      ("expected", .number expected)]
  | nullType operator index => .object [
      ("kind", .string "null_type"),
      ("operator", .string operator),
      ("index", .number index)]
  | wrongType operator got index expected => .object [
      ("kind", .string "wrong_type"),
      ("operator", .string operator),
      ("got", .string got.id),
      ("index", .number index),
      ("expected", .string expected.id)]

/-- The form of the function of an operator in diagnostics. -/
def Operator.functionText : Operator → String
  | primitive definition =>
      match definition.body with
      | .raw _ => "Raw(..)"
      | .safe _ => "Safe(..)"
  | composite .. => "Raw(..)"

/-- The form of an operator in diagnostics. -/
def Operator.debugText (operator : Operator) : String :=
  "Operator \x7b symbol: " ++ Text.quoted operator.header.symbol ++
    ", unique_name: " ++ Text.quoted operator.uniqueName ++
    ", input_types: [" ++ ", ".intercalate (operator.header.inputs.map ValueType.debugText) ++
    "], output_type: " ++ operator.header.output.debugText ++
    ", function: " ++ operator.functionText ++ " \x7d"

/-!
## What is read from a slot

A run goes on from an answer and stops at an error, after the events that led there. So a slot that
admits what its input yields yields it as well, and nothing else happens; an input that fails makes
the slot fail alike. No slot is read unless the number of inputs is right.
-/

variable {ε ε' α β : Type}

namespace Run

variable {run : Run ε α} {next : α → Run ε β} {trace later : Trace}

theorem after_bind_of_ok {answer : α} (ended : run.after trace = (.ok answer, later)) :
    (run >>= next).after trace = (next answer).after later := by
  rw [after_bind, ended]

theorem after_bind_of_error {cause : ε} (ended : run.after trace = (.error cause, later)) :
    (run >>= next).after trace = (.error cause, later) := by
  rw [after_bind, ended]

/-- What goes on with nothing but its answer might as well end. -/
theorem bind_eq_self {next : α → Run ε α}
    (returns : ∀ trace answer later, run.after trace = (.ok answer, later) →
      next answer = pure answer) :
    (run >>= next) = run := by
  refine Run.ext fun trace => ?_
  have returned := returns trace
  rw [after_bind]
  generalize run.after trace = finish at returned ⊢
  obtain ⟨outcome, later⟩ := finish
  cases outcome with
  | ok answer =>
      change (next answer).after later = _
      rw [returned answer later rfl]
      rfl
  | error cause => rfl
  | fault reason => rfl

theorem after_attempt_of_ok {answer : α} (ended : run.after trace = (.ok answer, later)) :
    (run.attempt : Run ε' (Except ε α)).after trace = (.ok (.ok answer), later) := by
  simp [attempt, ended, Outcome.attempt]

end Run

theorem OutputRule.elementType_after {input : Variable} {inputs : List Variable}
    {view : ListView Value} {trace later : Trace}
    (listed : input.value.after trace = (.ok (.list view), later)) :
    (OutputRule.elementType (input :: inputs)).after trace =
      (.ok (some view.elementType), later) :=
  Run.after_bind_of_ok (Run.after_attempt_of_ok listed)

namespace Slots

variable {header : Header} {inputs : List Variable} {index : Nat} {input : Variable}
  {expected wanted : ValueType} {value : Value} {payload? : Value → Option α} {payload : α}
  {cause : EvaluationError} {trace later : Trace}

theorem checkArity_bind_of_eq {slots : Slots} {next : Unit → Evaluation α}
    (count : slots.inputs.length = slots.header.arity) :
    (slots.checkArity >>= next) = next () := by
  rw [checkArity, if_pos count, pure_bind]

theorem checkArity_bind_of_ne {slots : Slots} {next : Unit → Evaluation α}
    (mismatch : slots.inputs.length ≠ slots.header.arity) :
    (slots.checkArity >>= next) = .fail slots.arityError := by
  rw [checkArity, if_neg mismatch, Run.fail_bind]

theorem value_after (found : inputs[index]? = some input)
    (declared : header.inputs[index]? = some expected)
    (accepted : expected.accepts value.type = true)
    (yields : input.value.after trace = (.ok value, later)) :
    (Slots.value ⟨header, inputs⟩ index).after trace = (.ok value, later) := by
  have read : (Slots.unchecked ⟨header, inputs⟩ index).after trace = (.ok value, later) := by
    rwa [unchecked, found]
  rw [Slots.value, Run.after_bind_of_ok read, admitted, declared]
  simp only [accepted, if_true]
  rfl

theorem value_after_of_error (found : inputs[index]? = some input)
    (fails : input.value.after trace = (.error cause, later)) :
    (Slots.value ⟨header, inputs⟩ index).after trace = (.error cause, later) := by
  have read : (Slots.unchecked ⟨header, inputs⟩ index).after trace = (.error cause, later) := by
    rwa [unchecked, found]
  rw [Slots.value, Run.after_bind_of_error read]

theorem read_after (found : inputs[index]? = some input)
    (declared : header.inputs[index]? = some expected)
    (accepted : expected.accepts value.type = true) (carried : payload? value = some payload)
    (yields : input.value.after trace = (.ok value, later)) :
    (Slots.read ⟨header, inputs⟩ index wanted payload?).after trace = (.ok payload, later) := by
  rw [read, Run.after_bind_of_ok (value_after found declared accepted yields), Slots.payload,
    carried]
  rfl

theorem integer_after {number : Int32} (found : inputs[index]? = some input)
    (declared : header.inputs[index]? = some .integer)
    (yields : input.value.after trace = (.ok (.integer number), later)) :
    (Slots.integer ⟨header, inputs⟩ index).after trace = (.ok number, later) :=
  read_after found declared rfl rfl yields

theorem list_after {view : ListView Value} (found : inputs[index]? = some input)
    (declared : header.inputs[index]? = some .list)
    (yields : input.value.after trace = (.ok (.list view), later)) :
    (Slots.list ⟨header, inputs⟩ index).after trace = (.ok view, later) :=
  read_after found declared rfl rfl yields

theorem condition_after {truth : Bool} (found : inputs[index]? = some input)
    (yields : input.value.after trace = (.ok (.boolean truth), later)) :
    (Slots.condition ⟨header, inputs⟩ index).after trace = (.ok truth, later) := by
  have read : (Slots.unchecked ⟨header, inputs⟩ index).after trace =
      (.ok (.boolean truth), later) := by
    rwa [unchecked, found]
  rw [condition, Run.after_bind_of_ok read]
  rfl

theorem read_after_of_error (found : inputs[index]? = some input)
    (fails : input.value.after trace = (.error cause, later)) :
    (Slots.read ⟨header, inputs⟩ index wanted payload?).after trace = (.error cause, later) := by
  rw [read, Run.after_bind_of_error (value_after_of_error found fails)]

end Slots

/-- A function that reads its inputs slot by slot runs if there is one input for each slot. -/
theorem Primitive.evaluate_of_safe {definition : Primitive} {compute : Slots → Evaluation Value}
    (safe : definition.body = .safe compute) (inputs : List Variable) :
    definition.evaluate inputs =
      if inputs.length = definition.header.arity then compute ⟨definition.header, inputs⟩
      else .fail (.wrongArity definition.header.uniqueName definition.header.arity
        inputs.length) := by
  simp only [evaluate, safe]
  split
  case isTrue count => exact Slots.checkArity_bind_of_eq count
  case isFalse mismatch => exact Slots.checkArity_bind_of_ne mismatch

end Dataflow

import Dataflow.Graph
import Dataflow.Registry

/-!
# Expressions

Expressions of the command line and their JSON form: an object with one member, named for the kind
of the expression. An application gives the key of an operator and its arguments, as an object or as
an array of both.
-/

namespace Dataflow

/-- An expression of the command line. -/
inductive Expression where
  | boolean (truth : Bool)
  | integer (number : Int32)
  | double (number : Float)
  | string (text : String)
  | list (items : List Expression)
  /-- An operator, by symbol or unique name, applied to arguments. -/
  | apply (operator : String) (arguments : List Expression)

namespace Expression

open Json (Tree)

/-- How many arrays and objects of an expression may be nested. -/
def nestingLimit : Nat := 127

/-- The word that a number denotes, if it fits. -/
def word? (number : Int) : Option Int32 :=
  if Int32.minValue.toInt ≤ number ∧ number ≤ Int32.maxValue.toInt then some (Int32.ofInt number)
  else none

/-- A boolean, integer, double or string literal of the given kind. -/
def literal? (kind : String) : Tree → Option Expression
  | .boolean truth => if kind = "boolean" then some (boolean truth) else none
  | .number numeral =>
      if kind = "integer" then integer <$> (numeral.integer? >>= word?)
      else if kind = "double" then double <$> numeral.double?
      else none
  | .string (some text) => if kind = "string" then some (string text) else none
  | _ => none

mutual

/-- The expression that a JSON value denotes, within some depth of nesting. -/
def ofTree? : (depth : Nat) → Tree → Option Expression
  | depth + 1, .object [(some kind, content)] =>
      if kind = "list" then list <$> ofArray? depth content
      else if kind = "apply" then ofApplication? depth content
      else literal? kind content
  | _, _ => none

/-- The expressions in a JSON array. -/
def ofArray? : (depth : Nat) → Tree → Option (List Expression)
  | depth + 1, .array items => ofItems? depth items
  | _, _ => none

/-- The expressions that some JSON values denote. -/
def ofItems? (depth : Nat) : List Tree → Option (List Expression)
  | [] => some []
  | item :: items => do
      let first ← ofTree? depth item
      let rest ← ofItems? depth items
      some (first :: rest)

/-- An application, as an object or as an array. -/
def ofApplication? : (depth : Nat) → Tree → Option Expression
  | depth + 1, .object members => do
      match ← ofMembers? depth members with
      | (some operator, some arguments) => some (apply operator arguments)
      | _ => none
  | depth + 1, .array [.string (some operator), arguments] =>
      apply operator <$> ofArray? depth arguments
  | _, _ => none

/-- The operator and the arguments among the members of an application. Other members count for
nothing, whatever they hold, but these two must not be repeated. -/
def ofMembers? (depth : Nat) :
    List (Option String × Tree) → Option (Option String × Option (List Expression))
  | [] => some (none, none)
  | (none, _) :: _ => none
  | (some key, content) :: members => do
      let (operator, arguments) ← ofMembers? depth members
      if key = "op" then
        match operator, content with
        | none, .string (some text) => some (some text, arguments)
        | _, _ => none
      else if key = "args" then
        match arguments with
        | none => do
            let items ← ofArray? depth content
            some (operator, some items)
        | some _ => none
      else some (operator, arguments)

end

/-- The expression that a text denotes. -/
def ofText? (text : String) : Option Expression := do
  ofTree? nestingLimit (← Tree.ofText? text)

end Expression

/-!
## Building expressions

An expression is built into a graph, parts before wholes and from left to right. Applications are
checked against the signature of their operator, and the items of a list must share one declared
type. Building may evaluate parts, as far as the typing of applications asks for it.
-/

/-- Why an expression is not built. -/
inductive ExpressionError where
  /-- The text is no expression, for the reason that the reader gives. -/
  | malformed (reason : String)
  | unknownOperator (key : String)
  /-- An application does not fit the signature of its operator. -/
  | wiring (cause : TypeError)
  /-- The items of a list differ in type. -/
  | mixedList (index : Nat) (expected got : ValueType)
deriving DecidableEq

/-- The text of a rejected expression. -/
def ExpressionError.message : ExpressionError → String
  | malformed reason => "invalid expression: " ++ reason
  | unknownOperator key => "unknown operator `" ++ key ++ "`"
  | wiring cause => "type error: " ++ cause.message
  | mixedList index expected got =>
      s!"list item {index} is {got.id}, but the list holds {expected.id}"

namespace Expression

/-- Checks that items from `index` on have the expected declared type. -/
def checkItems (expected : ValueType) : (index : Nat) → List Graph → Run ExpressionError Unit
  | _, [] => pure ()
  | index, item :: items => do
      let got ← .ofTyping item.type
      if got = expected then checkItems expected (index + 1) items
      else .fail (.mixedList index expected got)

/-- The declared type that all items of a list share. An empty list is one of `any`. -/
def itemType : List Graph → Run ExpressionError ValueType
  | [] => pure (.placeholder .any)
  | first :: items => do
      let expected ← .ofTyping first.type
      checkItems expected 1 items
      pure expected

mutual

/-- The graph of an expression. -/
def build (registry : Registry) : Expression → Run ExpressionError Graph
  | boolean truth => pure (.constant (.boolean truth))
  | integer number => pure (.constant (.integer number))
  | double number => pure (.constant (.double number))
  | string text => pure (.constant (.string text))
  | list items => do
      let graphs ← buildAll registry items
      let elementType ← itemType graphs
      pure (.list elementType graphs)
  | apply key arguments =>
      match registry.find? key with
      | none => .fail (.unknownOperator key)
      | some operator => do
          let inputs ← buildAll registry arguments
          (Graph.checkedNode operator inputs).mapError .wiring

/-- The graphs of several expressions, in order. -/
def buildAll (registry : Registry) : List Expression → Run ExpressionError (List Graph)
  | [] => pure []
  | expression :: expressions => do
      let graph ← expression.build registry
      let graphs ← buildAll registry expressions
      pure (graph :: graphs)

end

/-- The graph of the expression that a text denotes. `rejection` is what the reader says of a text
that denotes none. -/
def load (registry : Registry) (rejection : String → String) (text : String) :
    Run ExpressionError Graph :=
  match ofText? text with
  | some expression => expression.build registry
  | none => .fail (.malformed (rejection text))

end Expression

end Dataflow

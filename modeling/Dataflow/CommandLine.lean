import Dataflow.Expression

/-!
# The command line

Commands list the built-in operators, describe one of them, or evaluate an expression. Flags may
stand anywhere among the arguments. On request, a log of what has been registered and evaluated
precedes whatever else goes to standard error.
-/

namespace Dataflow

/-- What a command leaves behind. -/
structure CommandResult where
  exitCode : Nat
  /-- The text on standard output. -/
  output : String
  /-- The text on standard error. -/
  errors : String
deriving DecidableEq

/-- Why a command fails. -/
inductive CommandError where
  | expression (cause : ExpressionError)
  | evaluation (cause : EvaluationError)
deriving DecidableEq

/-- The text of a failed command. -/
def CommandError.message : CommandError → String
  | expression cause => cause.message
  | evaluation cause => "evaluation failed: " ++ cause.message

/-- Something that is logged. -/
inductive LogEntry where
  /-- An operator is registered. -/
  | registered (symbol uniqueName : String)
  /-- The evaluation of a node fails. -/
  | nodeFailed (uniqueName : String) (cause : EvaluationError)
  /-- An expression of some declared type is evaluated to a value of some type. -/
  | evaluated (declared actual : ValueType)

/-- What is logged, without the time and the marks that a logger adds. -/
def LogEntry.text : LogEntry → String
  | registered symbol uniqueName =>
      s!"registered operator symbol=\"{symbol}\" name=\"{uniqueName}\""
  | nodeFailed uniqueName cause =>
      s!"node evaluation failed operator={uniqueName} error={cause.message}"
  | evaluated declared actual =>
      s!"evaluated expression declared={declared.id} actual={actual.id}"

/-- The words that a program leaves to others: what the reader says of a text that is no expression,
and the lines of the log, which differ from time to time. -/
structure Wording where
  rejection : String → String
  /-- The line of a log at some position, with its end. -/
  logLine : (position : Nat) → LogEntry → String

/-- The least that can be said. -/
def Wording.plain : Wording where
  rejection _ := "not an expression"
  logLine _ entry := entry.text ++ "\n"

namespace CommandLine

/-- What is printed on request, and after an unknown command. -/
def help : String :=
  "opgraph CLI

Usage:
  opgraph list [--json]
  opgraph describe <symbol>
  opgraph eval '<json expression>' [--json]

Expressions:
  \x7b\"integer\": 3\x7d  \x7b\"double\": 1.5\x7d  \x7b\"boolean\": true\x7d  \x7b\"string\": \"a\"\x7d
  \x7b\"list\": [<expr>, ...]\x7d
  \x7b\"apply\": \x7b\"op\": \"<symbol>\", \"args\": [<expr>, ...]\x7d\x7d

Flags:
  --json             Print machine-readable output
  --verbose          Log registry and evaluation events (RUST_LOG overrides)

"

/-- A command that prints. -/
def printed (output : String) : CommandResult := ⟨0, output, ""⟩

/-- A command that lacks an argument. -/
def usage (form : String) : CommandResult := ⟨0, "", "Usage: " ++ form ++ "\n"⟩

/-- A command that fails. -/
def failed (cause : CommandError) : CommandResult := ⟨1, "", "Error: " ++ cause.message ++ "\n"⟩

/-- Text filled up with blanks to a number of characters. -/
def padded (width : Nat) (text : String) : String :=
  text ++ String.ofList (List.replicate (width - text.length) ' ')

/-- An operator on one line. -/
def signatureLine (header : Header) : String :=
  padded 24 header.uniqueName ++ " " ++ padded 6 header.symbol ++ " (" ++
    ", ".intercalate (header.inputs.map ValueType.id) ++ ") -> " ++ header.output.id

/-- Lists all operators. -/
def listOperators (registry : Registry) (json : Bool) : CommandResult :=
  printed <|
    if json then registry.catalogue.pretty ++ "\n"
    else String.join (registry.headers.map fun header => signatureLine header ++ "\n")

/-- Describes the operator with the given symbol or unique name. -/
def describe (registry : Registry) (key : String) : CommandResult :=
  match registry.find? key with
  | some operator => printed (operator.header.document.pretty ++ "\n")
  | none => failed (.expression (.unknownOperator key))

/-- Builds an expression, types it and evaluates it. -/
def evaluation (registry : Registry) (rejection : String → String) (source : String) :
    Run CommandError (ValueType × Value) := do
  let graph ← (Expression.load registry rejection source).mapError .expression
  let declared ← .ofTyping graph.type
  let value ← graph.value.mapError .evaluation
  pure (declared, value)

/-- The value of an expression with its type. -/
def valueText (value : Value) (json : Bool) : String :=
  let text := value.text.answer
  if json then
    (Json.Document.object [("type", .string value.type.id), ("value", .string text)]).pretty
  else text ++ " : " ++ value.type.id

/-- Evaluates an expression. -/
def evaluate (registry : Registry) (rejection : String → String) (source : String) (json : Bool) :
    CommandResult :=
  match ((evaluation registry rejection source).after .empty).1 with
  | .ok (_, value) => printed (valueText value json ++ "\n")
  | .error cause => failed cause
  | .fault reason => ⟨101, "", reason.message ++ "\n"⟩

/-- Runs the command that is left once the flags are taken away. -/
def command (registry : Registry) (rejection : String → String) (json : Bool) :
    List String → CommandResult
  | [] => printed help
  | name :: arguments =>
      match name, arguments with
      | "-h", _ | "--help", _ | "help", _ => printed help
      | "list", _ => listOperators registry json
      | "describe", [] => usage "opgraph describe <symbol>"
      | "describe", key :: _ => describe registry key
      | "eval", [] => usage "opgraph eval '<json expression>'"
      | "eval", source :: _ => evaluate registry rejection source json
      | _, _ => ⟨2, help, "Error: unknown command `" ++ name ++ "`\n"⟩

/-- The flag for machine-readable output. -/
def jsonFlag : String := "--json"

/-- The flag for logging, which changes nothing else. -/
def verboseFlag : String := "--verbose"

/-- What is logged of an event in a run. -/
def eventEntry? : Event → Option LogEntry
  | .failure uniqueName cause => some (.nodeFailed uniqueName cause)
  | .read .. | .pull _ | .creation _ => none

/-- What is logged of the evaluation of an expression: the nodes that fail, and then the types of
the result, if there is one. -/
def evaluationLog (registry : Registry) (rejection : String → String) (source : String) :
    List LogEntry :=
  let (outcome, trace) := (evaluation registry rejection source).after .empty
  trace.events.reverse.filterMap eventEntry? ++
    match outcome with
    | .ok (declared, value) => [.evaluated declared value.type]
    | _ => []

/-- What is logged of a command. Nothing is registered before there is one. -/
def log (registry : Registry) (rejection : String → String) : List String → List LogEntry
  | [] => []
  | name :: arguments =>
      (registry.headers.map fun header => .registered header.symbol header.uniqueName) ++
        match name, arguments with
        | "eval", source :: _ => evaluationLog registry rejection source
        | _, _ => []

/-- The lines of a log. -/
def logText (wording : Wording) (entries : List LogEntry) : String :=
  String.join (entries.mapIdx wording.logLine)

/-- The arguments that are no flags. -/
def withoutFlags (arguments : List String) : List String :=
  arguments.filter fun argument => argument != jsonFlag && argument != verboseFlag

/-- The log that precedes the errors, if it is asked for. -/
def logged (wording : Wording) (arguments : List String) : String :=
  if arguments.contains verboseFlag then
    logText wording (log Registry.builtins wording.rejection (withoutFlags arguments))
  else ""

/-- Runs a command with the built-in operators. -/
def run (wording : Wording) (arguments : List String) : CommandResult :=
  let result := command Registry.builtins wording.rejection (arguments.contains jsonFlag)
    (withoutFlags arguments)
  { result with errors := logged wording arguments ++ result.errors }

end CommandLine

end Dataflow

import Dataflow.Catalogue
import Std.Data.HashMap

/-!
# Registries

A registry finds operators by symbol and by unique name. Both are unique in a registry, and the
order of registration is kept.
-/

namespace Dataflow

/-- Why an operator is not registered, or not found. -/
inductive RegistryError where
  | duplicateSymbol (symbol : String)
  | duplicateName (uniqueName : String)
  | unknownOperator (uniqueName : String)
deriving DecidableEq

/-- The text of a registry error. -/
def RegistryError.message : RegistryError → String
  | duplicateSymbol symbol => "an operator with symbol `" ++ symbol ++ "` is already registered"
  | duplicateName uniqueName => "an operator named `" ++ uniqueName ++ "` is already registered"
  | unknownOperator uniqueName => "no operator named `" ++ uniqueName ++ "` is registered"

/-- Operators in order of registration, with their positions by symbol and by unique name. -/
structure Registry where
  operators : Array Operator
  bySymbol : Std.HashMap String Nat
  byName : Std.HashMap String Nat

namespace Registry

/-- The registry without operators. -/
def empty : Registry := ⟨#[], ∅, ∅⟩

/-- The number of operators. -/
def size (registry : Registry) : Nat :=
  registry.operators.size

/-- The operator with the given symbol. -/
def findSymbol? (registry : Registry) (symbol : String) : Option Operator :=
  match registry.bySymbol[symbol]? with
  | some position => registry.operators[position]?
  | none => none

/-- The operator with the given unique name. -/
def findName? (registry : Registry) (uniqueName : String) : Option Operator :=
  match registry.byName[uniqueName]? with
  | some position => registry.operators[position]?
  | none => none

/-- The operator with the given symbol, or else with the given unique name. -/
def find? (registry : Registry) (key : String) : Option Operator :=
  registry.findSymbol? key <|> registry.findName? key

/-- The operator with the given unique name, or the error that there is none. -/
def require (registry : Registry) (uniqueName : String) : Except RegistryError Operator :=
  match registry.findName? uniqueName with
  | some operator => .ok operator
  | none => .error (.unknownOperator uniqueName)

/-- Adds an operator, unless its symbol or its unique name is taken. -/
def register (registry : Registry) (operator : Operator) : Except RegistryError Registry :=
  let symbol := operator.header.symbol
  if registry.bySymbol.contains symbol then .error (.duplicateSymbol symbol)
  else if registry.byName.contains operator.uniqueName then
    .error (.duplicateName operator.uniqueName)
  else
    .ok
      { operators := registry.operators.push operator
        bySymbol := registry.bySymbol.insert symbol registry.size
        byName := registry.byName.insert operator.uniqueName registry.size }

/-- Adds operators up to the first one that is rejected, and keeps those before it. -/
def registerAll (registry : Registry) : List Operator → Registry × Except RegistryError Unit
  | [] => (registry, .ok ())
  | operator :: operators =>
      match registry.register operator with
      | .ok larger => larger.registerAll operators
      | .error cause => (registry, .error cause)

/-- The registry of the built-in operators. -/
def builtins [HostArithmetic] : Registry :=
  (empty.registerAll Catalogue.builtins).1

/-- The headers of all operators, in order of registration. -/
def headers (registry : Registry) : List Header :=
  registry.operators.toList.map Operator.header

/-- The summaries of all operators for tools. -/
def catalogue (registry : Registry) : Json.Document :=
  .array (registry.headers.map Header.document)

end Registry

end Dataflow

import Dataflow.Operator

/-!
# Expression graphs

A graph wires operators to constants, leaves and lists of graphs. Nothing is cached: a graph that is
used twice is evaluated twice. A node leaves a mark in the trace when its operator fails, and passes
the error on.
-/

namespace Dataflow

/-- A variable in terms of what it is made from. -/
inductive Graph where
  | constant (value : Value)
  | leaf (leaf : Leaf)
  /-- Makes a new list of all items whenever it is evaluated. -/
  | list (elementType : ValueType) (items : List Graph)
  /-- An operator applied to inputs. -/
  | node (operator : Operator) (inputs : List Graph)

/-- Evaluates variables in order and stops at the first failure. -/
def valuesOf : List Variable → Evaluation (List Value)
  | [] => pure []
  | item :: items => do
      let value ← item.value
      let values ← valuesOf items
      pure (value :: values)

/-- A list of variables as one variable, which makes a new list on every read. -/
def Variable.listOf (elementType : ValueType) (items : List Variable) : Variable where
  type := pure .list
  value := do
    let values ← valuesOf items
    .newList elementType values

/-- An operator applied to inputs. It is typed by the operator, and marks a failure of its own. -/
def Operator.applied (operator : Operator) (inputs : List Variable) : Variable where
  type := operator.outputType inputs
  value := (operator.evaluate inputs).recordError (.failure operator.uniqueName)

namespace Graph

mutual

/-- The variable that a graph describes. The variables of its parts are made only when they are
asked for: a graph may share parts, and its tree may be much larger than the graph. -/
def toVariable : Graph → Variable
  | constant value => .constant value
  | leaf source => source.toVariable
  | list elementType items =>
      ⟨pure .list,
        ⟨fun trace => (Variable.listOf elementType (toVariables items)).value.after trace⟩⟩
  | node operator inputs =>
      ⟨⟨fun trace => (operator.applied (toVariables inputs)).type.after trace⟩,
        ⟨fun trace => (operator.applied (toVariables inputs)).value.after trace⟩⟩

/-- The variables that some graphs describe. -/
def toVariables : List Graph → List Variable
  | [] => []
  | graph :: graphs => graph.toVariable :: toVariables graphs

end

/-- The declared type of a graph. -/
def type (graph : Graph) : Typing ValueType :=
  graph.toVariable.type

/-- The value of a graph. -/
def value (graph : Graph) : Evaluation Value :=
  graph.toVariable.value

/-- A node whose inputs have been checked against the signature of its operator. -/
def checkedNode (operator : Operator) (inputs : List Graph) : Run TypeError Graph := do
  operator.checkVariables (toVariables inputs)
  pure (node operator inputs)

/-- The form of a graph in diagnostics. -/
def debugText : Graph → String
  | constant value => "Constant(" ++ value.debugText ++ ")"
  | leaf source => "Deferred(" ++ source.type.id ++ ")"
  | list _ _ => "Deferred(" ++ ValueType.list.id ++ ")"
  | node operator inputs =>
      "OperatorVariable \x7b operator: " ++ Text.quoted operator.uniqueName ++ ", inputs: " ++
        toString inputs.length ++ " \x7d"

@[simp] theorem toVariables_eq_map (graphs : List Graph) :
    toVariables graphs = graphs.map toVariable := by
  induction graphs with
  | nil => rfl
  | cons graph graphs induction => simp [toVariables, induction]

theorem toVariable_list (elementType : ValueType) (items : List Graph) :
    (list elementType items).toVariable = .listOf elementType (items.map toVariable) := by
  rw [← toVariables_eq_map]; rfl

theorem toVariable_node (operator : Operator) (inputs : List Graph) :
    (node operator inputs).toVariable = operator.applied (inputs.map toVariable) := by
  rw [← toVariables_eq_map]; rfl

end Graph

end Dataflow

import Dataflow.Proofs.Operator.Parametric
import Dataflow.Proofs.Run.Meets
import Mathlib.Data.List.Forall2

/-!
# What graphs are made from

A graph is made from constants and leaves by lists and operators. A property of variables that these
have, and that lists and operators pass on, is a property of the whole graph.
-/

namespace Dataflow

/-- A list of variables keeps the promise that all of its items make. -/
theorem valuesOf_meets {allowed : Allowance} {failures : EvaluationError → Prop}
    {answers : Value → Prop} {items : List Variable}
    (each : ∀ item ∈ items, item.value.Meets allowed failures answers) :
    (valuesOf items).Meets allowed failures fun values => ∀ value ∈ values, answers value := by
  induction items with
  | nil => exact Run.Meets.pure nofun
  | cons item items induction =>
      rw [valuesOf]
      refine (each item List.mem_cons_self).bind fun value promised => ?_
      refine (induction fun item member => each item (List.mem_cons_of_mem _ member)).bind
        fun values rest => ?_
      exact Run.Meets.pure (List.forall_mem_cons.mpr ⟨promised, rest⟩)

namespace Graph

variable {operators : Operator → Prop} {constants : Value → Prop} {leaves : Leaf → Prop}
  {graph smaller : Graph}

/-- A node ends as its operator does. The mark of a failure makes no difference. -/
theorem node_ends (operator : Operator) (inputs : List Graph) (trace : Trace) :
    ((node operator inputs).value.after trace).1 =
      ((operator.evaluate (inputs.map toVariable)).after trace).1 := by
  rw [value, toVariable_node, Operator.applied]
  simp only [Run.recordError]
  split <;> simp_all

/-- Graphs of some operators over some constants and leaves. -/
inductive Over (operators : Operator → Prop) (constants : Value → Prop) (leaves : Leaf → Prop) :
    Graph → Prop
  | constant {value : Value} : constants value → Over operators constants leaves (constant value)
  | leaf {source : Leaf} : leaves source → Over operators constants leaves (leaf source)
  | list {elementType : ValueType} {items : List Graph} :
      (∀ item ∈ items, Over operators constants leaves item) →
      Over operators constants leaves (list elementType items)
  | node {operator : Operator} {inputs : List Graph} : operators operator →
      (∀ input ∈ inputs, Over operators constants leaves input) →
      Over operators constants leaves (node operator inputs)

/-- The graphs in which a graph occurs, itself among them. -/
inductive Part (part : Graph) : Graph → Prop
  | whole : Part part part
  | item {item : Graph} {elementType : ValueType} {items : List Graph} : item ∈ items →
      Part part item → Part part (list elementType items)
  | input {input : Graph} {operator : Operator} {inputs : List Graph} : input ∈ inputs →
      Part part input → Part part (node operator inputs)

theorem Over.part (made : graph.Over operators constants leaves) (within : smaller.Part graph) :
    smaller.Over operators constants leaves := by
  induction within with
  | whole => exact made
  | item member _ induction =>
      cases made with
      | list items => exact induction (items _ member)
  | input member _ induction =>
      cases made with
      | node _ inputs => exact induction (inputs _ member)

/-- What holds of constants and leaves, and passes through lists and operators, holds of graphs. -/
theorem Over.toVariable (made : graph.Over operators constants leaves)
    (property : Variable → Prop)
    (constant : ∀ value, constants value → property (.constant value))
    (leaf : ∀ source, leaves source → property source.toVariable)
    (list : ∀ elementType (items : List Variable), (∀ item ∈ items, property item) →
      property (.listOf elementType items))
    (node : ∀ operator (inputs : List Variable), operators operator →
      (∀ input ∈ inputs, property input) → property (operator.applied inputs)) :
    property graph.toVariable := by
  induction made with
  | constant admitted => exact constant _ admitted
  | leaf admitted => exact leaf _ admitted
  | list _ items =>
      rw [toVariable_list]
      exact list _ _ (List.forall_mem_map.mpr items)
  | node admitted _ inputs =>
      rw [toVariable_node]
      exact node _ _ admitted (List.forall_mem_map.mpr inputs)

end Graph

/-!
## Graphs with exchanged sources

Two graphs correspond when they apply the same operators in the same places, and differ in their
sources alone. A relation of variables that exchanged sources stand in, and that operators pass on,
holds between the whole graphs, and between any two nodes in the same place.
-/

namespace Graph

variable {sources : Graph → Graph → Prop} {operators : Operator → Prop}
  {constants : Value → Prop} {leaves : Leaf → Prop} {graph other part : Graph} {place : List Nat}

/-- Sources are no nodes. -/
def Atomic (sources : Graph → Graph → Prop) : Prop :=
  ∀ left right operator inputs, sources left right →
    left ≠ node operator inputs ∧ right ≠ node operator inputs

/-- Graphs that agree up to the exchange of sources. -/
inductive Corresponds (sources : Graph → Graph → Prop) : Graph → Graph → Prop
  | source {left right : Graph} : sources left right → Corresponds sources left right
  | node {operator : Operator} {inputs others : List Graph} : inputs.length = others.length →
      (∀ pair ∈ inputs.zip others, Corresponds sources pair.1 pair.2) →
      Corresponds sources (node operator inputs) (node operator others)

namespace Corresponds

theorem of_inputs {operator : Operator} {inputs others : List Graph}
    (each : List.Forall₂ (Corresponds sources) inputs others) :
    Corresponds sources (.node operator inputs) (.node operator others) := by
  obtain ⟨lengths, pairs⟩ := List.forall₂_iff_zip.mp each
  exact node lengths fun _ among => pairs among

/-- Only nodes of the same operator correspond to a node. -/
theorem exists_inputs {operator : Operator} {inputs : List Graph} (atomic : Atomic sources)
    (corresponds : Corresponds sources (.node operator inputs) other) :
    ∃ others, other = .node operator others ∧
      List.Forall₂ (Corresponds sources) inputs others := by
  cases corresponds with
  | source instead => exact absurd rfl (atomic _ _ _ _ instead).1
  | node lengths pairs =>
      exact ⟨_, rfl, List.forall₂_iff_zip.mpr ⟨lengths, fun among => pairs _ among⟩⟩

/-- A graph corresponds to itself if its sources may stay as they are. -/
theorem refl (made : graph.Over operators constants leaves)
    (stays : ∀ source, (∀ operator inputs, source ≠ .node operator inputs) →
      sources source source) :
    Corresponds sources graph graph := by
  induction made with
  | constant => exact source (stays _ nofun)
  | leaf => exact source (stays _ nofun)
  | list => exact source (stays _ nofun)
  | node _ _ inputs => exact of_inputs (List.forall₂_same.mpr inputs)

/-- What holds between exchanged sources, and passes through operators, holds between graphs. -/
theorem toVariable (corresponds : Corresponds sources graph other)
    (made : graph.Over operators constants leaves) {relation : Variable → Variable → Prop}
    (exchanged : ∀ left right, left.Over operators constants leaves → sources left right →
      relation left.toVariable right.toVariable)
    (applied : ∀ operator (inputs others : List Variable), operators operator →
      List.Forall₂ relation inputs others →
      relation (operator.applied inputs) (operator.applied others)) :
    relation graph.toVariable other.toVariable := by
  induction corresponds with
  | source instead => exact exchanged _ _ made instead
  | @node operator inputs others lengths _ each =>
      cases made with
      | node admitted within =>
          have wired : List.Forall₂ (fun left right : Graph =>
              relation left.toVariable right.toVariable) inputs others := by
            refine List.forall₂_iff_zip.mpr ⟨lengths, fun among => ?_⟩
            exact each _ among (within _ (List.of_mem_zip among).1)
          rw [toVariable_node, toVariable_node]
          apply applied _ _ _ admitted
          rwa [List.forall₂_map_left_iff, List.forall₂_map_right_iff]

end Corresponds

/-- The node that is reached from a graph through the inputs of nodes, by their indices. -/
def at? : List Nat → Graph → Option Graph
  | [], graph => some graph
  | index :: place, node _ inputs => inputs[index]?.bind (at? place)
  | _ :: _, _ => none

theorem part_of_at? (found : graph.at? place = some part) : part.Part graph := by
  induction place generalizing graph with
  | nil =>
      cases found
      exact .whole
  | cons index place induction =>
      cases graph with
      | node operator inputs =>
          obtain ⟨input, there, later⟩ := Option.bind_eq_some_iff.mp found
          exact .input (List.mem_of_getElem? there) (induction later)
      | _ => cases found

/-- Nodes in the same place correspond. -/
theorem Corresponds.at? (corresponds : Corresponds sources graph other) (atomic : Atomic sources)
    (found : graph.at? place = some part) :
    ∃ counterpart, other.at? place = some counterpart ∧ Corresponds sources part counterpart := by
  induction place generalizing graph other with
  | nil =>
      cases found
      exact ⟨other, rfl, corresponds⟩
  | cons index place induction =>
      cases graph with
      | node operator inputs =>
          obtain ⟨others, rfl, each⟩ := corresponds.exists_inputs atomic
          obtain ⟨input, there, later⟩ := Option.bind_eq_some_iff.mp found
          rcases getElem?_of_forall₂ each index with
            ⟨missing, -⟩ | ⟨input', partner, present, present', related⟩
          · cases missing.symm.trans there
          · obtain rfl : input' = input := Option.some.inj (present.symm.trans there)
            rw [Graph.at?, present']
            exact induction related later
      | _ => cases found

end Graph

end Dataflow

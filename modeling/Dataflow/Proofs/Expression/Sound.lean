import Dataflow.Expression
import Dataflow.Proofs.Catalogue.Sound
import Dataflow.Proofs.Graph.Handles
import Dataflow.Proofs.Registry

/-!
# Type soundness of expressions

An expression that can be built yields values of the very type that it declares, or fails in one of
two ways that no static check rules out. The strict discipline says so of every part, and building
keeps to it: its typing may evaluate parts, but these have been built and checked before.
-/

namespace Dataflow

namespace Graph

/-- Graphs that keep to the strict discipline, and whose reads differ in handles only. -/
structure Sound (type : ValueType) (graph : Graph) : Prop where
  typed : graph.toVariable.Typed Discipline.strict (.ok type)
  reproducible : graph.toVariable.Reproducible

/-- Reads of a graph end alike, up to a shift of handles. -/
theorem Sound.value_related {graph : Graph} {type : ValueType} (sound : graph.Sound type)
    (trace trace' : Trace) :
    ∃ offset, Outcome.Related (Value.Renamed (Shifted offset)) (graph.value.after trace).1
      (graph.value.after trace').1 := by
  have aligned : Shifted (trace'.handles - trace.handles) trace.handles trace'.handles := by
    simp only [Shifted]
    omega
  exact ⟨_, ((sound.reproducible _).value trace trace' aligned).1⟩

theorem sound_constant {value : Value} (literal : value.isLiteral = true) :
    (constant value).Sound value.type where
  typed := .ok (fun _ => rfl) (Run.Meets.pure trivial) (Discipline.meets_literal literal rfl)
  reproducible := by
    refine .constant ?_
    cases value with
    | list view => cases literal
    | _ => rfl

theorem sound_list {items : List Graph} {type : ValueType}
    (each : ∀ item ∈ items, item.Sound type) : (list type items).Sound .list where
  typed := by
    rw [toVariable_list]
    have typed : ∀ item ∈ items.map toVariable, item.Typed Discipline.strict (.ok type) :=
      List.forall_mem_map.mpr fun item member => (each item member).typed
    refine .ok (fun _ => rfl) (Run.Meets.pure trivial) ?_
    refine (valuesOf_meets fun item member => (typed item member).fits).bind
      fun values fits => Run.Meets.newList ?_ ?_
    · intro handle
      have plain := Value.Plain.ofList fits handle
      exact ⟨plain.uniform, plain.elementType_isConcrete⟩
    · exact fun handle => ⟨rfl, .ofList fits handle⟩
  reproducible := by
    rw [toVariable_list]
    exact .listOf (List.forall_mem_map.mpr fun item member => (each item member).reproducible)

theorem sound_node {operator : Operator} {inputs : List Graph} {types : List ValueType}
    (member : operator ∈ Catalogue.builtins)
    (wired : Discipline.strict.Wired types (inputs.map toVariable))
    (reproducible : ∀ input ∈ inputs.map toVariable, input.Reproducible)
    (accepted : operator.checkTypes (types.map some) = .ok ()) :
    ∃ type, (node operator inputs).Sound type := by
  obtain ⟨typing, typed⟩ := Catalogue.builtin_sound member (.checked accepted) _ wired
  obtain ⟨type, rfl⟩ := typed.exists_type id
  refine ⟨type, ?_, ?_⟩
  · rw [toVariable_node]
    exact Operator.applied_typed typed
  · rw [toVariable_node]
    exact .applied (Catalogue.builtFrom_parametric member) reproducible

end Graph

namespace Expression

theorem checkItems_meets {expected : ValueType} {graphs : List Graph}
    (each : ∀ graph ∈ graphs, ∃ type, graph.Sound type) (index : Nat) :
    (checkItems expected index graphs).Meets Discipline.strict.toAllowance (fun _ => True)
      fun _ => ∀ graph ∈ graphs, graph.Sound expected := by
  induction graphs generalizing index with
  | nil => exact Run.Meets.pure nofun
  | cons graph graphs induction =>
      obtain ⟨type, sound⟩ := each graph List.mem_cons_self
      rw [checkItems]
      refine sound.typed.type_meets.ofTyping.bind fun found same => ?_
      subst same
      split
      · rename_i expectedType
        subst expectedType
        refine (induction (fun graph member => each graph (List.mem_cons_of_mem _ member))
          (index + 1)).weaken fun _ rest => ?_
        exact List.forall_mem_cons.mpr ⟨sound, rest⟩
      · exact Run.Meets.fail trivial

theorem itemType_meets {graphs : List Graph} (each : ∀ graph ∈ graphs, ∃ type, graph.Sound type) :
    (itemType graphs).Meets Discipline.strict.toAllowance (fun _ => True)
      fun type => ∀ graph ∈ graphs, graph.Sound type := by
  cases graphs with
  | nil => exact Run.Meets.pure nofun
  | cons graph graphs =>
      obtain ⟨type, sound⟩ := each graph List.mem_cons_self
      rw [itemType]
      refine sound.typed.type_meets.ofTyping.bind fun found same => ?_
      subst same
      refine (checkItems_meets (fun graph member => each graph (List.mem_cons_of_mem _ member))
        1).bind fun _ rest => ?_
      exact Run.Meets.pure (List.forall_mem_cons.mpr ⟨sound, rest⟩)

theorem checkedNode_meets {operator : Operator} {inputs : List Graph}
    (member : operator ∈ Catalogue.builtins) (each : ∀ input ∈ inputs, ∃ type, input.Sound type) :
    (Graph.checkedNode operator inputs).Meets Discipline.strict.toAllowance (fun _ => True)
      fun graph => ∃ type, graph.Sound type := by
  have typed : ∀ input ∈ inputs.map Graph.toVariable,
      ∃ typing, input.Typed Discipline.strict typing :=
    List.forall_mem_map.mpr fun input among =>
      (each input among).elim fun type sound => ⟨.ok type, sound.typed⟩
  have reproducible : ∀ input ∈ inputs.map Graph.toVariable, input.Reproducible :=
    List.forall_mem_map.mpr fun input among =>
      (each input among).elim fun _ sound => sound.reproducible
  rw [Graph.checkedNode, Graph.toVariables_eq_map]
  refine (Operator.checkVariables_meets typed fun input among =>
    (reproducible input among).elementType_steady).bind fun _ passed => ?_
  obtain ⟨types, wired, accepted⟩ := passed
  exact Run.Meets.pure (Graph.sound_node member wired reproducible accepted)

mutual

/-- Building an expression keeps to the strict discipline, and so does what is built. -/
theorem build_meets : ∀ expression : Expression,
    (expression.build Registry.builtins).Meets Discipline.strict.toAllowance (fun _ => True)
      fun graph => ∃ type, graph.Sound type
  | boolean truth => Run.Meets.pure ⟨_, Graph.sound_constant rfl⟩
  | integer number => Run.Meets.pure ⟨_, Graph.sound_constant rfl⟩
  | double number => Run.Meets.pure ⟨_, Graph.sound_constant rfl⟩
  | string text => Run.Meets.pure ⟨_, Graph.sound_constant rfl⟩
  | list items => by
      rw [build]
      refine (buildAll_meets items).bind fun graphs each => ?_
      refine (itemType_meets each).bind fun type sound => ?_
      exact Run.Meets.pure ⟨_, Graph.sound_list sound⟩
  | apply key arguments => by
      rw [build]
      cases hit : Registry.builtins.find? key with
      | none => exact Run.Meets.fail trivial
      | some operator =>
          refine (buildAll_meets arguments).bind fun inputs each => ?_
          exact (checkedNode_meets (Registry.builtins_find?_mem hit) each).mapError
            fun _ _ => trivial

theorem buildAll_meets : ∀ expressions : List Expression,
    (buildAll Registry.builtins expressions).Meets Discipline.strict.toAllowance (fun _ => True)
      fun graphs => ∀ graph ∈ graphs, ∃ type, graph.Sound type
  | [] => Run.Meets.pure nofun
  | expression :: expressions => by
      rw [buildAll]
      refine (build_meets expression).bind fun graph sound => ?_
      refine (buildAll_meets expressions).bind fun graphs rest => ?_
      exact Run.Meets.pure (List.forall_mem_cons.mpr ⟨sound, rest⟩)

end

/-- Building an expression ends without a fault, and what it builds has one type. Every read of it
yields a value of this very type, or fails by a division by zero or an index out of bounds. All
lists made on the way hold elements of their declared type, which is concrete unless they are
empty. -/
theorem build_type_sound (expression : Expression) (start : Trace) :
    match (expression.build Registry.builtins).after start with
    | (.fault _, _) => False
    | (.error _, later) => start.Extends Event.Expected later
    | (.ok graph, later) =>
        start.Extends Event.Expected later ∧ ∃ type, ∀ trace : Trace,
          (graph.type.after trace).1 = .ok type ∧
          trace.Extends Event.Expected (graph.type.after trace).2 ∧
          (match (graph.value.after trace).1 with
            | .ok value => value.type = type ∧ value.Plain
            | .error cause => cause = .divisionByZero ∨
                ∃ index length, cause = .indexOutOfBounds index length
            | .fault _ => False) ∧
          trace.Extends Event.Expected (graph.value.after trace).2 := by
  obtain ⟨ended, recorded⟩ := build_meets expression start
  generalize (expression.build Registry.builtins).after start = finish at ended recorded ⊢
  obtain ⟨outcome, later⟩ := finish
  cases outcome with
  | fault reason => exact ended
  | error cause => exact recorded
  | ok graph =>
      obtain ⟨type, sound⟩ := ended
      refine ⟨recorded, type, fun trace => ?_⟩
      refine ⟨sound.typed.type trace, (sound.typed.quiet trace).2, ?_,
        (sound.typed.value trace).2⟩
      have promised := (sound.typed.fits trace).1
      change match (graph.toVariable.value.after trace).1 with
        | .ok value => value.type = type ∧ value.Plain
        | .error cause => cause = .divisionByZero ∨
            ∃ index length, cause = .indexOutOfBounds index length
        | .fault _ => False
      generalize (graph.toVariable.value.after trace).1 = outcome at promised ⊢
      cases outcome with
      | ok value => exact promised
      | fault reason => exact promised
      | error cause =>
          cases cause with
          | divisionByZero => exact .inl rfl
          | indexOutOfBounds index length => exact .inr ⟨index, length, rfl⟩
          | _ => exact absurd promised id

end Expression

end Dataflow

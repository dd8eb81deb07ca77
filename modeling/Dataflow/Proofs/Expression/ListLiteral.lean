import Dataflow.Proofs.Catalogue.Lists
import Dataflow.Proofs.Expression.Checks

/-!
# Elements of list literals

The element of a list that is written out is worth what the item at that index is worth on its own,
provided that all items can be evaluated: the whole list is made before the index is read. An item
that fails decides alone, whatever the index is, and leaves the type of the element open. Every read
makes new lists, so two values of one expression may differ in the handles of lists.
-/

namespace Dataflow

/-- Values that differ in the handles of lists only. -/
def Value.Reread (value other : Value) : Prop :=
  ∃ offset, value.Renamed (Shifted offset) other

/-- Without lists nothing is made anew. -/
theorem Value.Reread.eq {value other : Value} (single : value.list? = none)
    (reread : value.Reread other) : other = value := by
  obtain ⟨offset, renamed⟩ := reread
  exact (Value.congruence_shifted offset).plain single renamed

namespace Expression

/-- Building an expression gives a graph, whatever has happened before. -/
def Builds (expression : Expression) (graph : Graph) : Prop :=
  (expression.build Registry.builtins).Steady (.ok graph)

/-- What the graph of an expression is worth after some trace. -/
def Evaluates (expression : Expression) (outcome : Outcome EvaluationError Value) : Prop :=
  ∃ graph trace, expression.Builds graph ∧ (graph.value.after trace).1 = outcome

/-- The declared type of the graph of an expression. -/
def Declares (expression : Expression) (type : ValueType) : Prop :=
  ∃ graph, expression.Builds graph ∧ graph.type.Steady (.ok type)

variable {expression failing position : Expression} {items earlier later : List Expression}
  {graph place : Graph} {graphs : List Graph} {outcome outcome' : Outcome EvaluationError Value}
  {value : Value} {values : List Value} {cause : EvaluationError} {type : ValueType}
  {trace last : Trace}

/-! ## All evaluations of an expression -/

theorem Builds.unique {graph' : Graph} (builds : expression.Builds graph)
    (builds' : expression.Builds graph') : graph' = graph := by
  cases Run.Steady.unique builds builds'
  rfl

theorem Builds.evaluates (builds : expression.Builds graph) (trace : Trace) :
    expression.Evaluates (graph.value.after trace).1 :=
  ⟨graph, trace, builds, rfl⟩

/-- All evaluations of an expression end alike. -/
theorem Evaluates.related (evaluates : expression.Evaluates outcome)
    (evaluates' : expression.Evaluates outcome') :
    Outcome.Related Value.Reread outcome outcome' := by
  obtain ⟨graph, trace, builds, rfl⟩ := evaluates
  obtain ⟨graph', trace', builds', rfl⟩ := evaluates'
  obtain rfl := builds.unique builds'
  obtain ⟨type, sound⟩ := Run.Steady.promised builds expression.build_meets
  obtain ⟨offset, related⟩ := sound.value_related trace trace'
  generalize (graph'.value.after trace).1 = left at related ⊢
  generalize (graph'.value.after trace').1 = right at related ⊢
  cases related with
  | ok renamed => exact .ok ⟨offset, renamed⟩
  | error cause => exact .error cause
  | fault reason => exact .fault reason

theorem Builds.exists_value (builds : expression.Builds graph)
    (evaluates : expression.Evaluates (.ok value)) (trace : Trace) :
    ∃ other later, graph.value.after trace = (.ok other, later) ∧ value.Reread other := by
  have related := evaluates.related (builds.evaluates trace)
  generalize graph.value.after trace = finish at related ⊢
  obtain ⟨outcome, later⟩ := finish
  cases related with
  | ok reread => exact ⟨_, later, rfl, reread⟩

theorem Builds.exists_error (builds : expression.Builds graph)
    (evaluates : expression.Evaluates (.error cause)) (trace : Trace) :
    ∃ later, graph.value.after trace = (.error cause, later) := by
  have related := evaluates.related (builds.evaluates trace)
  generalize graph.value.after trace = finish at related ⊢
  obtain ⟨outcome, later⟩ := finish
  cases related with
  | error => exact ⟨later, rfl⟩

/-! ## Items -/

theorem valuesOf_cons_after (read : graph.value.after trace = (.ok value, last)) :
    (valuesOf ((graph :: graphs).map Graph.toVariable)).after trace =
      (valuesOf (graphs.map Graph.toVariable) >>=
        fun values => pure (value :: values)).after last :=
  Run.after_bind_of_ok read

/-- Items that can all be evaluated are, one after the other. -/
theorem exists_valuesOf (built : List.Forall₂ Builds items graphs)
    (each : List.Forall₂ (fun item value => item.Evaluates (.ok value)) items values)
    (trace : Trace) :
    ∃ others last, (valuesOf (graphs.map Graph.toVariable)).after trace = (.ok others, last) ∧
      List.Forall₂ Value.Reread values others := by
  induction built generalizing values trace with
  | nil =>
      cases each
      exact ⟨[], trace, rfl, .nil⟩
  | cons builds _ induction =>
      obtain ⟨value, values, evaluates, rest, rfl⟩ := List.forall₂_cons_left_iff.mp each
      obtain ⟨other, between, read, same⟩ := builds.exists_value evaluates trace
      obtain ⟨others, last, read', same'⟩ := induction rest between
      refine ⟨other :: others, last, ?_, .cons same same'⟩
      rw [valuesOf_cons_after read, Run.after_bind_of_ok read']
      rfl

/-- The first item that fails is the last one that is read. -/
theorem exists_valuesOf_error (built : List.Forall₂ Builds (earlier ++ failing :: later) graphs)
    (each : ∀ item ∈ earlier, ∃ value, item.Evaluates (.ok value))
    (fails : failing.Evaluates (.error cause)) (trace : Trace) :
    ∃ last, (valuesOf (graphs.map Graph.toVariable)).after trace = (.error cause, last) := by
  induction earlier generalizing graphs trace with
  | nil =>
      obtain ⟨graph, graphs, builds, -, rfl⟩ := List.forall₂_cons_left_iff.mp built
      obtain ⟨last, ended⟩ := builds.exists_error fails trace
      exact ⟨last, Run.after_bind_of_error ended⟩
  | cons item earlier induction =>
      obtain ⟨graph, graphs, builds, rest, rfl⟩ := List.forall₂_cons_left_iff.mp built
      obtain ⟨⟨expected, evaluates⟩, each'⟩ := List.forall_mem_cons.mp each
      obtain ⟨value, between, read, -⟩ := builds.exists_value evaluates trace
      obtain ⟨last, ended⟩ := induction rest each' between
      refine ⟨last, ?_⟩
      rw [valuesOf_cons_after read, Run.after_bind_of_error ended]

/-- Every read of a list whose items can all be evaluated makes a list of their values. -/
theorem exists_list_after (type : ValueType) (built : List.Forall₂ Builds items graphs)
    (each : List.Forall₂ (fun item value => item.Evaluates (.ok value)) items values)
    (trace : Trace) :
    ∃ handle others last, (Graph.list type graphs).value.after trace =
        (.ok (.list (.ofList handle type others)), last) ∧
      List.Forall₂ Value.Reread values others := by
  obtain ⟨others, last, read, same⟩ := exists_valuesOf built each trace
  rw [Graph.value, Graph.toVariable_list]
  exact ⟨last.handles, others, _, Run.after_bind_of_ok read, same⟩

theorem exists_list_error (type : ValueType)
    (built : List.Forall₂ Builds (earlier ++ failing :: later) graphs)
    (each : ∀ item ∈ earlier, ∃ value, item.Evaluates (.ok value))
    (fails : failing.Evaluates (.error cause)) (trace : Trace) :
    ∃ last, (Graph.list type graphs).value.after trace = (.error cause, last) := by
  obtain ⟨last, read⟩ := exists_valuesOf_error built each fails trace
  rw [Graph.value, Graph.toVariable_list]
  exact ⟨last, Run.after_bind_of_error read⟩

/-! ## The graph of an element -/

theorem builds_of_buildAll
    (ended : (buildAll Registry.builtins items).after trace = (.ok graphs, last)) :
    List.Forall₂ Builds items graphs := by
  induction items generalizing graphs trace with
  | nil =>
      cases ended
      exact .nil
  | cons item items induction =>
      rw [buildAll] at ended
      obtain ⟨graph, between, first, ended⟩ := Run.bind_eq_ok ended
      obtain ⟨graphs, between', rest, ended⟩ := Run.bind_eq_ok ended
      cases ended
      exact .cons (item.built_steady (congrArg Prod.fst first)) (induction rest)

/-- A list that builds has items that build, with one declared type. -/
theorem exists_items_of_builds (builds : (list items).Builds graph) :
    ∃ type graphs, graph = .list type graphs ∧ List.Forall₂ Builds items graphs ∧
      (∀ part ∈ graphs, part.Sound type) ∧ (items = [] → type = .placeholder .any) := by
  have ended : ((list items).build Registry.builtins).after .empty =
      (.ok graph, (((list items).build Registry.builtins).after .empty).2) :=
    Prod.ext (builds .empty) rfl
  rw [build] at ended
  obtain ⟨graphs, between, first, ended⟩ := Run.bind_eq_ok ended
  obtain ⟨type, between', typed, ended⟩ := Run.bind_eq_ok ended
  cases ended
  have built := builds_of_buildAll first
  have each : ∀ part ∈ graphs, ∃ type, part.Sound type := by
    have promised := (buildAll_meets items .empty).1
    rwa [first] at promised
  have sound := (itemType_meets each between).1
  rw [typed] at sound
  refine ⟨type, graphs, rfl, built, sound, ?_⟩
  rintro rfl
  cases built
  cases typed
  rfl

theorem declares_of_sound (built : List.Forall₂ Builds items graphs)
    (sound : ∀ part ∈ graphs, part.Sound type) : ∀ item ∈ items, item.Declares type := by
  induction built with
  | nil => nofun
  | @cons _ graph _ _ builds _ induction =>
      obtain ⟨here, rest⟩ := List.forall_mem_cons.mp sound
      exact List.forall_mem_cons.mpr ⟨⟨graph, builds, here.typed.type⟩, induction rest⟩

/-- An application of the operator that pulls elements has a list and an index, which build on their
own. -/
theorem exists_inputs_of_built {key : String} {start : Trace}
    (named : Registry.builtins.find? key = some Catalogue.element)
    (built : (apply key [list items, position]).built start = .ok graph) :
    ∃ listed place, graph = .node Catalogue.element [listed, place] ∧
      (list items).Builds listed ∧ position.Builds place := by
  have ended := built_steady _ built .empty
  rw [build, named] at ended
  obtain ⟨inputs, between, first, ended⟩ := Run.bind_eq_ok (Prod.ext ended rfl)
  obtain ⟨checked, between', passed, ended⟩ := Run.bind_eq_ok (Run.mapError_eq_ok ended)
  cases ended
  have parts := builds_of_buildAll first
  obtain ⟨listed, inputs, builds, rest, rfl⟩ := List.forall₂_cons_left_iff.mp parts
  obtain ⟨place, inputs, builds', rest', rfl⟩ := List.forall₂_cons_left_iff.mp rest
  cases rest'
  exact ⟨listed, place, rfl, builds, builds'⟩

/-! ## Elements -/

/-- The element at an index in range is the value of the item there, read once more. -/
theorem element_value (type : ValueType) (built : List.Forall₂ Builds items graphs)
    (placed : position.Builds place)
    (each : List.Forall₂ (fun item value => item.Evaluates (.ok value)) items values)
    {index : Int32} (indexed : position.Evaluates (.ok (.integer index))) (trace : Trace) :
    let ended := ((Graph.node Catalogue.element [.list type graphs, place]).value.after trace).1
    if 0 ≤ index.toInt ∧ index.toInt < items.length then
      ∃ expected value, values[index.toInt.toNat]? = some expected ∧ ended = .ok value ∧
        expected.Reread value
    else ended = .error (.indexOutOfBounds index.toInt items.length) := by
  intro ended
  obtain ⟨handle, others, between, listed, same⟩ := exists_list_after type built each trace
  obtain ⟨_, later, found, reread⟩ := placed.exists_value indexed between
  cases reread.eq rfl
  have pulled : ended = _ := (Graph.node_ends ..).trans <|
    congrArg Prod.fst ((Catalogue.element_after listed found).trans (Catalogue.elementAt_after ..))
  have count : others.length = items.length := same.length_eq.symm.trans each.length_eq.symm
  have length : (ListView.ofList handle type others).length = items.length := count
  rw [length] at pulled
  split
  case isTrue inside =>
    rw [if_pos inside] at pulled
    obtain ⟨-, missing⟩ | ⟨expected, value, given, stored, same⟩ :=
      getElem?_of_forall₂ same index.toInt.toNat
    · rw [List.getElem?_eq_none_iff] at missing
      omega
    · refine ⟨expected, value, given, ?_, same⟩
      simp only [ListView.ofList, List.getElem?_toArray, stored] at pulled
      exact pulled
  case isFalse outside =>
    rw [if_neg outside] at pulled
    exact pulled

/-- An index that fails is not read before all items have been. -/
theorem element_value_of_index_error (type : ValueType) (built : List.Forall₂ Builds items graphs)
    (placed : position.Builds place)
    (each : List.Forall₂ (fun item value => item.Evaluates (.ok value)) items values)
    (fails : position.Evaluates (.error cause)) :
    (Graph.node Catalogue.element [.list type graphs, place]).value.Steady (.error cause) := by
  intro trace
  obtain ⟨_, _, between, listed, -⟩ := exists_list_after type built each trace
  obtain ⟨later, ended⟩ := placed.exists_error fails between
  rw [Graph.node_ends]
  exact congrArg Prod.fst (Catalogue.element_after_of_index_error listed ended)

theorem element_typedByItems (sound : ∀ part ∈ graphs, part.Sound type) (place : Graph) :
    (Graph.list type graphs).TypedByElements
      (.node Catalogue.element [.list type graphs, place]) :=
  Graph.element_typedByElements (Graph.sound_list sound)

theorem element_type (sound : ∀ part ∈ graphs, part.Sound type)
    (built : List.Forall₂ Builds items graphs)
    (each : List.Forall₂ (fun item value => item.Evaluates (.ok value)) items values) :
    (Graph.node Catalogue.element [.list type graphs, place]).type.Steady (.ok type) := by
  intro trace
  obtain ⟨_, _, _, listed, -⟩ := exists_list_after type built each trace
  have typed := element_typedByItems sound place trace
  rwa [listed] at typed

theorem element_of_item_error (sound : ∀ part ∈ graphs, part.Sound type)
    (built : List.Forall₂ Builds (earlier ++ failing :: later) graphs)
    (each : ∀ item ∈ earlier, ∃ value, item.Evaluates (.ok value))
    (fails : failing.Evaluates (.error cause)) :
    let element := Graph.node Catalogue.element [.list type graphs, place]
    element.value.Steady (.error cause) ∧ element.type.Steady (.ok (.placeholder .any)) := by
  refine ⟨fun trace => ?value, fun trace => ?type⟩
  all_goals
    obtain ⟨last, unlisted⟩ := exists_list_error type built each fails trace
  case value =>
    rw [Graph.node_ends]
    exact congrArg Prod.fst (Catalogue.element_after_of_list_error unlisted)
  case type =>
    have typed := element_typedByItems sound place trace
    rwa [unlisted] at typed

/-- The element of a list literal. All items have one declared type. If all of them can be
evaluated, this is the type of the element, and the element is the value of the item at the index,
or out of bounds, or fails as the index does. Otherwise it fails as the first item that fails, and
nothing is known of its type. -/
theorem element_of_list {key : String} {start : Trace}
    (named : Registry.builtins.find? key = some Catalogue.element)
    (built : (apply key [list items, position]).built start = .ok graph) :
    ∃ type, (∀ item ∈ items, item.Declares type) ∧ (items = [] → type = .placeholder .any) ∧
      (∀ values, List.Forall₂ (fun item value => item.Evaluates (.ok value)) items values →
        graph.type.Steady (.ok type) ∧
        (∀ index : Int32, position.Evaluates (.ok (.integer index)) → ∀ trace,
          if 0 ≤ index.toInt ∧ index.toInt < items.length then
            ∃ expected value, values[index.toInt.toNat]? = some expected ∧
              (graph.value.after trace).1 = .ok value ∧ expected.Reread value
          else (graph.value.after trace).1 = .error (.indexOutOfBounds index.toInt items.length)) ∧
        ∀ cause, position.Evaluates (.error cause) → graph.value.Steady (.error cause)) ∧
      ∀ earlier failing later cause, items = earlier ++ failing :: later →
        (∀ item ∈ earlier, ∃ value, item.Evaluates (.ok value)) →
        failing.Evaluates (.error cause) →
        graph.value.Steady (.error cause) ∧ graph.type.Steady (.ok (.placeholder .any)) := by
  obtain ⟨listed, place, rfl, builds, placed⟩ := exists_inputs_of_built named built
  obtain ⟨type, graphs, rfl, parts, sound, empty⟩ := exists_items_of_builds builds
  refine ⟨type, ?declared, empty, ?values, ?failure⟩
  case declared => exact declares_of_sound parts sound
  case values =>
    intro values each
    exact ⟨element_type sound parts each, fun index => element_value type parts placed each,
      fun cause => element_value_of_index_error type parts placed each⟩
  case failure =>
    rintro earlier failing later cause rfl each fails
    exact element_of_item_error sound parts each fails

/-- An index past the end of a list of one item. -/
def overrun : Expression := apply "get" [list [integer 8], integer 2]

/-- The first of two items that fail decides, even if the index is that of one which does not. -/
theorem element_of_list_overrun :
    let items := [integer 7, overrun, apply "/" [integer 7, integer 0]]
    ∃ graph, (apply "get" [list items, integer 0]).built .empty = .ok graph ∧
      graph.value.Steady (.error (.indexOutOfBounds 2 1)) ∧
      graph.type.Steady (.ok (.placeholder .any)) := by
  intro items
  have named : Registry.builtins.find? "get" = some Catalogue.element := by
    refine Registry.builtins_find?_eq_some_iff.mpr ⟨?_, .inl rfl⟩
    simp [Catalogue.builtins, Catalogue.lists]
  have named' : Registry.builtins.find? "/" = some Catalogue.division := by
    refine Registry.builtins_find?_eq_some_iff.mpr ⟨?_, .inl rfl⟩
    simp [Catalogue.builtins, Catalogue.arithmetic]
  have builds : overrun.Builds (.node Catalogue.element
      [.list .integer [.constant (.integer 8)], .constant (.integer 2)]) := by
    intro trace
    rw [overrun, build, named]
    rfl
  have fails : overrun.Evaluates (.error (.indexOutOfBounds 2 1)) := ⟨_, .empty, builds, rfl⟩
  have before : ∀ item ∈ [integer 7], ∃ value, item.Evaluates (.ok value) :=
    List.forall_mem_singleton.mpr ⟨_, .constant (.integer 7), .empty, fun _ => rfl, rfl⟩
  have built : ∃ graph, (apply "get" [list items, integer 0]).built .empty = .ok graph := by
    rw [Expression.built, build, named]
    simp only [items, overrun, buildAll, build, named, named']
    exact ⟨_, rfl⟩
  obtain ⟨graph, built⟩ := built
  obtain ⟨type, -, -, -, failure⟩ := element_of_list named built
  exact ⟨graph, built, failure [integer 7] overrun _ _ rfl before fails⟩

end Expression

end Dataflow

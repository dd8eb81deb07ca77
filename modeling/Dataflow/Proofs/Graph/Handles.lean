import Dataflow.Proofs.Graph.Parts
import Dataflow.Proofs.Operator.Refinement

/-!
# Handles of lists

A handle tells a list from other lists, and nothing else. It is a new one whenever a list is made,
and which one it is cannot be seen.
-/

namespace Dataflow

/-!
## Reproducible variables

A variable that makes lists yields a new one on every read, under a new handle. It is reproducible
when this is all that tells two reads apart: shift the handles that are in use by any distance, and
the handles in its values shift with them. What it shows of its type and of its elements is then the
same on every read.
-/

/-- Handles at a fixed distance. -/
def Shifted (offset : Int) (handle other : Nat) : Prop :=
  (handle : Int) + offset = other

theorem shifted_biUnique (offset : Int) : Relator.BiUnique (Shifted offset) := by
  constructor
  · intro handle other shifted first second
    simp only [Shifted] at first second
    omega
  · intro handle shifted other first second
    simp only [Shifted] at first second
    omega

/-- Without a host, operators do not see by how much the handles of lists are shifted. -/
theorem Value.congruence_shifted (offset : Int) :
    Value.Congruence (Value.Renamed (Shifted offset)) :=
  Value.congruence_renamed (shifted_biUnique offset) (HostArithmetic.absent_answers _)

/-- Counters at a fixed distance give out handles at this distance. -/
theorem Shifted.succ {offset : Int} {handle other : Nat} (shifted : Shifted offset handle other) :
    Shifted offset handle other ∧ Shifted offset (handle + 1) (other + 1) := by
  simp only [Shifted] at shifted ⊢
  omega

/-- Two reads differ in the names of handles only. -/
def Variable.Reproducible (input : Variable) : Prop :=
  ∀ offset, Variable.Alike (Shifted offset) (Value.Renamed (Shifted offset)) input input

/-- A run that ends alike wherever its handles start is steady. -/
theorem Run.Steady.of_shifted {ε α : Type} {run : Run ε α}
    (shifted : ∀ offset, Run.Related (Shifted offset) Eq run run) :
    ∃ outcome, run.Steady outcome := by
  refine ⟨(run.after .empty).1, fun trace => ?_⟩
  have aligned : Shifted (-(trace.handles : Int)) trace.handles Trace.empty.handles := by
    simp only [Shifted, Trace.empty]
    omega
  exact Outcome.Related.eq_iff.mp (shifted _ trace .empty aligned).1

/-- Lists made under corresponding handles of items that agree agree. -/
theorem Run.newList_related {ε : Type} {aligned same : Nat → Nat → Prop}
    {elementType : ValueType} {items others : List Value}
    (renamed : List.Forall₂ (Value.Renamed same) items others)
    (counters : ∀ handle other, aligned handle other →
      same handle other ∧ aligned (handle + 1) (other + 1)) :
    Run.Related aligned (Value.Renamed same)
      (Run.newList elementType items : Run ε Value) (Run.newList elementType others) := by
  intro before before' corresponding
  have lengths : items.toArray.size = others.toArray.size := renamed.length_eq
  obtain ⟨handles, later⟩ := counters _ _ corresponding
  refine ⟨.ok (.list handles rfl lengths fun index _ => ?_), later⟩
  rcases getElem?_of_forall₂ renamed index with
    ⟨missing, missing'⟩ | ⟨item, other, found, found', agreed⟩
  · simp only [ListView.ofList, List.getElem?_toArray, missing, missing', lengths]
    exact .error _
  · simp only [ListView.ofList, List.getElem?_toArray, found, found']
    exact .ok agreed

theorem valuesOf_related {aligned : Nat → Nat → Prop} {agree : Value → Value → Prop}
    {items : List Variable} (each : ∀ item ∈ items, item.Agrees aligned agree item) :
    Run.Related aligned (List.Forall₂ agree) (valuesOf items) (valuesOf items) := by
  induction items with
  | nil => exact Run.Related.pure .nil
  | cons item items induction =>
      rw [valuesOf]
      refine Run.Related.bind (each item List.mem_cons_self) fun agreed => ?_
      refine Run.Related.bind
        (induction fun item member => each item (List.mem_cons_of_mem _ member)) fun rest => ?_
      exact Run.Related.pure (.cons agreed rest)

namespace Variable.Reproducible

theorem constant {value : Value} (noList : value.list? = none) :
    (Variable.constant value).Reproducible :=
  fun _ => ⟨Run.Related.pure (.plain noList), Run.Related.pure rfl⟩

theorem listOf {elementType : ValueType} {items : List Variable}
    (each : ∀ item ∈ items, item.Reproducible) :
    (Variable.listOf elementType items).Reproducible := by
  intro offset
  have values := valuesOf_related fun item member => (each item member offset).value
  refine ⟨Run.Related.bind values fun renamed => ?_, Run.Related.pure rfl⟩
  exact Run.newList_related renamed fun _ _ shifted => shifted.succ

/-- Operators see no handles, and so keep reproducible what they are applied to. -/
theorem applied {operator : Operator} (built : operator.BuiltFrom Primitive.Parametric)
    {inputs : List Variable} (each : ∀ input ∈ inputs, input.Reproducible) :
    (operator.applied inputs).Reproducible := by
  intro offset
  apply built.applied_alike (Value.congruence_shifted offset)
  exact List.forall₂_same.mpr fun input member => each input member offset

/-- The element type that a reproducible variable shows is always the same. -/
theorem elementType_steady {input : Variable} (reproducible : input.Reproducible) :
    ∃ refined, (OutputRule.elementType [input]).Steady refined := by
  refine Run.Steady.of_shifted fun offset => ?_
  exact OutputRule.elementType_parametric (Value.congruence_shifted offset)
    (.cons (reproducible offset) .nil)

end Variable.Reproducible

/-!
## Lists can be exchanged

A view that produces its elements on demand can stand for a list in memory, and the other way round,
if both have one element type, one length, and the same elements within this length. Handles may
change, as long as distinct ones stay distinct. What a view would produce past its end is not seen:
no graph over constants tells the two apart, in the type, in the check or in the value of any node.
-/

/-- A view stands for a list in memory when it has the same elements up to its length. It may
produce anything from there on. -/
theorem Value.Renamed.ofList {same : Nat → Nat → Prop} {handle handle' : Nat}
    {elementType : ValueType} {items : List Value} {element : Nat → Except EvaluationError Value}
    (handles : same handle handle')
    (elements : ∀ index item, items[index]? = some item →
      ∃ other, element index = .ok other ∧ Value.Renamed same item other) :
    Value.Renamed same (.list (.ofList handle elementType items))
      (.list ⟨handle', elementType, items.length, element⟩) := by
  refine .list handles rfl rfl fun index inside => ?_
  have within : index < items.length := inside
  obtain ⟨other, produced, renamed⟩ :=
    elements index items[index] (List.getElem?_eq_getElem within)
  simp only [ListView.ofList, List.getElem?_toArray, List.getElem?_eq_getElem within, produced]
  exact .ok renamed

variable {same : Nat → Nat → Prop}

/-- Two variables that answer every read in one way, with values that are the same up to the names
of handles, and that declare one type. -/
structure Variable.Exchangeable (same : Nat → Nat → Prop) (input other : Variable) : Prop where
  steady : ∃ outcome, input.value.Steady outcome
  otherSteady : ∃ outcome, other.value.Steady outcome
  alike : Variable.Alike (fun _ _ => True) (Value.Renamed same) input other

namespace Variable.Exchangeable

theorem constant {value other : Value} (renamed : Value.Renamed same value other) :
    Exchangeable same (.constant value) (.constant other) where
  steady := ⟨.ok value, fun _ => rfl⟩
  otherSteady := ⟨.ok other, fun _ => rfl⟩
  alike := by
    refine ⟨Run.Related.pure renamed, Run.Related.pure ?_⟩
    cases renamed with
    | plain => rfl
    | list => rfl

/-- Operators cannot tell exchangeable inputs apart. -/
theorem applied [HostArithmetic] {operator : Operator} (distinct : Relator.BiUnique same)
    (kept : HostArithmetic.Answers fun answer => Value.Renamed same answer answer)
    (built : operator.BuiltFrom Primitive.Parametric) {inputs others : List Variable}
    (wired : List.Forall₂ (Exchangeable same) inputs others) :
    Exchangeable same (operator.applied inputs) (operator.applied others) := by
  have here := (List.forall₂_and_left _ _).mp (wired.imp fun _ _ pair => ⟨pair.steady, pair⟩)
  have there := (List.forall₂_and_left _ _).mp
    (wired.flip.imp fun _ _ pair => ⟨pair.otherSteady, pair⟩)
  refine ⟨built.applied_steady here.1, built.applied_steady there.1, ?_⟩
  exact built.applied_alike (Value.congruence_renamed distinct kept)
    (wired.imp fun _ _ pair => pair.alike)

/-- Exchangeable variables end in related ways. -/
theorem results {input other : Variable} (exchangeable : Exchangeable same input other) :
    ∃ result result', input.value.Steady result ∧ other.value.Steady result' ∧
      Outcome.Related (Value.Renamed same) result result' := by
  obtain ⟨result, ends⟩ := exchangeable.steady
  obtain ⟨result', ends'⟩ := exchangeable.otherSteady
  refine ⟨result, result', ends, ends', ?_⟩
  rw [← ends .empty, ← ends' .empty]
  exact (exchangeable.alike.value .empty .empty trivial).1

end Variable.Exchangeable

namespace Graph

variable {graph other part : Graph} {place : List Nat}

/-- Constants that are the same up to the names of handles, and to what lists produce past their
ends. -/
inductive Exchanged (same : Nat → Nat → Prop) : Graph → Graph → Prop
  | constant {value other : Value} : Value.Renamed same value other →
      Exchanged same (constant value) (constant other)

theorem exchanged_atomic : Atomic (Exchanged same) := by
  rintro left right operator inputs ⟨_⟩
  exact ⟨nofun, nofun⟩

theorem Corresponds.exchangeable [HostArithmetic] (distinct : Relator.BiUnique same)
    (kept : HostArithmetic.Answers fun answer => Value.Renamed same answer answer)
    (made : graph.Over Operator.Derived (fun _ => True) fun _ => False)
    (corresponds : graph.Corresponds (Exchanged same) other) :
    Variable.Exchangeable same graph.toVariable other.toVariable := by
  apply corresponds.toVariable made
  · rintro _ _ _ ⟨renamed⟩
    exact .constant renamed
  · exact fun operator inputs others derived wired => .applied distinct kept derived.builtFrom wired

/-- In a graph of derived operators over constants, exchanging lists leaves to every node its
declared type, the verdict on its wiring and its result: the same error, or the same value up to the
lists that are exchanged in it. Lists that the arithmetic of a host answers are not exchanged. -/
theorem interchange [HostArithmetic] (distinct : Relator.BiUnique same)
    (kept : HostArithmetic.Answers fun answer => Value.Renamed same answer answer)
    (made : graph.Over Operator.Derived (fun _ => True) fun _ => False)
    (corresponds : graph.Corresponds (Exchanged same) other)
    (found : graph.at? place = some part) :
    ∃ counterpart, other.at? place = some counterpart ∧
      (∃ typing, part.type.Steady typing ∧ counterpart.type.Steady typing) ∧
      (∃ result result', part.value.Steady result ∧ counterpart.value.Steady result' ∧
        Outcome.Related (Value.Renamed same) result result') ∧
      ∀ operator inputs, part = node operator inputs →
        ∃ others verdict, counterpart = node operator others ∧
          (operator.checkVariables (inputs.map toVariable)).Steady verdict ∧
          (operator.checkVariables (others.map toVariable)).Steady verdict := by
  have within := made.part (part_of_at? found)
  obtain ⟨counterpart, reached, corresponding⟩ := corresponds.at? exchanged_atomic found
  have exchangeable := corresponding.exchangeable distinct kept within
  refine ⟨counterpart, reached, Run.Steady.both_of_related exchangeable.alike.type,
    exchangeable.results, ?_⟩
  rintro operator inputs rfl
  obtain ⟨others, rfl, each⟩ := corresponding.exists_inputs exchanged_atomic
  have wired : List.Forall₂ (Variable.Alike (fun _ _ => True) (Value.Renamed same))
      (inputs.map toVariable) (others.map toVariable) := by
    cases within with
    | node _ inputsMade =>
        rw [List.forall₂_map_left_iff, List.forall₂_map_right_iff]
        have both := (List.forall₂_and_left _ _).mpr ⟨inputsMade, each⟩
        exact both.imp fun input partner pair => (pair.2.exchangeable distinct kept pair.1).alike
  obtain ⟨verdict, here, there⟩ :=
    Run.Steady.both_of_related (Operator.checkVariables_related wired)
  exact ⟨others, verdict, rfl, here, there⟩

/-- Two integers in memory. -/
def storedPair : ListView Value := .ofList 0 .integer [.integer 7, .integer 8]

/-- The same two integers as a view, which has something else behind them. -/
def producedPair : ListView Value where
  handle := 3
  elementType := .integer
  length := 2
  element
    | 0 => .ok (.integer 7)
    | 1 => .ok (.integer 8)
    | _ => .ok (.boolean true)

/-- An element of a list, plus the length of the list. -/
def elementPlusLength (view : ListView Value) (index : Int32) : Graph :=
  node Catalogue.addition
    [node Catalogue.element [constant (.list view), constant (.integer index)],
      node Catalogue.listLength [constant (.list view)]]

/-- The view has a handle of its own. -/
def renumbered (handle other : Nat) : Prop := handle = 0 ∧ other = 3

theorem pair_interchange :
    (elementPlusLength storedPair 2).value.Steady (.error (.indexOutOfBounds 2 2)) ∧
      (elementPlusLength producedPair 2).value.Steady (.error (.indexOutOfBounds 2 2)) := by
  have distinct : Relator.BiUnique renumbered := by
    constructor
    · rintro handle other handle' ⟨rfl, -⟩ ⟨rfl, -⟩
      rfl
    · rintro handle other other' ⟨-, rfl⟩ ⟨-, rfl⟩
      rfl
  have additionDerived : Operator.Derived Catalogue.addition :=
    .builtin (by simp [Catalogue.builtins, Catalogue.arithmetic])
  have listsDerived : ∀ operator ∈ [Catalogue.element, Catalogue.listLength],
      Operator.Derived operator := by
    intro operator member
    apply Operator.Derived.builtin
    rcases List.mem_pair.mp member with rfl | rfl <;> simp [Catalogue.builtins, Catalogue.lists]
  have made : (elementPlusLength storedPair 2).Over Operator.Derived (fun _ => True)
      fun _ => False := by
    apply Over.node additionDerived
    simp only [List.forall_mem_cons, List.not_mem_nil, false_implies, implies_true, and_true]
    constructor
    · apply Over.node (listsDerived _ List.mem_cons_self)
      exact List.forall_mem_cons.mpr
        ⟨.constant trivial, List.forall_mem_singleton.mpr (.constant trivial)⟩
    · apply Over.node (listsDerived _ (List.mem_cons_of_mem _ List.mem_cons_self))
      exact List.forall_mem_singleton.mpr (.constant trivial)
  have elements : ∀ index item, [Value.integer 7, Value.integer 8][index]? = some item →
      ∃ other, producedPair.element index = .ok other ∧
        Value.Renamed renumbered item other := by
    intro index item found
    rcases index with _ | _ | index
    · obtain rfl := Option.some.inj found
      exact ⟨_, rfl, .plain rfl⟩
    · obtain rfl := Option.some.inj found
      exact ⟨_, rfl, .plain rfl⟩
    · cases found
  have lists : Corresponds (Exchanged renumbered)
      (constant (.list storedPair)) (constant (.list producedPair)) :=
    .source (.constant (.ofList ⟨rfl, rfl⟩ elements))
  have index : Corresponds (Exchanged renumbered)
      (constant (.integer 2)) (constant (.integer 2)) := .source (.constant (.plain rfl))
  have exchanged : (elementPlusLength storedPair 2).Corresponds
      (Exchanged renumbered) (elementPlusLength producedPair 2) :=
    .of_inputs (.cons (.of_inputs (.cons lists (.cons index .nil)))
      (.cons (.of_inputs (.cons lists .nil)) .nil))
  obtain ⟨_, ⟨⟩, -, ⟨result, result', ends, ends', related⟩, -⟩ :=
    interchange distinct (HostArithmetic.absent_answers _) made exchanged (rfl : at? [] _ = _)
  obtain rfl : result = .error (.indexOutOfBounds 2 2) := ends.unique fun _ => rfl
  cases related with
  | error => exact ⟨ends, ends'⟩

end Graph

end Dataflow

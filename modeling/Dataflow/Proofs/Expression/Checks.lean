import Dataflow.Proofs.Expression.Sound

/-!
# The checks of an expression

Building an expression makes three kinds of checks: the operator of an application must be known
before its arguments are looked at, and the types of arguments or items are compared once all of
them have been built. The checks of an expression are listed here in this order, each of them stated
about the graphs that the parts denote on their own. Building reports the first check that fails. An
evaluation that fails on the way is no failed check: it only leaves the type of an element open.
-/

namespace Dataflow

variable {ε ε' α β : Type}

/-! ## Runs that end with the first failure -/

/-- A run that ends in one way after every trace: with the failure, if there is one, and otherwise
with what is found. -/
inductive Run.Settles (run : Run ε α) : Option ε → Option α → Prop
  | failed {cause : ε} {found? : Option α} : run.Steady (.error cause) →
      Settles run (some cause) found?
  | found {answer : α} : run.Steady (.ok answer) → Settles run none (some answer)

namespace Run.Steady

variable {run : Run ε α}

theorem bind_error {cause : ε} {next : α → Run ε β} (steady : run.Steady (.error cause)) :
    (run >>= next).Steady (.error cause) := by
  change (run >>= next).Steady (Outcome.error cause >>= fun _ : α => .error cause)
  exact steady.bind nofun

theorem mapError {outcome : Outcome ε α} (reword : ε → ε') (steady : run.Steady outcome) :
    (run.mapError reword).Steady (outcome.mapError reword) := by
  intro trace
  rw [← steady trace]
  rfl

theorem ofTyping {typing : Typing α} {answer : α} (steady : typing.Steady (.ok answer)) :
    (Run.ofTyping typing : Run ε α).Steady (.ok answer) := by
  rw [Run.ofTyping]
  exact steady.mapError _

/-- What a steady run answers is as promised. -/
theorem promised {allowed : Allowance} {failures : ε → Prop} {answers : α → Prop} {answer : α}
    (steady : run.Steady (.ok answer)) (meets : run.Meets allowed failures answers) :
    answers answer := by
  have ended := (meets .empty).1
  rwa [steady .empty] at ended

end Run.Steady

namespace Run.Settles

variable {run : Run ε α} {failure? : Option ε} {found? : Option α}

/-- What fails first decides. -/
theorem bind {next : α → Run ε β} {failure'? : Option ε} {found'? : Option β}
    (first : run.Settles failure? found?)
    (second : ∀ answer, found? = some answer → run.Steady (.ok answer) →
      (next answer).Settles failure'? found'?) :
    (run >>= next).Settles (failure?.or failure'?) found'? := by
  cases first with
  | failed steady => exact .failed steady.bind_error
  | @found answer steady =>
      cases second answer rfl steady with
      | failed steady' => exact .failed (steady.bind_ok steady')
      | found steady' => exact .found (steady.bind_ok steady')

theorem map {change : α → β} (settles : run.Settles failure? found?) :
    (run >>= fun answer => pure (change answer)).Settles failure? (found?.map change) := by
  cases settles with
  | failed steady => exact .failed steady.bind_error
  | found steady => exact .found (steady.bind_ok fun _ => rfl)

theorem mapError (reword : ε → ε') (settles : run.Settles failure? found?) :
    (run.mapError reword).Settles (failure?.map reword) found? := by
  cases settles with
  | failed steady => exact .failed (steady.mapError reword)
  | found steady => exact .found (steady.mapError reword)

theorem ok_iff (settles : run.Settles failure? found?) (trace : Trace) (answer : α) :
    (run.after trace).1 = .ok answer ↔ failure? = none ∧ found? = some answer := by
  cases settles with
  | failed steady => simp [steady trace]
  | found steady => simp [steady trace]

theorem error_iff (settles : run.Settles failure? found?) (trace : Trace) (cause : ε) :
    (run.after trace).1 = .error cause ↔ failure? = some cause := by
  cases settles with
  | failed steady => simp [steady trace]
  | found steady => simp [steady trace]

theorem steady (settles : run.Settles failure? found?) (trace : Trace) :
    run.Steady (run.after trace).1 := by
  cases settles with
  | failed steady => rwa [steady trace]
  | found steady => rwa [steady trace]

/-- Without a failure there is an answer. -/
theorem isSome_found (settles : run.Settles none found?) : ∃ answer, found? = some answer := by
  cases settles with
  | found steady => exact ⟨_, rfl⟩

end Run.Settles

/-! ## What an expression denotes on its own -/

/-- The declared type of a graph. One that cannot be typed counts as being of any type. -/
def Graph.declared (graph : Graph) : ValueType :=
  match (graph.type.after .empty).1 with
  | .ok type => type
  | .error cause => nomatch cause
  | .fault _ => .placeholder .any

namespace Expression

/-- The declared type of the first item, to which the other items are held. -/
def firstType (items : List Graph) : ValueType :=
  match items with
  | [] => .placeholder .any
  | first :: _ => first.declared

/-- The error on an item at some index, unless it has the expected declared type. -/
def stray? (expected : ValueType) (item : Graph × Nat) : Option ExpressionError :=
  if item.1.declared = expected then none
  else some (.mixedList item.2 expected item.1.declared)

/-- The error on the first item whose declared type differs from that of the item at index 0. -/
def mixed? (items : List Graph) : Option ExpressionError :=
  items.zipIdx.findSome? (stray? (firstType items))

/-- What the check of a wiring has to say about the declared types of some inputs. -/
def miswired? (operator : Operator) (inputs : List Graph) : Option TypeError :=
  match operator.checkTypes ((inputs.map Graph.declared).map some) with
  | .ok () => none
  | .error cause => some cause

mutual

/-- The graph that an expression denotes if nothing is checked. There is none if an operator is
unknown. -/
def wired? (registry : Registry) : Expression → Option Graph
  | boolean truth => some (.constant (.boolean truth))
  | integer number => some (.constant (.integer number))
  | double number => some (.constant (.double number))
  | string text => some (.constant (.string text))
  | list items => do
      let graphs ← wiredAll? registry items
      some (.list (firstType graphs) graphs)
  | apply key arguments => do
      let operator ← registry.find? key
      let inputs ← wiredAll? registry arguments
      some (.node operator inputs)

/-- The graphs that several expressions denote if nothing is checked. -/
def wiredAll? (registry : Registry) : List Expression → Option (List Graph)
  | [] => some []
  | expression :: expressions => do
      let graph ← expression.wired? registry
      (graph :: ·) <$> wiredAll? registry expressions

end

/-- What is checked at one place of an expression. -/
inductive Check where
  /-- The key of an application is that of an operator. -/
  | known (key : String)
  /-- The arguments of an application fit the signature of its operator. -/
  | wiring (key : String) (arguments : List Expression)
  /-- The items of a list share one declared type. -/
  | uniform (items : List Expression)

/-- The error of a check that fails. -/
def Check.failure? (registry : Registry) : Check → Option ExpressionError
  | known key => if (registry.find? key).isNone then some (.unknownOperator key) else none
  | wiring key arguments => do
      let operator ← registry.find? key
      let inputs ← wiredAll? registry arguments
      (miswired? operator inputs).map .wiring
  | uniform items => do
      let graphs ← wiredAll? registry items
      mixed? graphs

mutual

/-- All checks of an expression. The operator of an application is looked up first; its own wiring,
like the types of the items of a list, comes after all that is inside. -/
def checks : Expression → List Check
  | boolean _ | integer _ | double _ | string _ => []
  | list items => checksAll items ++ [.uniform items]
  | apply key arguments => .known key :: (checksAll arguments ++ [.wiring key arguments])

/-- All checks of several expressions, from left to right. -/
def checksAll : List Expression → List Check
  | [] => []
  | expression :: expressions => expression.checks ++ checksAll expressions

end

/-- How building an expression ends after some trace. -/
def built (expression : Expression) (start : Trace) : Outcome ExpressionError Graph :=
  ((expression.build Registry.builtins).after start).1

end Expression

/-! ## What building settles -/

theorem Graph.Sound.declared {graph : Graph} {type : ValueType} (sound : graph.Sound type) :
    graph.declared = type := by
  have typed : (graph.type.after .empty).1 = .ok type := sound.typed.type .empty
  rw [Graph.declared, typed]

theorem Graph.Sound.steady {graph : Graph} (sound : ∃ type, graph.Sound type) :
    (Run.ofTyping graph.type : Run ε ValueType).Steady (.ok graph.declared) := by
  obtain ⟨type, sound⟩ := sound
  rw [sound.declared]
  exact sound.typed.type.ofTyping

theorem Graph.declaredTypes_steady {inputs : List Graph}
    (each : ∀ input ∈ inputs, ∃ type, input.Sound type) :
    (Run.ofTyping (Operator.declaredTypes (inputs.map toVariable)) : Run ε _).Steady
      (.ok (inputs.map Graph.declared)) := by
  refine Run.Steady.ofTyping ?_
  induction inputs with
  | nil => exact fun _ => rfl
  | cons input inputs induction =>
      obtain ⟨⟨type, sound⟩, rest⟩ := List.forall_mem_cons.mp each
      rw [List.map_cons, List.map_cons, Operator.declaredTypes, sound.declared]
      exact sound.typed.type.bind_ok ((induction rest).bind_ok fun _ => rfl)

namespace Expression

theorem checkItems_settles {graphs : List Graph} (each : ∀ graph ∈ graphs, ∃ type, graph.Sound type)
    (expected : ValueType) (index : Nat) :
    (checkItems expected index graphs).Settles
      ((graphs.zipIdx index).findSome? (stray? expected)) (some ()) := by
  induction graphs generalizing index with
  | nil => exact .found fun _ => rfl
  | cons graph graphs induction =>
      obtain ⟨sound, rest⟩ := List.forall_mem_cons.mp each
      rw [checkItems, List.zipIdx_cons, List.findSome?_cons, stray?]
      refine (Run.Settles.found (Graph.Sound.steady sound)).bind fun _ same _ => ?_
      cases same
      by_cases expectedType : graph.declared = expected
      · rw [if_pos expectedType, if_pos expectedType]
        exact induction rest (index + 1)
      · rw [if_neg expectedType, if_neg expectedType]
        exact .failed fun _ => rfl

theorem itemType_settles {graphs : List Graph}
    (each : ∀ graph ∈ graphs, ∃ type, graph.Sound type) :
    (itemType graphs).Settles (mixed? graphs) (some (firstType graphs)) := by
  cases graphs with
  | nil => exact .found fun _ => rfl
  | cons graph graphs =>
      obtain ⟨sound, rest⟩ := List.forall_mem_cons.mp each
      have first : stray? (firstType (graph :: graphs)) (graph, 0) = none := if_pos rfl
      rw [itemType, mixed?, List.zipIdx_cons, List.findSome?_cons, first]
      refine (Run.Settles.found (Graph.Sound.steady sound)).bind fun _ same _ => ?_
      cases same
      exact (checkItems_settles rest _ 1).map

theorem checkedNode_settles (operator : Operator) {inputs : List Graph}
    (each : ∀ input ∈ inputs, ∃ type, input.Sound type) :
    (Graph.checkedNode operator inputs).Settles (miswired? operator inputs)
      (some (.node operator inputs)) := by
  have checked : (operator.checkVariables (inputs.map Graph.toVariable)).Settles
      (miswired? operator inputs) (some ()) := by
    rw [Operator.checkVariables, miswired?]
    refine (Run.Settles.found (Graph.declaredTypes_steady each)).bind fun _ same _ => ?_
    cases same
    cases operator.checkTypes ((inputs.map Graph.declared).map some) with
    | ok => exact .found fun _ => rfl
    | error cause => exact .failed fun _ => rfl
  rw [Graph.checkedNode, Graph.toVariables_eq_map]
  exact checked.map

mutual

/-- Building ends with the first failure among the checks, or with the graph that the expression
denotes on its own. -/
theorem build_settles : ∀ expression : Expression,
    (expression.build Registry.builtins).Settles
      (expression.checks.findSome? (Check.failure? Registry.builtins))
      (expression.wired? Registry.builtins)
  | boolean truth => .found fun _ => rfl
  | integer number => .found fun _ => rfl
  | double number => .found fun _ => rfl
  | string text => .found fun _ => rfl
  | list items => by
      rw [build, checks, List.findSome?_append, wired?]
      refine (buildAll_settles items).bind fun graphs found steady => ?_
      have each := steady.promised (buildAll_meets items)
      rw [List.findSome?_singleton, Check.failure?, found]
      exact (itemType_settles each).map
  | apply key arguments => by
      rw [build, checks, List.findSome?_cons, Check.failure?, wired?]
      cases hit : Registry.builtins.find? key with
      | none => exact .failed fun _ => rfl
      | some operator =>
          rw [List.findSome?_append]
          refine (buildAll_settles arguments).bind fun inputs found steady => ?_
          have each := steady.promised (buildAll_meets arguments)
          rw [List.findSome?_singleton, Check.failure?, hit, found]
          exact (checkedNode_settles operator each).mapError ExpressionError.wiring

theorem buildAll_settles : ∀ expressions : List Expression,
    (buildAll Registry.builtins expressions).Settles
      ((checksAll expressions).findSome? (Check.failure? Registry.builtins))
      (wiredAll? Registry.builtins expressions)
  | [] => .found fun _ => rfl
  | expression :: expressions => by
      rw [buildAll, checksAll, List.findSome?_append, wiredAll?]
      refine (build_settles expression).bind fun graph found _ => ?_
      rw [found]
      exact (buildAll_settles expressions).map

end

theorem built_meets (expression : Expression) (start : Trace) :
    (expression.built start).Meets False (fun _ => True) fun graph => ∃ type, graph.Sound type :=
  (expression.build_meets start).1

/-- Building ends in the same way whatever has happened before. -/
theorem built_steady (expression : Expression) {start : Trace}
    {outcome : Outcome ExpressionError Graph} (built : expression.built start = outcome) :
    (expression.build Registry.builtins).Steady outcome := by
  rw [← built]
  exact expression.build_settles.steady start

/-- When all checks of an expression pass and it denotes a node, the operator accepts the declared
types of the inputs. -/
theorem accepted_of_wired {expression : Expression} {operator : Operator} {inputs : List Graph}
    (passed : expression.checks.findSome? (Check.failure? Registry.builtins) = none)
    (wired : expression.wired? Registry.builtins = some (.node operator inputs)) :
    operator ∈ Catalogue.builtins ∧ (∀ input ∈ inputs, ∃ type, input.Sound type) ∧
      operator.checkTypes ((inputs.map Graph.declared).map some) = .ok () := by
  cases expression with
  | apply key arguments =>
      rw [checks, List.findSome?_eq_none_iff, List.forall_mem_cons, List.forall_mem_append,
        List.forall_mem_singleton] at passed
      obtain ⟨-, inside, here⟩ := passed
      simp only [wired?, Option.bind_eq_bind, Option.bind_eq_some_iff, Option.some.injEq,
        Graph.node.injEq] at wired
      obtain ⟨_, hit, _, found, rfl, rfl⟩ := wired
      have settles := buildAll_settles arguments
      rw [List.findSome?_eq_none_iff.mpr inside, found] at settles
      obtain ⟨⟩ | steady := settles
      refine ⟨Registry.builtins_find?_mem hit, steady.promised (buildAll_meets arguments), ?_⟩
      simp only [Check.failure?, hit, found, Option.bind_eq_bind, Option.bind_some,
        Option.map_eq_none_iff, miswired?] at here
      split at here
      · assumption
      · cases here
  | _ => simp [wired?, Option.bind_eq_some_iff] at wired

end Expression

/-! ## Declared types that are found by evaluation -/

/-- The type of a graph is that of the elements of a list, if the list can be evaluated, and if it
fails the graph may be of any type. -/
def Graph.TypedByElements (items graph : Graph) : Prop :=
  ∀ trace, match (items.value.after trace).1 with
    | .ok (.list view) => (graph.type.after trace).1 = .ok view.elementType
    | .error _ => (graph.type.after trace).1 = .ok (.placeholder .any)
    | _ => False

/-- Operators that find their output type without evaluating anything. -/
inductive Operator.TypedAtOnce (operator : Operator) : Prop
  /-- It is the declared one. -/
  | declared : operator.Static operator.header.output → TypedAtOnce operator
  /-- It is that of the input in some slot. -/
  | inherited (slot : Nat) : (∀ inputs input, inputs[slot]? = some input →
      operator.outputType inputs = input.type) → TypedAtOnce operator

/-- Pulling an element is the only built-in operator that is typed by evaluating an input. -/
theorem Catalogue.builtin_typedAtOnce {operator : Operator} (member : operator ∈ builtins)
    (different : operator ≠ element) : operator.TypedAtOnce := by
  revert different
  refine builtins_cases member ?conjunction ?disjunction ?negation ?arithmetic ?modulus ?onInteger
    ?onIntegers ?equals ?strictOrder ?stringLength ?concatenation ?displayName ?rounding
    ?listLength ?element ?choice ?identity ?notEquals ?orEqual
  case element => exact fun different => absurd rfl different
  case arithmetic => exact fun _ _ _ _ _ => .inherited 0 (inputType_outputType rfl)
  case choice => exact fun _ => .inherited 1 (inputType_outputType rfl)
  case identity => exact fun _ => .inherited 0 (inputType_outputType rfl)
  case notEquals => exact fun _ _ _ => .declared notEquals_static
  case orEqual => exact fun _ _ _ _ _ _ _ _ _ => .declared orEqual_static
  case onInteger => exact fun _ _ _ _ _ _ => .declared fun _ => rfl
  case onIntegers | strictOrder | rounding => exact fun _ _ _ _ => .declared fun _ => rfl
  all_goals exact fun _ => .declared fun _ => rfl

theorem Graph.element_typedByElements {items position : Graph} (sound : items.Sound .list) :
    items.TypedByElements (node Catalogue.element [items, position]) := by
  intro trace
  have promised := (sound.typed.fits trace).1
  have typing : (node Catalogue.element [items, position]).type =
      OutputRule.elementType [items.toVariable, position.toVariable] >>= fun refined =>
        pure (refined.getD (.placeholder .any)) := rfl
  have read : items.toVariable.value = items.value := rfl
  change Outcome.Meets _ _ _ (items.value.after trace).1 at promised
  rw [typing, Run.after_bind, OutputRule.elementType, List.getElem?_cons_zero]
  simp only [read, Run.after_bind, Run.attempt, Prod.map]
  generalize (items.value.after trace).1 = outcome at promised ⊢
  cases outcome with
  | ok value =>
      obtain ⟨listed, plain⟩ := promised
      cases value with
      | list view => rfl
      | object host => exact Value.Plain.not_object plain
      | _ => cases listed
  | error cause => rfl
  | fault reason => exact promised

/-- The inputs that pulling an element accepts are a list and something else. -/
theorem Graph.element_inputs {inputs : List Graph}
    (each : ∀ input ∈ inputs, ∃ type, input.Sound type)
    (accepted : Catalogue.element.checkTypes ((inputs.map declared).map some) = .ok ()) :
    ∃ items position, inputs = [items, position] ∧ items.Sound .list := by
  have slots : List.Forall₂ (fun slot type => ValueType.accepts slot type = true)
      [.list, .integer] (inputs.map declared) := TypeCheck.default_eq_ok_iff.mp accepted
  obtain ⟨items, position, rfl⟩ :=
    List.length_eq_two.mp ((List.length_map declared).symm.trans slots.length_eq.symm)
  obtain ⟨type, sound⟩ := each items List.mem_cons_self
  obtain ⟨listed, -⟩ := List.forall₂_cons.mp slots
  rw [sound.declared] at listed
  obtain rfl := ValueType.accepts_of_isConcrete rfl listed
  exact ⟨items, position, rfl, sound⟩

namespace Expression

/-- The first failure among the checks of an expression is what building it reports, and it succeeds
if there is none. When it succeeds with an application, the declared type of this is known without
any evaluation, except that an element is typed by its list. -/
theorem build_reports_first_failure (expression : Expression) (start : Trace) :
    ((∃ graph, expression.built start = .ok graph) ↔
      ∀ check ∈ expression.checks, check.failure? Registry.builtins = none) ∧
    (∀ cause, expression.built start = .error cause ↔
      ∃ earlier check later, expression.checks = earlier ++ check :: later ∧
        check.failure? Registry.builtins = some cause ∧
        ∀ passed ∈ earlier, passed.failure? Registry.builtins = none) ∧
    ∀ operator inputs, expression.built start = .ok (.node operator inputs) →
      operator ≠ Catalogue.element ∧ operator.TypedAtOnce ∨
      operator = Catalogue.element ∧ ∃ items position, inputs = [items, position] ∧
        items.TypedByElements (.node operator inputs) := by
  have settles := build_settles expression
  refine ⟨?success, ?failure, ?typing⟩
  case success =>
    simp only [built, settles.ok_iff, List.findSome?_eq_none_iff]
    constructor
    · rintro ⟨graph, passed, -⟩
      exact passed
    · intro passed
      rw [List.findSome?_eq_none_iff.mpr passed] at settles
      obtain ⟨graph, found⟩ := settles.isSome_found
      exact ⟨graph, passed, found⟩
  case failure =>
    intro cause
    rw [built, settles.error_iff, List.findSome?_eq_some_iff]
  case typing =>
    intro operator inputs ended
    obtain ⟨passed, found⟩ := (settles.ok_iff start _).mp ended
    obtain ⟨member, sound, accepted⟩ := accepted_of_wired passed found
    by_cases same : operator = Catalogue.element
    · refine .inr ⟨same, ?_⟩
      subst same
      obtain ⟨items, position, rfl, listed⟩ := Graph.element_inputs sound accepted
      exact ⟨items, position, rfl, Graph.element_typedByElements listed⟩
    · exact .inl ⟨same, Catalogue.builtin_typedAtOnce member same⟩

/-- A list of mixed types comes before an unknown operator to the right of it, and before the wiring
of both. -/
theorem build_reports_mixedList :
    let expression := apply "+" [list [boolean true, integer 1], apply "nope" []]
    Check.failure? Registry.builtins (.known "nope") = some (.unknownOperator "nope") ∧
      expression.built .empty = .error (.mixedList 1 .boolean .integer) := by
  intro expression
  have unknown : Registry.builtins.find? "nope" = none :=
    Registry.builtins_find?_eq_none_iff.mpr (by decide)
  have known : Registry.builtins.find? "+" = some Catalogue.addition := by
    refine Registry.builtins_find?_eq_some_iff.mpr ⟨?_, .inl rfl⟩
    simp [Catalogue.builtins, Catalogue.arithmetic]
  refine ⟨by simp [Check.failure?, unknown], ?_⟩
  refine ((build_reports_first_failure expression .empty).2.1 _).mpr
    ⟨[.known "+"], .uniform [boolean true, integer 1], _, rfl, rfl, ?_⟩
  rw [List.forall_mem_singleton, Check.failure?, known]
  rfl

end Expression

end Dataflow

import Dataflow.Proofs.Catalogue.Consults
import Dataflow.Proofs.Discipline
import Dataflow.Proofs.Graph.Parts
import Dataflow.Proofs.Operator.Refinement

/-!
# Failures and faults

A failure goes up through a graph unchanged, and nothing else happens on its way. A fault does not
happen at all, as long as the objects of a host carry well-declared types and its arithmetic keeps
to these.
-/

namespace Dataflow

/-!
## Evaluation stops at the first failure

When a leaf cannot be read, or a node fails, nothing more happens but that the nodes above it fail
with the very same error, and so does the whole graph. This holds of every graph, whatever its
leaves declare or answer: reading, pulling and making lists go on only from an answer.
-/

section

variable {α β : Type}

/-- The error that an event reports, if it is the failure of a read or of a node. -/
def Event.cause? : Event → Option EvaluationError
  | read _ (.error cause) | failure _ cause => some cause
  | read _ (.ok _) | pull _ | creation _ => none

/-- The error that an outcome ends with. -/
def Outcome.error? {ε : Type} : Outcome ε α → Option ε
  | error cause => some cause
  | ok _ | fault _ => none

theorem Outcome.error?_eq_some_iff {ε : Type} {outcome : Outcome ε α} {cause : ε} :
    outcome.error? = some cause ↔ outcome = .error cause := by
  cases outcome <;> simp [error?]

/-- Events, newest first, of a run that ends with an error or without one. If an event reports an
error, then it is this one, and only marks of failing nodes come after it. -/
inductive Event.Halting : Option EvaluationError → List Event → Prop
  | quiet {error? : Option EvaluationError} {events : List Event} :
      (∀ event ∈ events, event.cause? = none) → Halting error? events
  | refused {leaf : Nat} {cause : EvaluationError} {events : List Event} :
      (∀ event ∈ events, event.cause? = none) →
      Halting (some cause) (.read leaf (.error cause) :: events)
  | marked {operator : String} {cause : EvaluationError} {events : List Event} :
      Halting (some cause) events → Halting (some cause) (.failure operator cause :: events)

namespace Event.Halting

variable {error? : Option EvaluationError} {events earlier later : List Event} {event : Event}
  {cause : EvaluationError}

theorem quiet_of_none (halting : Halting none events) : ∀ event ∈ events, event.cause? = none := by
  cases halting with
  | quiet events => exact events

theorem append (halting : Halting error? later) (quiet : ∀ event ∈ earlier, event.cause? = none) :
    Halting error? (later ++ earlier) := by
  induction halting with
  | quiet events => exact .quiet (List.forall_mem_append.mpr ⟨events, quiet⟩)
  | refused events => exact .refused (List.forall_mem_append.mpr ⟨events, quiet⟩)
  | marked _ induction => exact .marked induction

/-- After an event that reports an error come marks of this error only. -/
theorem of_reported (halting : Halting error? (later ++ event :: earlier))
    (reported : event.cause? = some cause) :
    error? = some cause ∧ ∀ other ∈ later, ∃ operator, other = .failure operator cause := by
  have unreported : ∀ {events : List Event}, (∀ event ∈ events, event.cause? = none) →
      event ∉ events := by
    intro events quiet member
    rw [quiet event member] at reported
    cases reported
  generalize whole : later ++ event :: earlier = events at halting
  induction halting generalizing later with
  | quiet events =>
      exact absurd (whole ▸ List.mem_append_right later List.mem_cons_self) (unreported events)
  | refused events =>
      cases later with
      | nil =>
          cases whole
          cases reported
          exact ⟨rfl, List.forall_mem_nil _⟩
      | cons first later =>
          cases whole
          exact absurd (List.mem_append_right later List.mem_cons_self) (unreported events)
  | marked _ induction =>
      cases later with
      | nil =>
          cases whole
          cases reported
          exact ⟨rfl, List.forall_mem_nil _⟩
      | cons first later =>
          cases whole
          obtain ⟨same, marks⟩ := induction rfl
          cases same
          exact ⟨rfl, List.forall_mem_cons.mpr ⟨⟨_, rfl⟩, marks⟩⟩

end Event.Halting

/-- A run that stops at the first error which one of its events reports. -/
def Run.FailsFast (run : Evaluation α) : Prop :=
  ∀ trace : Trace, ∃ events, (run.after trace).2.events = events ++ trace.events ∧
    Event.Halting (run.after trace).1.error? events

namespace Run.FailsFast

variable {run : Evaluation α}

theorem ofOutcome (outcome : Outcome EvaluationError α) : (Run.ofOutcome outcome).FailsFast :=
  fun _ => ⟨[], rfl, .quiet (List.forall_mem_nil _)⟩

theorem pure (answer : α) : (Pure.pure answer : Evaluation α).FailsFast :=
  ofOutcome (.ok answer)

theorem bind {next : α → Evaluation β} (first : run.FailsFast)
    (second : ∀ answer, (next answer).FailsFast) : (run >>= next).FailsFast := by
  intro trace
  obtain ⟨events, extended, halting⟩ := first trace
  rw [after_bind]
  generalize run.after trace = finish at extended halting ⊢
  obtain ⟨outcome, later⟩ := finish
  cases outcome with
  | ok answer =>
      obtain ⟨more, extended', halting'⟩ := second answer later
      refine ⟨more ++ events, ?_, halting'.append halting.quiet_of_none⟩
      rw [extended', extended, List.append_assoc]
  | error cause => exact ⟨events, extended, halting⟩
  | fault reason => exact ⟨events, extended, halting⟩

theorem ofPulling (pulling : Pulling α) : (Run.ofPulling pulling : Evaluation α).FailsFast := by
  intro trace
  rw [after_ofPulling]
  refine ⟨_, rfl, .quiet fun event member => ?_⟩
  obtain ⟨access, -, rfl⟩ := List.mem_map.mp (List.mem_reverse.mp member)
  rfl

theorem newList (elementType : ValueType) (items : List Value) :
    (Run.newList elementType items).FailsFast :=
  fun _ => ⟨[.creation _], rfl, .quiet (by simp [Event.cause?])⟩

theorem read (leaf : Leaf) : leaf.read.FailsFast := by
  intro trace
  refine ⟨[.read leaf.serial (leaf.answer trace.events)], rfl, ?_⟩
  change Event.Halting (Outcome.ofExcept (leaf.answer trace.events)).error? _
  cases leaf.answer trace.events with
  | ok value => exact .quiet (by simp [Event.cause?])
  | error cause => exact .refused (List.forall_mem_nil _)

/-- The mark of a node repeats the error of the node. -/
theorem recordError (operator : String) (failsFast : run.FailsFast) :
    (run.recordError (.failure operator)).FailsFast := by
  intro trace
  obtain ⟨events, extended, halting⟩ := failsFast trace
  simp only [Run.recordError]
  generalize run.after trace = finish at extended halting ⊢
  obtain ⟨outcome, later⟩ := finish
  cases outcome with
  | ok answer => exact ⟨events, extended, halting⟩
  | fault reason => exact ⟨events, extended, halting⟩
  | error cause =>
      refine ⟨.failure operator cause :: events, ?_, .marked halting⟩
      exact congrArg (Event.failure operator cause :: ·) extended

theorem closed : Run.Closed fun _ run => run.FailsFast where
  ofOutcome := ofOutcome
  ofPulling := ofPulling
  bind := bind

end Run.FailsFast

theorem valuesOf_failsFast {items : List Variable} (each : ∀ item ∈ items, item.value.FailsFast) :
    (valuesOf items).FailsFast := by
  induction items with
  | nil => exact .pure []
  | cons item items induction =>
      rw [valuesOf]
      refine (each item List.mem_cons_self).bind fun value => ?_
      exact (induction fun item member => each item (List.mem_cons_of_mem _ member)).bind
        fun values => .pure _

/-- If a read of a leaf or a node of a graph fails, then nothing happens any more but that the nodes
above it fail, too. They fail with the same error, and so does the graph. -/
theorem Graph.value_failsFast [HostArithmetic] {graph : Graph}
    (made : graph.Over Operator.Derived (fun _ => True) fun _ => True) (trace : Trace) :
    ∃ events, (graph.value.after trace).2.events = events ++ trace.events ∧
      ∀ later event earlier cause, events = later ++ event :: earlier →
        event.cause? = some cause →
          (graph.value.after trace).1 = .error cause ∧
            ∀ other ∈ later, ∃ operator, other = .failure operator cause := by
  have failsFast : graph.toVariable.value.FailsFast := by
    refine made.toVariable (fun input => input.value.FailsFast) ?_ ?_ ?_ ?_
    · exact fun value _ => .pure value
    · exact fun source _ => .read source
    · exact fun elementType items each =>
        (valuesOf_failsFast each).bind fun values => .newList elementType values
    · intro operator inputs derived each
      have built : operator.BuiltFrom (Primitive.Keeps .all) :=
        derived.builtFrom_of fun _ member => Catalogue.builtFrom_keeps member
      exact .recordError _ ((built.evaluate_consults inputs).closed Run.FailsFast.closed
        (fun _ => trivial) each)
  obtain ⟨events, extended, halting⟩ := failsFast trace
  refine ⟨events, extended, ?_⟩
  rintro later event earlier cause rfl reported
  obtain ⟨same, marks⟩ := halting.of_reported reported
  exact ⟨Outcome.error?_eq_some_iff.mp same, marks⟩

/-- A comparison whose first operand cannot be read. -/
def Graph.unreadComparison : Graph :=
  node Catalogue.greaterOrEqual
    [node Catalogue.increment [leaf (.steady 0 .integer (.error .divisionByZero))],
      leaf (.steady 1 .integer (.ok (.integer 7)))]

theorem Graph.unreadComparison_failsFast :
    (unreadComparison.value.after .empty).1 = .error .divisionByZero ∧
      (unreadComparison.value.after .empty).2.events =
        [.failure "relational.ge" .divisionByZero,
          .failure "integer.increment" .divisionByZero,
          .read 0 (.error .divisionByZero)] := by
  have greaterOrEqual : Operator.Derived Catalogue.greaterOrEqual :=
    .builtin (by simp [Catalogue.builtins, Catalogue.relational])
  have increment : Operator.Derived Catalogue.increment :=
    .builtin (by simp [Catalogue.builtins, Catalogue.integer])
  have operand : (node Catalogue.increment
      [leaf (.steady 0 .integer (.error .divisionByZero))]).Over Operator.Derived
        (fun _ => True) fun _ => True :=
    .node increment (List.forall_mem_singleton.mpr (.leaf trivial))
  have made : unreadComparison.Over Operator.Derived (fun _ => True) fun _ => True :=
    .node greaterOrEqual
      (List.forall_mem_cons.mpr ⟨operand, List.forall_mem_singleton.mpr (.leaf trivial)⟩)
  have recorded : (unreadComparison.value.after .empty).2.events =
      [.failure "relational.ge" .divisionByZero,
        .failure "integer.increment" .divisionByZero] ++
          .read 0 (.error .divisionByZero) :: [] := rfl
  obtain ⟨events, extended, stops⟩ := value_failsFast made .empty
  obtain rfl : events = _ := (List.append_nil events).symm.trans (extended.symm.trans recorded)
  exact ⟨(stops _ _ _ _ rfl rfl).1, recorded⟩

end

/-!
## Dispatch does not fault

Dispatch faults on values whose types do not serve the category. Slots keep such values out, unless
an object of a host has a placeholder for a type, or a number type without arithmetic. No operator
makes one of these, and neither does the arithmetic of a host that keeps to its numbers: on graphs
whose leaves yield none, at no depth of a list, nothing faults, neither evaluation nor typing nor
the check of a wiring.
-/

/-- A leaf all of whose answers are values with well-declared types. -/
def Leaf.WellDeclared (leaf : Leaf) : Prop :=
  ∀ events value, leaf.answer events = .ok value → value.WellDeclared

theorem Value.WellDeclared.ofList {handle : Nat} {elementType : ValueType} {items : List Value}
    (each : ∀ item ∈ items, item.WellDeclared) :
    (Value.list (.ofList handle elementType items)).WellDeclared :=
  .list fun _ _ item produced => each item (ListView.mem_of_ofList produced)

section

variable [HostArithmetic] {domain : Value.Domain} {inputs : List Variable}
  {keeps : HostArithmetic.KeepsDeclarations}

theorem Leaf.WellDeclared.within {leaf : Leaf} (declared : leaf.WellDeclared) :
    leaf.toVariable.Within (.wellDeclared keeps) := by
  refine ⟨.pure trivial, Run.Meets.read (fun _ => trivial) fun events => ?_⟩
  cases answered : leaf.answer events with
  | ok value => exact declared events value answered
  | error cause => trivial

theorem Variable.listOf_within {elementType : ValueType} {items : List Variable}
    (within : ∀ item ∈ items, item.Within (.wellDeclared keeps)) :
    (Variable.listOf elementType items).Within (.wellDeclared keeps) :=
  ⟨.pure trivial, (valuesOf_meets fun item member => (within item member).value).bind
    fun _ each => .newList (fun _ => trivial) fun _ => Value.WellDeclared.ofList each⟩

namespace Operator

variable {operator : Operator}

theorem BuiltFrom.applied_within (built : operator.BuiltFrom (Primitive.Keeps domain))
    (within : ∀ input ∈ inputs, input.Within domain) : (operator.applied inputs).Within domain :=
  ⟨built.outputType_meets within, (built.evaluate_meets within).recordError fun _ _ => trivial⟩

/-- Checking a wiring learns the types of the inputs, and can only fault where these do. -/
theorem checkVariables_faultless (within : ∀ input ∈ inputs, input.Within domain) :
    (operator.checkVariables inputs).Meets domain.allowance (fun _ => True) fun _ => True := by
  refine (declaredTypes_meets fun input member => (within input member).type).ofTyping.bind
    fun types _ => .ofOutcome ?_
  cases operator.checkTypes (types.map some) with
  | ok => trivial
  | error cause => trivial

end Operator

namespace Graph

variable {graph part : Graph}

theorem Over.within (keeps : HostArithmetic.KeepsDeclarations)
    (made : graph.Over Operator.Derived Value.WellDeclared Leaf.WellDeclared) :
    graph.toVariable.Within (.wellDeclared keeps) := by
  refine made.toVariable (Variable.Within (.wellDeclared keeps)) ?_ ?_ ?_ ?_
  · exact fun value declared => .constant declared
  · exact fun source declared => declared.within
  · exact fun elementType items within => Variable.listOf_within within
  · exact fun operator inputs derived within =>
      (derived.builtFrom_of fun _ member => Catalogue.builtFrom_keeps member).applied_within within

/-- Over leaves with well-declared types, no part of a graph faults: it can be evaluated, typed and
checked after any trace, and whatever the wiring. Of the arithmetic of hosts, which is arithmetic
for one numeric representation, this takes that it does not make values with other types than such
ones from operands that carry them. -/
theorem part_faultless (keeps : HostArithmetic.KeepsDeclarations)
    (made : graph.Over Operator.Derived Value.WellDeclared Leaf.WellDeclared)
    (within : part.Part graph) (trace : Trace) (reason : DispatchFault) :
    (part.value.after trace).1 ≠ .fault reason ∧ (part.type.after trace).1 ≠ .fault reason ∧
      ∀ operator inputs, part = node operator inputs →
        ((operator.checkVariables (inputs.map toVariable)).after trace).1 ≠ .fault reason := by
  have declared := made.part within
  have whole := declared.within keeps
  refine ⟨(whole.value trace).1.faultless reason, (whole.type trace).1.faultless reason, ?_⟩
  rintro operator inputs rfl
  cases declared with
  | node _ each =>
      have parts : ∀ input ∈ inputs.map toVariable, input.Within (.wellDeclared keeps) :=
        List.forall_mem_map.mpr fun input member => (each input member).within keeps
      exact ((Operator.checkVariables_faultless parts) trace).1.faultless reason

/-- Two objects of one type in a list. -/
def pairOf (type : ValueType) : Leaf :=
  .steady 0 .list (.ok (.list (.ofList 0 type
    [.object { type, name := "||" }, .object { type, name := "|||" }])))

/-- The sum of two objects in a list. -/
def sumOfPair (type : ValueType) : Graph :=
  node Catalogue.addition
    [node Catalogue.element [leaf (pairOf type), constant (.integer 0)],
      node Catalogue.element [leaf (pairOf type), constant (.integer 1)]]

theorem sumOfPair_made {type : ValueType} (declared : type.WellDeclared) :
    (sumOfPair type).Over Operator.Derived Value.WellDeclared Leaf.WellDeclared := by
  have additionDerived : Operator.Derived Catalogue.addition :=
    .builtin (by simp [Catalogue.builtins, Catalogue.arithmetic])
  have elementDerived : Operator.Derived Catalogue.element :=
    .builtin (by simp [Catalogue.builtins, Catalogue.lists])
  have pair : (pairOf type).WellDeclared := by
    rintro events value ⟨⟩
    refine .ofList (List.forall_mem_cons.mpr ⟨.object declared, ?_⟩)
    exact List.forall_mem_singleton.mpr (.object declared)
  have item : ∀ index, (node Catalogue.element [leaf (pairOf type), constant (.integer index)]).Over
      Operator.Derived Value.WellDeclared Leaf.WellDeclared := by
    intro index
    refine .node elementDerived (List.forall_mem_cons.mpr ⟨.leaf pair, ?_⟩)
    exact List.forall_mem_singleton.mpr (.constant (.literal rfl))
  refine .node additionDerived (List.forall_mem_cons.mpr ⟨item 0, ?_⟩)
  exact List.forall_mem_singleton.mpr (item 1)

end Graph

end

namespace Graph

/-- The type of tallies, numbers that a host writes as strokes. -/
def tallyType : ValueType := .host { serial := 0, id := "tally", kind := .numeric (.host 0) }

/-- Tallies of one type can be added, and nothing else can be done with them. -/
@[reducible]
def tallies : HostArithmetic where
  calculate _ operation left right :=
    match operation, left, right with
    | .add, .object left, .object right =>
        if left.type = right.type then
          .ok (.object { left with name := left.name ++ right.name })
        else .error (Arithmetic.mismatch (.object left) (.object right))
    | _, left, right => .error (Arithmetic.mismatch left right)
  compare _ left right := .error (Arithmetic.mismatch left right)

theorem tallies_keepsDeclarations : tallies.KeepsDeclarations := by
  refine @HostArithmetic.KeepsDeclarations.of_type_eq tallies
    fun serial operation left right answer answered => ?_
  simp only [HostArithmetic.calculate] at answered
  split at answered
  · split at answered <;> cases answered
    rfl
  · cases answered

theorem sumOfTallies_faultless :
    ((@sumOfPair tallies tallyType).value.after .empty).1 ≠ .fault (.withoutArithmetic tallyType) ∧
      ((@sumOfPair tallies tallyType).value.after .empty).1 =
        .ok (.object { type := tallyType, name := "|||||" }) := by
  have made := @sumOfPair_made tallies tallyType ⟨rfl, by decide⟩
  exact ⟨(@part_faultless tallies _ _ tallies_keepsDeclarations made .whole .empty _).1, rfl⟩

/-- Objects of a number type that is declared without arithmetic have no sum. -/
example : ((sumOfPair (.host { serial := 0, id := "bignum", kind := .plain [.number] })).value.after
    .empty).1 = .fault (.withoutArithmetic
      (.host { serial := 0, id := "bignum", kind := .plain [.number] })) := rfl

end Graph

end Dataflow

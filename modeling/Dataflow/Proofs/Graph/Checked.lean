import Dataflow.Proofs.Catalogue.Sound
import Dataflow.Proofs.Operator.Refinement

/-!
# Passed checks

A check that has passed is worth as much as the operators that it has asked. It asks every node of a
graph, but of a composite only the inner operators, and not the outer one.
-/

namespace Dataflow

/-!
## Validated composites

The check of a composite asks its inner operators, and not the outer one, which only meets their
answers during evaluation. So a composite that passes its check may still be stopped by its outer
operator, or forward an answer of another type. It is sound where the outer operator accepts the
inner ones as its inputs; without that, the number of inputs is right all the same, and an outer
operator that computes its answer keeps to the type that it finds.
-/

/-- The failures of operators that are given as many inputs as they take. -/
def EvaluationError.Supplied : EvaluationError → Prop
  | wrongArity _ _ _ => False
  | wrongType _ _ _ _ | typeMismatch _ _ | divisionByZero | indexOutOfBounds _ _ | custom _ => True

/-- Plain values, of the declared type where `typed` asks for it. Operators may reject what they are
given, but not for its number. -/
def Discipline.tolerant (typed : Prop) : Discipline where
  events _ := True
  faults := False
  fits type value := (typed → value.type = type) ∧ value.Plain
  permits := EvaluationError.Supplied
  lenient := True
  literal literal := ⟨fun _ => rfl, .literal literal⟩
  retyped fits literal typed := ⟨fun asked => typed.trans (fits.1 asked), .literal literal⟩
  slot _ _ := .inl trivial
  alike _ _ := .inl trivial
  object fits := absurd fits.2 Value.Plain.not_object
  element := by
    rintro type view ⟨-, plain⟩ index inside
    obtain ⟨item, produced, typed, plainItem⟩ := plain.element inside
    rw [produced]
    exact ⟨fun _ => typed, plainItem⟩
  wrongType _ _ _ _ _ := trivial
  typeMismatch _ _ _ := trivial
  divisionByZero := trivial
  indexOutOfBounds _ _ := trivial
  pull _ := trivial
  failure _ _ := trivial

theorem Outcome.answers_or_failure {ε α : Type} (results : List (Outcome ε α)) :
    (∃ answers : List α, results = answers.map .ok) ∨
      ∃ (answers : List α) (failure : Outcome ε α) (later : List (Outcome ε α)),
        results = answers.map .ok ++ failure :: later ∧ ∀ answer, failure ≠ .ok answer := by
  induction results with
  | nil => exact .inl ⟨[], rfl⟩
  | cons result results induction =>
      cases result with
      | ok answer =>
          obtain ⟨answers, rfl⟩ | ⟨answers, failure, later, rfl, failed⟩ := induction
          · exact .inl ⟨answer :: answers, rfl⟩
          · exact .inr ⟨answer :: answers, failure, later, rfl, failed⟩
      | error cause => exact .inr ⟨[], _, results, rfl, nofun⟩
      | fault reason => exact .inr ⟨[], _, results, rfl, nofun⟩

namespace Operator

variable {discipline : Discipline} {outer : Operator} {inners : List Operator} {header : Header}
  {inputs : List Variable} {outputs : List ValueType} {typing : Outcome Empty ValueType}

/-- The results of inner operators whose output types have been found. -/
def parts (inputs : List Variable) : List ValueType → List Operator → List Variable :=
  List.zipWith fun type inner => ⟨pure type, evaluate inner inputs⟩

theorem innerResults_steady
    (found : List.Forall₂ (fun output inner => (outputType inner inputs).Steady (.ok output))
      outputs inners) :
    (innerResults inners inputs).Steady (.ok (parts inputs outputs inners)) := by
  induction found with
  | nil => exact fun _ => rfl
  | cons head _ induction =>
      rw [innerResults]
      exact head.bind_ok (induction.bind_ok fun _ => rfl)

theorem parts_wired (each : List.Forall₂ (fun output inner =>
      discipline.Meets (discipline.fits output) (evaluate inner inputs) ∧
        ∃ outcome, (evaluate inner inputs).Steady outcome) outputs inners) :
    discipline.Wired outputs (parts inputs outputs inners) := by
  induction each with
  | nil => exact .nil
  | cons head _ induction =>
      refine .cons ⟨?_, ?_⟩ induction
      · exact .ok (fun _ => rfl) (Run.Meets.pure trivial) head.1
      · exact .of_steady head.2

theorem parts_steady {results : List (Outcome EvaluationError Value)}
    (lengths : outputs.length = inners.length)
    (evaluated : List.Forall₂ (fun inner result => (evaluate inner inputs).Steady result) inners
      results) :
    List.Forall₂ (fun (part : Variable) result => part.value.Steady result)
      (parts inputs outputs inners) results := by
  induction evaluated generalizing outputs with
  | nil =>
      obtain rfl := List.length_eq_zero_iff.mp lengths
      exact .nil
  | cons head _ induction =>
      obtain ⟨output, outputs, rfl⟩ := List.exists_cons_of_length_eq_add_one lengths
      exact .cons head (induction (Nat.succ.inj lengths))

theorem exists_results (each : List.Forall₂ (fun output inner =>
      discipline.Meets (discipline.fits output) (evaluate inner inputs) ∧
        ∃ outcome, (evaluate inner inputs).Steady outcome) outputs inners) :
    ∃ results : List (Outcome EvaluationError Value),
      List.Forall₂ (fun inner result => (evaluate inner inputs).Steady result) inners results ∧
      ∀ result ∈ results, result.Meets discipline.faults discipline.permits fun _ => True := by
  induction each with
  | nil => exact ⟨[], .nil, nofun⟩
  | cons head _ induction =>
      obtain ⟨meets, outcome, ends⟩ := head
      obtain ⟨results, evaluated, keeps⟩ := induction
      have kept := (meets .empty).1
      rw [ends .empty] at kept
      refine ⟨outcome :: results, .cons ends evaluated, List.forall_mem_cons.mpr ⟨?_, keeps⟩⟩
      exact kept.weaken fun _ _ => trivial

/-- A composite keeps to a discipline, and to the type that it finds, if the outer operator does so
on what the inner ones yield. -/
theorem composite_keeps [HostArithmetic] (built : outer.BuiltFrom Primitive.Parametric)
    (sound : outer.SoundAt discipline outputs)
    (found : List.Forall₂ (fun output inner => (outputType inner inputs).Steady (.ok output))
      outputs inners)
    (each : List.Forall₂ (fun output inner =>
      discipline.Meets (discipline.fits output) (evaluate inner inputs) ∧
        ∃ outcome, (evaluate inner inputs).Steady outcome) outputs inners) :
    ∃ typing, ((composite header outer inners).outputType inputs).Steady typing ∧
      (∀ reason, typing = .fault reason → discipline.faults) ∧
      ∀ trace, (((composite header outer inners).evaluate inputs).after trace).1.Meets
        discipline.faults discipline.permits (discipline.promise typing) := by
  obtain ⟨typing, typed⟩ := sound _ (parts_wired each)
  refine ⟨typing, ?_, ?_, fun trace => ?_⟩
  · rw [outputType]
    exact (innerResults_steady found).bind_ok typed.type
  · rintro reason rfl
    have quiet := (typed.quiet .empty).1
    rwa [typed.type] at quiet
  obtain ⟨results, evaluated, keeps⟩ := exists_results each
  -- if all inner operators answer, the outer one might as well read from them directly
  obtain ⟨answers, rfl⟩ | ⟨answers, failure, later, rfl, failed⟩ :=
    Outcome.answers_or_failure results
  · have yielding := parts_steady each.length_eq evaluated
    rw [List.forall₂_map_right_iff] at evaluated yielding
    obtain ⟨outcome, whole, graph⟩ := composite_steady_of_answers header built evaluated yielding
    rw [whole trace, ← graph .empty]
    exact (typed.value .empty).1
  · rw [composite_steady_of_failure header built evaluated failed trace]
    have kept := keeps failure (List.mem_append_right _ List.mem_cons_self)
    cases failure with
    | ok answer => exact absurd rfl (failed answer)
    | error cause => exact kept
    | fault reason => exact kept

/-- Steady variables declare no types but those that typing them always finds. -/
theorem types_eq_of_declared {types : List ValueType}
    (declared : List.Forall₂ (fun type (input : Variable) => input.Declares type) types inputs)
    (steady : List.Forall₂ (fun type (input : Variable) => input.type.Steady (.ok type)) outputs
      inputs) : types = outputs := by
  induction declared generalizing outputs with
  | nil =>
      cases steady
      rfl
  | cons head _ induction =>
      obtain _ | ⟨always, rest⟩ := steady
      obtain ⟨trace, found⟩ := head
      rw [always trace] at found
      cases found
      rw [induction rest]

section

variable {values : List Value}

theorem constants_wired (keeps : ∀ value, value.Plain → discipline.fits value.type value)
    (plain : ∀ value ∈ values, value.Plain) :
    discipline.Wired (values.map Value.type) (values.map Variable.constant) := by
  rw [Discipline.Wired, List.forall₂_map_left_iff, List.forall₂_map_right_iff]
  refine List.forall₂_same.mpr fun value member => ⟨?_, .of_steady ⟨.ok value, fun _ => rfl⟩⟩
  exact .ok (fun _ => rfl) (Run.Meets.pure trivial)
    (Run.Meets.pure (keeps value (plain value member)))

theorem constants_steadily_typed :
    List.Forall₂ (fun type (input : Variable) => input.type.Steady (.ok type))
      (values.map Value.type) (values.map Variable.constant) := by
  rw [List.forall₂_map_left_iff, List.forall₂_map_right_iff]
  exact List.forall₂_same.mpr fun value _ _ => rfl

/-- On plain constants, inner operators that accept them have output types. -/
theorem exists_outputs [HostArithmetic] (members : ∀ inner ∈ inners, inner ∈ Catalogue.builtins)
    (plain : ∀ value ∈ values, value.Plain)
    (accepted : ∀ inner ∈ inners, checkTypes inner ((values.map Value.type).map some) = .ok ()) :
    ∃ outputs, List.Forall₂ (fun output inner =>
      (outputType inner (values.map Variable.constant)).Steady (.ok output)) outputs inners := by
  induction inners with
  | nil => exact ⟨[], .nil⟩
  | cons inner inners induction =>
      have wired : Discipline.strict.Wired (values.map Value.type)
          (values.map Variable.constant) := constants_wired (fun _ plain => ⟨rfl, plain⟩) plain
      obtain ⟨typing, typed⟩ := Catalogue.builtin_sound (members inner List.mem_cons_self)
        (.checked (accepted inner List.mem_cons_self)) _ wired
      obtain ⟨output, rfl⟩ := typed.exists_type id
      obtain ⟨outputs, found⟩ :=
        induction (fun inner member => members inner (List.mem_cons_of_mem _ member))
          fun inner member => accepted inner (List.mem_cons_of_mem _ member)
      exact ⟨output :: outputs, .cons typed.type found⟩

/-- Under every discipline that plain values fit, the inner operators keep to their output types. -/
theorem inners_keep [HostArithmetic]
    (keeps : ∀ value, value.Plain → discipline.fits value.type value)
    (members : ∀ inner ∈ inners, inner ∈ Catalogue.builtins)
    (plain : ∀ value ∈ values, value.Plain)
    (accepted : ∀ inner ∈ inners, checkTypes inner ((values.map Value.type).map some) = .ok ())
    (found : List.Forall₂ (fun output inner =>
      (outputType inner (values.map Variable.constant)).Steady (.ok output)) outputs inners) :
    List.Forall₂ (fun output inner =>
      discipline.Meets (discipline.fits output) (evaluate inner (values.map Variable.constant)) ∧
        ∃ outcome, (evaluate inner (values.map Variable.constant)).Steady outcome)
      outputs inners := by
  induction found with
  | nil => exact .nil
  | @cons output inner outputs inners head _ induction =>
      have member := members inner List.mem_cons_self
      obtain ⟨typing, typed⟩ := Catalogue.builtin_sound member
        (.checked (accepted inner List.mem_cons_self)) _ (constants_wired keeps plain)
      obtain rfl := typed.type.unique head
      have steady : ∀ input ∈ values.map Variable.constant,
          ∃ outcome, input.value.Steady outcome :=
        List.forall_mem_map.mpr fun value _ => ⟨.ok value, fun _ => rfl⟩
      refine .cons ⟨typed.fits, (Catalogue.builtFrom_parametric member).steady steady⟩ ?_
      exact induction (fun inner member => members inner (List.mem_cons_of_mem _ member))
        fun inner member => accepted inner (List.mem_cons_of_mem _ member)

theorem composite_ends [HostArithmetic] (header : Header)
    (keeps : ∀ value, value.Plain → discipline.fits value.type value)
    (faultless : ¬ discipline.faults) (outerMember : outer ∈ Catalogue.builtins)
    (members : ∀ inner ∈ inners, inner ∈ Catalogue.builtins)
    (plain : ∀ value ∈ values, value.Plain)
    (accepted : ∀ inner ∈ inners, checkTypes inner ((values.map Value.type).map some) = .ok ())
    (found : List.Forall₂ (fun output inner =>
      (outputType inner (values.map Variable.constant)).Steady (.ok output)) outputs inners)
    (sound : outer.SoundAt discipline outputs) :
    ∃ type, ((composite header outer inners).outputType (values.map Variable.constant)).Steady
        (.ok type) ∧
      ∀ trace, (((composite header outer inners).evaluate
        (values.map Variable.constant)).after trace).1.Meets discipline.faults discipline.permits
          (discipline.fits type) := by
  have each := inners_keep keeps members plain accepted found
  obtain ⟨typing, finds, faults, ended⟩ :=
    composite_keeps (Catalogue.builtFrom_parametric outerMember) sound found each
  cases typing with
  | error cause => cases cause
  | fault reason => exact absurd (faults reason rfl) faultless
  | ok type =>
      refine ⟨type, finds, fun trace => (ended trace).weaken fun value promised => ?_⟩
      obtain ⟨_, ⟨⟩, fits⟩ := promised
      exact fits

end

/-- Equalities compare values of any two types, although their own check asks for one. -/
theorem equality_sound (equality : outer ∈ [Catalogue.equals, Catalogue.notEquals])
    (lengths : outputs.length = outer.arity) : outer.SoundAt discipline outputs := by
  rcases List.mem_pair.mp equality with rfl | rfl
  · obtain ⟨first, second, rfl⟩ := List.length_eq_two.mp lengths
    exact sound_of_static Catalogue.static_equals Catalogue.equals_yields
  · obtain ⟨first, second, rfl⟩ := List.length_eq_two.mp lengths
    exact sound_of_static Catalogue.notEquals_static Catalogue.notEquals_yields

/-- A composite of built-in operators that accepts some plain constants finds one type for them. It
never misses an input. Unless its outer operator forwards an input unseen, its answers have that
type. And if the outer operator accepts the inner ones as its inputs, or is an equality, then the
evaluation answers with a value of that type or fails in a residual way. -/
theorem composite_type_sound [HostArithmetic] {made : Operator} {symbol name kind : String}
    {pattern : RenderPattern} (outerMember : outer ∈ Catalogue.builtins)
    (innersMember : ∀ inner ∈ inners, inner ∈ Catalogue.builtins)
    (composed : outer.compose inners symbol name pattern kind = .ok made)
    {values : List Value} (plain : ∀ value ∈ values, value.Plain) {start later : Trace}
    (accepted : (made.checkVariables (values.map Variable.constant)).after start =
      (.ok (), later)) :
    ∃ type, (made.outputType (values.map Variable.constant)).Steady (.ok type) ∧
      (∀ trace operator expected got,
        ((made.evaluate (values.map Variable.constant)).after trace).1 ≠
          .error (.wrongArity operator expected got)) ∧
      (outer ∉ Catalogue.forwarding → ∀ trace value,
        ((made.evaluate (values.map Variable.constant)).after trace).1 = .ok value →
          value.type = type) ∧
      (outer ∈ [Catalogue.equals, Catalogue.notEquals] ∨
          (∃ before after, (outer.checkVariables
            (inners.map (·.applied (values.map Variable.constant)))).after before =
              (.ok (), after)) →
        ∀ trace, ((made.evaluate (values.map Variable.constant)).after trace).1.Meets False
          EvaluationError.Residual fun value => value.type = type) := by
  obtain ⟨count, header, rfl⟩ := compose_eq_ok composed
  obtain ⟨types, declared, checked⟩ := checkVariables_eq_ok accepted
  obtain rfl := types_eq_of_declared declared constants_steadily_typed
  have innersAccept := (composite_checkTypes_eq_ok_iff.mp checked).2
  obtain ⟨outputs, found⟩ := exists_outputs innersMember plain innersAccept
  have lengths : outputs.length = outer.arity := found.length_eq.trans count
  -- each part is what one discipline says: the last one only, if the outer operator agrees
  have untyped : ∀ value, value.Plain → (Discipline.tolerant False).fits value.type value :=
    fun _ plain => ⟨False.elim, plain⟩
  have careless : (Discipline.tolerant False).Careless := fun _ _ _ fits => ⟨False.elim, fits.2⟩
  obtain ⟨type, finds, ended⟩ := composite_ends header untyped id outerMember innersMember plain
    innersAccept found (Catalogue.builtin_sound outerMember
      (.unchecked lengths trivial (.inl careless)))
  refine ⟨type, finds, ?_, ?_, ?_⟩
  · intro trace operator expected got failed
    have kept := ended trace
    rw [failed] at kept
    exact kept
  · intro computes trace value answered
    have typed : ∀ value, value.Plain → (Discipline.tolerant True).fits value.type value :=
      fun _ plain => ⟨fun _ => rfl, plain⟩
    obtain ⟨type', finds', ended'⟩ := composite_ends header typed id outerMember innersMember plain
      innersAccept found (Catalogue.builtin_sound outerMember
        (.unchecked lengths trivial (.inr computes)))
    cases finds'.unique finds
    have kept := ended' trace
    rw [answered] at kept
    exact kept.1 trivial
  · intro agrees trace
    have typed : ∀ value, value.Plain → Discipline.strict.fits value.type value :=
      fun _ plain => ⟨rfl, plain⟩
    have sound : outer.SoundAt Discipline.strict outputs := by
      rcases agrees with equality | ⟨before, after, agreed⟩
      · exact equality_sound equality lengths
      · obtain ⟨types, declared, agreed⟩ := checkVariables_eq_ok agreed
        obtain rfl := types_eq_of_declared declared
          (List.forall₂_map_right_iff.mpr found)
        exact Catalogue.builtin_sound outerMember (.checked agreed)
    obtain ⟨type', finds', ended'⟩ := composite_ends header typed id outerMember innersMember plain
      innersAccept found sound
    cases finds'.unique finds
    exact (ended' trace).weaken fun value fits => fits.1

/-- What an accepted composite may still do: be stopped by the type of an inner result or by the
difference of two, and forward an answer of a type other than the one that it finds. -/
theorem composite_not_type_sound :
    (∃ made, Catalogue.negation.compose [Catalogue.stringLength] "!len" "notlength" .leading
        "custom" = .ok made ∧
      (made.checkVariables [.constant (.string "ab")]).after .empty = (.ok (), .empty) ∧
      ((made.evaluate [.constant (.string "ab")]).after .empty).1 =
        .error (.wrongType "logical.not" 0 .boolean .integer)) ∧
    (∃ made, Catalogue.addition.compose [Catalogue.identity, Catalogue.floor] "+floor" "plusfloor"
        .leading "custom" = .ok made ∧
      (made.checkVariables [.constant (.double 1.5)]).after .empty = (.ok (), .empty) ∧
      ((made.evaluate [.constant (.double 1.5)]).after .empty).1 =
        .error (.typeMismatch .double .integer)) ∧
    (∃ made, Catalogue.conjunction.compose [Catalogue.greaterThan, Catalogue.addition] "&+" "andsum"
        .between "custom" = .ok made ∧
      (made.checkVariables [.constant (.integer 5), .constant (.integer 3)]).after .empty =
        (.ok (), .empty) ∧
      ((made.outputType [.constant (.integer 5), .constant (.integer 3)]).after .empty).1 =
        .ok .boolean ∧
      ((made.evaluate [.constant (.integer 5), .constant (.integer 3)]).after .empty).1 =
        .ok (.integer 8) ∧
      ValueType.boolean.accepts (Value.integer 8).type = false) :=
  ⟨⟨_, rfl, rfl, rfl⟩, ⟨_, rfl, rfl, rfl⟩, ⟨_, rfl, rfl, rfl, rfl, rfl⟩⟩

/-- A sum plus a maximum. Both parts are integers, which addition accepts. -/
theorem sum_plus_maximum_sound :
    ∃ made, Catalogue.addition.compose [Catalogue.addition, Catalogue.maximum] "+max" "plusmax"
        .between "custom" = .ok made ∧
      (made.checkVariables [.constant (.integer 5), .constant (.integer 3)]).after .empty =
        (.ok (), .empty) ∧
      ∃ type, (made.outputType [.constant (.integer 5), .constant (.integer 3)]).Steady
          (.ok type) ∧
        ∀ trace, ((made.evaluate [.constant (.integer 5), .constant (.integer 3)]).after
          trace).1.Meets False EvaluationError.Residual fun value => value.type = type := by
  refine ⟨_, rfl, rfl, ?_⟩
  have members : ∀ inner ∈ [Catalogue.addition, Catalogue.maximum],
      inner ∈ Catalogue.builtins := by
    simp [Catalogue.builtins, Catalogue.arithmetic]
  have plain : ∀ value ∈ [Value.integer 5, Value.integer 3], value.Plain := by
    simp only [List.forall_mem_cons]
    exact ⟨.literal rfl, .literal rfl, List.forall_mem_nil _⟩
  obtain ⟨type, finds, -, -, sound⟩ := composite_type_sound (members _ List.mem_cons_self) members
    (rfl : Catalogue.addition.compose _ "+max" "plusmax" .between "custom" = _) plain
    (rfl : (checkVariables _ _).after .empty = _)
  exact ⟨type, finds, sound (.inr ⟨.empty, .empty, rfl⟩)⟩

end Operator

/-!
## Checked graphs are honest

The values of a checked graph have types that the declared types of its nodes admit. The leaves may
declare placeholders, and yield host objects and lists made by a host: the discipline is lenient,
and asks only that lists keep to their declared element types.
-/

/-- Values of admitted types, in which every list keeps to its element type. Anything may fail. -/
def Discipline.covering : Discipline where
  events _ := True
  faults := True
  fits type value := type.accepts value.type = true ∧ value.Covered
  permits _ := True
  lenient := True
  literal literal := ⟨ValueType.accepts_refl _, .of_isLiteral literal⟩
  retyped := by
    rintro type value other ⟨accepted, -⟩ literal typed
    exact ⟨typed ▸ accepted, .of_isLiteral literal⟩
  slot outer fits := .inr (ValueType.accepts_trans outer fits.1)
  alike _ _ := .inl trivial
  object fits := ⟨trivial, trivial, fits.2.object⟩
  element := by
    rintro type view ⟨-, covered⟩ index inside
    cases produced : view.element index with
    | ok item => exact covered.element inside produced
    | error cause => trivial
  wrongType _ _ _ _ _ := trivial
  typeMismatch _ _ _ := trivial
  divisionByZero := trivial
  indexOutOfBounds _ _ := trivial
  pull _ := trivial
  failure _ _ := trivial

namespace Graph

/-- Graphs whose nodes are all checked, over leaves that answer every read in the same way, with
values that keep to the declared types. -/
inductive Checked [HostArithmetic] : Graph → Prop
  | constant {value : Value} : value.Covered → Checked (constant value)
  | leaf {source : Leaf} {answer : Except EvaluationError Value} :
      (∀ events, source.answer events = answer) →
      (∀ value, answer = .ok value → source.type.accepts value.type = true ∧ value.Covered) →
      Checked (leaf source)
  | node {operator : Operator} {inputs : List Graph} {trace later : Trace} {graph : Graph} :
      operator ∈ Catalogue.builtins → (∀ input ∈ inputs, Checked input) →
      (checkedNode operator inputs).after trace = (.ok graph, later) → Checked graph

theorem checkedNode_eq_ok {operator : Operator} {inputs : List Graph} {graph : Graph}
    {trace later : Trace}
    (accepted : (checkedNode operator inputs).after trace = (.ok graph, later)) :
    graph = node operator inputs ∧
      (operator.checkVariables (inputs.map toVariable)).after trace = (.ok (), later) := by
  obtain ⟨_, between, passed, ended⟩ := Run.bind_eq_ok accepted
  rw [toVariables_eq_map] at passed
  cases ended
  exact ⟨rfl, passed⟩

theorem value_toVariable (graph : Graph) : graph.toVariable.value = graph.value := rfl

/-- Every checked graph is steady, and keeps to the type that it declares. -/
theorem Checked.typed [HostArithmetic] {graph : Graph} (checked : graph.Checked) :
    (∃ outcome, graph.value.Steady outcome) ∧
      ∃ typing, graph.toVariable.Typed Discipline.covering typing := by
  induction checked with
  | @constant value covered =>
      refine ⟨⟨.ok value, fun _ => rfl⟩, .ok value.type, ?_⟩
      exact .ok (fun _ => rfl) (Run.Meets.pure trivial)
        (Run.Meets.pure ⟨value.type.accepts_refl, covered⟩)
  | @leaf source answer steady keeps =>
      refine ⟨⟨.ofExcept answer, fun trace => ?_⟩, .ok source.type, ?_⟩
      · exact congrArg Outcome.ofExcept (steady trace.events)
      · refine .ok (fun _ => rfl) (Run.Meets.pure trivial) ?_
        refine Run.Meets.read (fun _ => trivial) fun events => ?_
        rw [steady]
        cases answer with
        | ok value => exact keeps value rfl
        | error cause => trivial
  | @node operator inputs trace later graph member _ accepted induction =>
      obtain ⟨rfl, passed⟩ := checkedNode_eq_ok accepted
      obtain ⟨types, declared, admitted⟩ := Operator.checkVariables_eq_ok passed
      have steady : ∀ input ∈ inputs.map toVariable, ∃ outcome, input.value.Steady outcome := by
        intro input among
        obtain ⟨part, member, rfl⟩ := List.mem_map.mp among
        exact (induction part member).1
      have typed : ∀ input ∈ inputs.map toVariable,
          ∃ typing, input.Typed Discipline.covering typing := by
        intro input among
        obtain ⟨part, member, rfl⟩ := List.mem_map.mp among
        exact (induction part member).2
      have wired : Discipline.covering.Wired types (inputs.map toVariable) :=
        .of_declared declared typed fun input among => .of_steady (steady input among)
      obtain ⟨outcome, ends⟩ := (Catalogue.builtFrom_parametric member).steady steady
      obtain ⟨typing, sound⟩ := Catalogue.builtin_sound member (.checked admitted) _ wired
      rw [value, toVariable_node]
      exact ⟨⟨outcome, ends.recordError _⟩, typing, Operator.applied_typed sound⟩

/-- Whatever value a checked graph yields, its declared type admits the type of the value. -/
theorem type_accepts_value [HostArithmetic] {graph : Graph} (checked : graph.Checked)
    {trace later : Trace} {value : Value} (yields : graph.value.after trace = (.ok value, later)) :
    ∃ type, graph.type.Steady (.ok type) ∧ type.accepts value.type = true := by
  obtain ⟨-, typing, typed⟩ := checked.typed
  have promised := (typed.value trace).1
  rw [value_toVariable, yields] at promised
  obtain ⟨type, rfl, accepted, -⟩ := promised
  exact ⟨type, typed.type, accepted⟩

/-- A leaf that declares a number and yields an integer. -/
def numberLeaf (number : Int32) : Graph :=
  leaf (.steady 0 (.placeholder .number) (.ok (.integer number)))

theorem type_accepts_sum :
    ∃ type, (node Catalogue.addition [numberLeaf 5, numberLeaf 7]).type.Steady (.ok type) ∧
      type.accepts .integer = true := by
  have leaves : ∀ input ∈ [numberLeaf 5, numberLeaf 7], Checked input := by
    intro input member
    rcases List.mem_pair.mp member with rfl | rfl
    · exact .leaf (fun _ => rfl) (by rintro value ⟨⟩; exact ⟨rfl, .of_isLiteral rfl⟩)
    · exact .leaf (fun _ => rfl) (by rintro value ⟨⟩; exact ⟨rfl, .of_isLiteral rfl⟩)
  have member : Catalogue.addition ∈ Catalogue.builtins := by
    simp [Catalogue.builtins, Catalogue.arithmetic]
  have accepted : (checkedNode Catalogue.addition [numberLeaf 5, numberLeaf 7]).after .empty =
      (.ok (node Catalogue.addition [numberLeaf 5, numberLeaf 7]), .empty) := rfl
  have checked := Checked.node member leaves accepted
  have yields : ((node Catalogue.addition [numberLeaf 5, numberLeaf 7]).value.after .empty).1 =
      .ok (.integer 12) := rfl
  exact type_accepts_value checked (Prod.ext yields rfl)

end Graph

end Dataflow

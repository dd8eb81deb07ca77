import Dataflow.Proofs.Catalogue.Yields
import Dataflow.Proofs.Operator.Parametric
import Dataflow.Proofs.Operator.TypeCheck

/-!
# The built-in operators are sound

Whatever a wiring that passes the static check of a built-in operator evaluates to keeps to the type
that the operator finds for its output. Under a lenient discipline the right number of inputs is
enough, except for the three operators that answer with one of their inputs unseen.
-/

namespace Dataflow

variable {discipline : Discipline} {types : List ValueType} {output : ValueType}
  {operator outer : Operator} {inners : List Operator} {inputs : List Variable}

/-- What a steady variable shows of its elements is always the same. -/
theorem Variable.Settled.of_steady {input : Variable}
    (steady : ∃ outcome, input.value.Steady outcome) : input.Settled := by
  obtain ⟨outcome, ends⟩ := steady
  -- the rule for element types does not look at the declared type
  let other : Variable := ⟨pure .list, input.value⟩
  have alike : Variable.Alike (fun _ _ => True) Eq other other :=
    ⟨ends.related ends, Run.Related.pure rfl⟩
  have related : Run.Related (fun _ _ => True) Eq (OutputRule.elementType [other])
      (OutputRule.elementType [other]) :=
    OutputRule.elementType_parametric Value.congruence_eq (.cons alike .nil)
  exact Run.Steady.of_related related

namespace Operator

/-- The output type does not depend on the inputs. -/
def Static (output : ValueType) (operator : Operator) : Prop :=
  ∀ inputs, operator.outputType inputs = pure output

theorem sound_of_static (static : operator.Static output)
    (yields : operator.YieldsAt discipline types output) : operator.SoundAt discipline types := by
  intro inputs wired
  have typed : (operator.wired inputs).type = pure output := static inputs
  refine ⟨.ok output, Variable.Typed.ok ?_ ?_ (yields inputs wired.feeds)⟩
  · rw [typed]
    exact fun _ => rfl
  · rw [typed]
    exact Run.Meets.pure trivial

/-- An operator whose output has the type of the input in some slot. -/
theorem sound_of_inputType {slot : Nat} (present : types[slot]? = some output)
    (rule : ∀ inputs input, inputs[slot]? = some input → operator.outputType inputs = input.type)
    (yields : operator.YieldsAt discipline types output) : operator.SoundAt discipline types := by
  intro inputs wired
  rcases getElem?_of_forall₂ wired slot with ⟨missing, -⟩ | ⟨type, input, found, given, typed, -⟩
  · rw [present] at missing
    cases missing
  obtain rfl : output = type := Option.some.inj (present.symm.trans found)
  have same : (operator.wired inputs).type = input.type := rule inputs input given
  refine ⟨.ok output, Variable.Typed.ok ?_ ?_ (yields inputs wired.feeds)⟩
  · rw [same]
    exact typed.type
  · rw [same]
    exact typed.quiet

theorem evaluateAll_meets {outputs : List ValueType}
    (each : List.Forall₂ (fun output inner =>
      discipline.Meets (discipline.fits output) (evaluate inner inputs)) outputs inners) :
    discipline.Meets (List.Forall₂ discipline.fits outputs) (evaluateAll inners inputs) := by
  induction each with
  | nil => exact Run.Meets.pure .nil
  | cons head _ induction =>
      rw [evaluateAll]
      refine head.bind fun answer fits => ?_
      exact induction.bind fun answers rest => Run.Meets.pure (.cons fits rest)

/-- A composite yields what the outer operator yields on what the inner ones yield. -/
theorem composite_yields {header : Header} {outputs : List ValueType}
    (innerYields : List.Forall₂ (fun output inner => YieldsAt discipline types output inner)
      outputs inners)
    (outerYields : outer.YieldsAt discipline outputs output) :
    (composite header outer inners).YieldsAt discipline types output := by
  intro inputs feeds
  rw [evaluate]
  refine (evaluateAll_meets (innerYields.imp fun _ _ yields => yields inputs feeds)).bind
    fun answers fits => outerYields _ ?_
  rw [Discipline.Feeds, List.forall₂_map_right_iff]
  exact fits.imp fun _ _ fitting => Run.Meets.pure fitting

theorem composite_static {header : Header}
    (innerStatic : ∀ inner ∈ inners, ∃ type, Static type inner)
    (outerStatic : outer.Static output) : (composite header outer inners).Static output := by
  intro inputs
  have results : ∃ results, innerResults inners inputs = pure results := by
    induction inners with
    | nil => exact ⟨[], rfl⟩
    | cons inner inners induction =>
        obtain ⟨type, static⟩ := innerStatic inner List.mem_cons_self
        obtain ⟨results, rest⟩ :=
          induction fun inner member => innerStatic inner (List.mem_cons_of_mem _ member)
        refine ⟨⟨pure type, evaluate inner inputs⟩ :: results, ?_⟩
        rw [innerResults, static inputs, rest]
        rfl
  obtain ⟨results, ends⟩ := results
  rw [outputType, ends, pure_bind]
  exact outerStatic results

end Operator

/-- Whatever fits one type fits every type. -/
def Discipline.Careless (discipline : Discipline) : Prop :=
  ∀ type other value, discipline.fits type value → discipline.fits other value

namespace Catalogue

/-- The operators that answer with an input which they do not look at. -/
def forwarding : List Operator := [conjunction, disjunction, choice]

end Catalogue

namespace Operator

/-- A wiring that passes the check of an operator, or that a lenient discipline lets through. -/
inductive Admits (discipline : Discipline) (types : List ValueType) (operator : Operator) : Prop
  | checked : operator.checkTypes (types.map some) = .ok () → Admits discipline types operator
  | unchecked : types.length = operator.arity → discipline.lenient →
      (discipline.Careless ∨ operator ∉ Catalogue.forwarding) → Admits discipline types operator

namespace Admits

variable {declared : List ValueType}

theorem of_length (lengths : types.length = declared.length) (lenient : discipline.lenient) :
    List.Forall₂ (fun slot type => discipline.lenient ∨ ValueType.accepts slot type = true)
      declared types :=
  List.forall₂_of_length_eq_of_get lengths.symm fun _ _ _ => .inl lenient

theorem of_accepts
    (accepted : List.Forall₂ (fun slot type => ValueType.accepts slot type = true) declared types) :
    List.Forall₂ (fun slot type => discipline.lenient ∨ ValueType.accepts slot type = true)
      declared types :=
  accepted.imp fun _ _ accepts => .inr accepts

theorem slots (admits : operator.Admits discipline types)
    (check : operator.checkTypes (types.map some) =
      TypeCheck.default operator.header (types.map some)) :
    List.Forall₂ (fun slot type => discipline.lenient ∨ slot.accepts type = true)
      operator.header.inputs types := by
  cases admits with
  | checked accepted => exact of_accepts (TypeCheck.default_eq_ok_iff.mp (check ▸ accepted))
  | unchecked lengths lenient _ => exact of_length lengths lenient

theorem uniform (admits : operator.Admits discipline types)
    (check : operator.checkTypes (types.map some) =
      TypeCheck.uniform operator.header (types.map some)) :
    List.Forall₂ (fun slot type => discipline.lenient ∨ slot.accepts type = true)
        operator.header.inputs types ∧
      (discipline.lenient ∨ ∀ type ∈ types.tail, types.head? = some type) := by
  cases admits with
  | checked accepted =>
      obtain ⟨accepts, same⟩ := TypeCheck.uniform_eq_ok_iff.mp (check ▸ accepted)
      exact ⟨of_accepts accepts, .inr same⟩
  | unchecked lengths lenient _ => exact ⟨of_length lengths lenient, .inl lenient⟩

theorem forwarded (admits : operator.Admits discipline types)
    (forwards : operator ∈ Catalogue.forwarding) :
    operator.checkTypes (types.map some) = .ok () ∨
      (types.length = operator.arity ∧ discipline.lenient ∧ discipline.Careless) := by
  cases admits with
  | checked accepted => exact .inl accepted
  | unchecked lengths lenient careless =>
      exact .inr ⟨lengths, lenient, careless.resolve_right fun others => others forwards⟩

end Admits

theorem checkAll_eq_ok_iff {given : List (Option ValueType)} :
    checkAll inners given = .ok () ↔ ∀ inner ∈ inners, checkTypes inner given = .ok () := by
  induction inners with
  | nil => simp [checkAll]
  | cons inner inners induction =>
      rw [checkAll, TypeCheck.then_eq_ok_iff, List.forall_mem_cons, induction]

theorem composite_checkTypes_eq_ok_iff {header : Header} {given : List (Option ValueType)} :
    (composite header outer inners).checkTypes given = .ok () ↔
      TypeCheck.default header given = .ok () ∧
        ∀ inner ∈ inners, checkTypes inner given = .ok () := by
  rw [checkTypes, TypeCheck.then_eq_ok_iff, checkAll_eq_ok_iff]

end Operator

namespace Catalogue

open Operator

variable {first second third : ValueType}

theorem inputType_outputType {definition : Primitive} {slot : Nat}
    (rule : definition.outputRule = some (.inputType slot)) (inputs : List Variable)
    (input : Variable) (given : inputs[slot]? = some input) :
    (Operator.primitive definition).outputType inputs = input.type := by
  simp only [Operator.outputType, Primitive.outputType, rule, OutputRule.inputType, given]
  simp [← bind_pure_comp]

theorem elementType_quiet {input : Variable} {answers : Value → Prop}
    (meets : discipline.Meets answers input.value) :
    (OutputRule.elementType [input]).Meets discipline.toAllowance (fun _ => True)
      fun _ => True := by
  refine meets.attempt.bind fun attempted _ => ?_
  rcases attempted with cause | value
  · exact Run.Meets.pure trivial
  · cases value <;> exact Run.Meets.pure trivial

theorem elementAt_meets {view : ListView Value} (fits : discipline.fits first (.list view))
    (index : Int32) :
    discipline.Meets (discipline.fits view.elementType) (elementAt view index) := by
  rw [elementAt]
  split
  · rename_i inside
    have within : index.toInt.toNat < view.length := by omega
    refine (Run.Meets.ofPulling discipline.pull trivial).bind fun _ (_ : True) => ?_
    exact Run.Meets.ofOutcome (discipline.element fits _ within)
  · exact Run.Meets.fail (discipline.indexOutOfBounds _ _)

/-- An element has the type that the list declares, and the list is the one that typing sees. -/
theorem element_sound (firstAdmits : discipline.lenient ∨ ValueType.list.accepts first = true)
    (secondAdmits : discipline.lenient ∨ ValueType.integer.accepts second = true) :
    element.SoundAt discipline [first, second] := by
  intro inputs wired
  obtain _ | ⟨⟨list, refined, settled⟩, _ | ⟨⟨index, -⟩, _ | _⟩⟩ := wired
  refine ⟨refined >>= fun found => .ok (found.getD (.placeholder .any)), ?_, ?_, ?_⟩
  · exact Run.Steady.bind settled fun _ _ _ => rfl
  · exact (elementType_quiet list.fits).bind fun _ _ => Run.Meets.pure trivial
  · simp only [wired, element]
    rw [safe_evaluate rfl]
    refine (Slots.read_meets rfl rfl firstAdmits list.fits.produced (fun _ met => met.1)
      .list).bind fun view found => ?_
    obtain ⟨value, ⟨fits, trace, listed⟩, isList⟩ := found
    refine (Slots.read_meets rfl rfl secondAdmits index.fits (fun _ fits => fits)
      .integer).bind fun position _ => ?_
    cases value with
    | list other =>
        obtain rfl : other = view := Option.some.inj isList
        refine (elementAt_meets fits position).weaken fun item itemFits => ?_
        refine ⟨other.elementType, ?_, itemFits⟩
        rw [← settled trace, OutputRule.elementType_after (Prod.ext listed rfl)]
        rfl
    | _ => cases isList

theorem static_equals : equals.Static .boolean := fun _ => rfl

theorem notEquals_static : notEquals.Static .boolean := by
  refine composite_static (fun inner member => ?_) fun _ => rfl
  obtain rfl := List.mem_singleton.mp member
  exact ⟨.boolean, static_equals⟩

theorem orEqual_static [HostArithmetic] {symbol name strictSymbol strictName : String}
    {wanted : Ordering} :
    (orEqual symbol name (strictOrder strictSymbol strictName wanted)).Static .boolean := by
  refine composite_static (fun inner member => ?_) fun _ => rfl
  rcases List.mem_pair.mp member with rfl | rfl
  · exact ⟨.boolean, static_equals⟩
  · exact ⟨.boolean, fun _ => rfl⟩

theorem negation_yields (admits : discipline.lenient ∨ ValueType.boolean.accepts first = true) :
    negation.YieldsAt discipline [first] .boolean :=
  read_yields rfl .boolean (fun _ => ⟨rfl, rfl⟩) admits

theorem notEquals_yields : notEquals.YieldsAt discipline [first, second] .boolean :=
  composite_yields (.cons equals_yields .nil) (negation_yields (.inr rfl))

theorem orEqual_yields [HostArithmetic] {symbol name strictSymbol strictName : String}
    {wanted : Ordering}
    (firstAdmits : discipline.lenient ∨ (ValueType.placeholder .number).accepts first = true)
    (alike : discipline.lenient ∨ second = first) :
    (orEqual symbol name (strictOrder strictSymbol strictName wanted)).YieldsAt discipline
      [first, second] .boolean :=
  composite_yields (.cons equals_yields (.cons (strictOrder_yields firstAdmits alike) .nil))
    (disjunction_yields (.inr rfl) fun _ fits => fits)

/-- The second input of a logical operator is a boolean, or nobody cares. -/
theorem logical_admits (admits : operator.Admits discipline types)
    (forwards : operator ∈ forwarding) (declared : operator.header.inputs = [.boolean, .boolean])
    (check : operator.checkTypes (types.map some) =
      TypeCheck.default operator.header (types.map some)) :
    ∃ first second, types = [first, second] ∧
      (discipline.lenient ∨ ValueType.boolean.accepts first = true) ∧
      ∀ value, discipline.fits second value → discipline.fits .boolean value := by
  obtain accepted | ⟨lengths, lenient, careless⟩ := admits.forwarded forwards
  · rw [check, TypeCheck.default_eq_ok_iff, declared] at accepted
    obtain _ | ⟨first, _ | ⟨second, _ | _⟩⟩ := accepted
    obtain rfl := ValueType.accepts_of_isConcrete rfl second
    exact ⟨_, _, rfl, .inr first, fun _ fits => fits⟩
  · rw [arity, Header.arity, declared] at lengths
    obtain ⟨first, second, rfl⟩ := List.length_eq_two.mp lengths
    exact ⟨first, second, rfl, .inl lenient, careless _ _⟩

/-- The branches of a choice have one type, or nobody cares. -/
theorem choice_admits (admits : choice.Admits discipline types) :
    ∃ first second third, types = [first, second, third] ∧
      (discipline.lenient ∨ ValueType.boolean.accepts first = true) ∧
      ∀ value, discipline.fits third value → discipline.fits second value := by
  obtain accepted | ⟨lengths, lenient, careless⟩ := admits.forwarded (by simp [forwarding])
  · obtain ⟨_, slots, branches⟩ := TypeCheck.bind_eq_ok_iff.mp accepted
    obtain _ | ⟨first, _ | ⟨-, _ | ⟨-, _ | _⟩⟩⟩ := TypeCheck.default_eq_ok_iff.mp slots
    obtain ⟨got, resolved, same⟩ := TypeCheck.bind_eq_ok_iff.mp branches
    obtain rfl := (TypeCheck.resolved_eq_ok_iff.mp resolved).2
    obtain rfl := (TypeCheck.sameFrom_eq_ok_iff 2).mp same _ List.mem_cons_self
    exact ⟨_, _, _, rfl, .inr first, fun _ fits => fits⟩
  · obtain ⟨first, second, third, rfl⟩ := List.length_eq_three.mp lengths
    exact ⟨first, second, third, rfl, .inl lenient, careless _ _⟩

theorem notEquals_admits (admits : notEquals.Admits discipline types) :
    ∃ first second, types = [first, second] := by
  apply List.length_eq_two.mp
  cases admits with
  | checked accepted =>
      have slots := (composite_checkTypes_eq_ok_iff.mp accepted).1
      exact (TypeCheck.default_eq_ok_iff.mp slots).length_eq.symm
  | unchecked lengths _ _ => exact lengths

theorem orEqual_admits [HostArithmetic] {symbol name strictSymbol strictName : String}
    {wanted : Ordering}
    (admits : (orEqual symbol name (strictOrder strictSymbol strictName wanted)).Admits discipline
      types) :
    ∃ first second, types = [first, second] ∧
      (discipline.lenient ∨ (ValueType.placeholder .number).accepts first = true) ∧
      (discipline.lenient ∨ second = first) := by
  cases admits with
  | checked accepted =>
      have inner := (composite_checkTypes_eq_ok_iff.mp accepted).2 _
        (List.mem_cons_of_mem _ List.mem_cons_self)
      obtain ⟨_ | ⟨first, _ | ⟨-, _ | _⟩⟩, uniform⟩ := TypeCheck.uniform_eq_ok_iff.mp inner
      have same := Option.some.inj (uniform _ List.mem_cons_self)
      exact ⟨_, _, rfl, .inr first, .inr same.symm⟩
  | unchecked lengths lenient _ =>
      obtain ⟨first, second, rfl⟩ := List.length_eq_two.mp lengths
      exact ⟨first, second, rfl, .inl lenient, .inl lenient⟩

/-- Every wiring that passes the check of a built-in operator makes a typed variable, and so does
every wiring that a lenient discipline lets through. -/
theorem builtin_sound [HostArithmetic] (member : operator ∈ builtins)
    (admits : operator.Admits discipline types) :
    operator.SoundAt discipline types := by
  revert admits
  refine builtins_cases member ?conjunction ?disjunction ?negation ?arithmetic ?modulus ?onInteger
    ?onIntegers ?equals ?strictOrder ?stringLength ?concatenation ?displayName ?rounding
    ?listLength ?element ?choice ?identity ?notEquals ?orEqual
  case conjunction =>
    intro admits
    obtain ⟨_, _, rfl, first, fits⟩ := logical_admits admits (by simp [forwarding]) rfl rfl
    exact sound_of_static (fun _ => rfl) (conjunction_yields first fits)
  case disjunction =>
    intro admits
    obtain ⟨_, _, rfl, first, fits⟩ := logical_admits admits (by simp [forwarding]) rfl rfl
    exact sound_of_static (fun _ => rfl) (disjunction_yields first fits)
  case negation =>
    intro admits
    obtain _ | ⟨first, _ | _⟩ := admits.slots rfl
    exact sound_of_static (fun _ => rfl) (negation_yields first)
  case arithmetic =>
    intro pattern symbol name operation admits
    obtain ⟨_ | ⟨first, _ | ⟨second, _ | _⟩⟩, uniform⟩ := admits.uniform rfl
    have alike := uniform.imp_right fun same => Option.some.inj (same _ List.mem_cons_self)
    exact sound_of_inputType rfl (inputType_outputType rfl)
      (arithmetic_yields first (alike.imp_right Eq.symm))
  case modulus =>
    intro admits
    obtain _ | ⟨first, _ | ⟨second, _ | _⟩⟩ := admits.slots rfl
    exact sound_of_static (fun _ => rfl) (modulus_yields first second)
  case onInteger =>
    intro kind pattern symbol name function admits
    obtain _ | ⟨first, _ | _⟩ := admits.slots rfl
    exact sound_of_static (fun _ => rfl)
      (read_yields rfl .integer (fun _ => ⟨rfl, rfl⟩) first)
  case onIntegers =>
    intro symbol name function admits
    obtain _ | ⟨first, _ | ⟨second, _ | _⟩⟩ := admits.slots rfl
    exact sound_of_static (fun _ => rfl)
      (read_read_yields rfl .integer (fun _ _ => ⟨rfl, rfl⟩) first second)
  case equals =>
    intro admits
    obtain ⟨_ | ⟨-, _ | ⟨-, _ | _⟩⟩, -⟩ := admits.uniform rfl
    exact sound_of_static static_equals equals_yields
  case strictOrder =>
    intro symbol name wanted admits
    obtain ⟨_ | ⟨first, _ | ⟨second, _ | _⟩⟩, uniform⟩ := admits.uniform rfl
    have alike := uniform.imp_right fun same => Option.some.inj (same _ List.mem_cons_self)
    exact sound_of_static (fun _ => rfl) (strictOrder_yields first (alike.imp_right Eq.symm))
  case stringLength =>
    intro admits
    obtain _ | ⟨first, _ | _⟩ := admits.slots rfl
    exact sound_of_static (fun _ => rfl)
      (read_yields rfl .string (fun _ => ⟨rfl, rfl⟩) first)
  case concatenation =>
    intro admits
    obtain _ | ⟨first, _ | ⟨second, _ | _⟩⟩ := admits.slots rfl
    exact sound_of_static (fun _ => rfl)
      (read_read_yields rfl .string (fun _ _ => ⟨rfl, rfl⟩) first second)
  case displayName =>
    intro admits
    obtain _ | ⟨first, _ | _⟩ := admits.slots rfl
    exact sound_of_static (fun _ => rfl) (displayName_yields first)
  case rounding =>
    intro symbol name function admits
    obtain _ | ⟨first, _ | _⟩ := admits.slots rfl
    exact sound_of_static (fun _ => rfl)
      (read_yields rfl .double (fun _ => ⟨rfl, rfl⟩) first)
  case listLength =>
    intro admits
    obtain _ | ⟨first, _ | _⟩ := admits.slots rfl
    exact sound_of_static (fun _ => rfl)
      (read_yields rfl .list (fun _ => ⟨rfl, rfl⟩) first)
  case element =>
    intro admits
    obtain _ | ⟨first, _ | ⟨second, _ | _⟩⟩ := admits.slots rfl
    exact element_sound first second
  case choice =>
    intro admits
    obtain ⟨_, _, _, rfl, first, fits⟩ := choice_admits admits
    exact sound_of_inputType rfl (inputType_outputType rfl) (choice_yields first fits)
  case identity =>
    intro admits
    obtain _ | ⟨-, _ | _⟩ := admits.slots rfl
    exact sound_of_inputType rfl (inputType_outputType rfl) identity_yields
  case notEquals =>
    intro _ _ admits
    obtain ⟨_, _, rfl⟩ := notEquals_admits admits
    exact sound_of_static notEquals_static notEquals_yields
  case orEqual =>
    intro symbol name strictSymbol strictName wanted _ _ _ admits
    obtain ⟨_, _, rfl, first, alike⟩ := orEqual_admits admits
    exact sound_of_static orEqual_static (orEqual_yields first alike)

end Catalogue

end Dataflow

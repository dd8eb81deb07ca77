import Dataflow.Graph
import Dataflow.Proofs.Run.Meets
import Dataflow.Proofs.Run.Related
import Dataflow.Proofs.Value.Contents

/-!
# Typing disciplines

A discipline says which values a declared type promises, and which failures, faults and events are
not ruled out. The laws are what operators need in order to keep to it. Disciplines range from
strict ones, under which a variable yields nothing but values of its declared type, to lenient ones,
which put up with values of wrong types as long as operators reject them.
-/

namespace Dataflow

section

structure Discipline extends Allowance where
  /-- The values that a declared type promises. -/
  fits : ValueType → Value → Prop
  /-- The failures that are not ruled out. -/
  permits : EvaluationError → Prop
  /-- Whether values of wrong types are put up with. -/
  lenient : Prop
  literal : ∀ {value : Value}, value.isLiteral = true → fits value.type value
  retyped : ∀ {type} {value other : Value}, fits type value → other.isLiteral = true →
    other.type = value.type → fits type other
  slot : ∀ {slot type : ValueType} {value : Value}, slot.accepts type = true → fits type value →
    lenient ∨ slot.accepts value.type = true
  alike : ∀ {type} {left right : Value}, fits type left → fits type right →
    lenient ∨ left.type = right.type
  object : ∀ {type} {host : HostObject}, fits type (.object host) →
    lenient ∧ faults ∧ host.type.Conventional
  element : ∀ {type view}, fits type (.list view) → ∀ index < view.length,
    (Outcome.ofExcept (view.element index)).Meets faults permits (fits view.elementType)
  wrongType : lenient → ∀ operator index expected got,
    permits (.wrongType operator index expected got)
  typeMismatch : lenient → ∀ left right, permits (.typeMismatch left right)
  divisionByZero : permits .divisionByZero
  indexOutOfBounds : ∀ index length, permits (.indexOutOfBounds index length)
  pull : ∀ access, events (.pull access)
  failure : ∀ {cause}, permits cause → ∀ operator, events (.failure operator cause)

namespace Discipline

/-- An evaluation that keeps to a discipline. -/
abbrev Meets {α : Type} (discipline : Discipline) (answers : α → Prop) (run : Evaluation α) :
    Prop :=
  run.Meets discipline.toAllowance discipline.permits answers

/-- The values that the outcome of typing promises: none, if typing ends with a fault. -/
def promise (discipline : Discipline) (typing : Outcome Empty ValueType) (value : Value) : Prop :=
  ∃ type, typing = .ok type ∧ discipline.fits type value

end Discipline

/-- A variable whose typing always ends in the same way, and whose values keep to it. -/
structure Variable.Typed (discipline : Discipline) (typing : Outcome Empty ValueType)
    (input : Variable) : Prop where
  type : input.type.Steady typing
  quiet : input.type.Meets discipline.toAllowance (fun _ => True) fun _ => True
  value : discipline.Meets (discipline.promise typing) input.value

/-- The type that typing a variable finds after some trace. -/
def Variable.Declares (input : Variable) (type : ValueType) : Prop :=
  ∃ trace, (input.type.after trace).1 = .ok type

/-- The element type that a variable shows, if it yields a list, is always the same. -/
def Variable.Settled (input : Variable) : Prop :=
  ∃ refined, (OutputRule.elementType [input]).Steady refined

namespace Discipline

variable (discipline : Discipline)

/-- Inputs whose values keep to the given types. -/
def Feeds : List ValueType → List Variable → Prop :=
  List.Forall₂ fun type input => discipline.Meets (discipline.fits type) input.value

/-- Typed inputs of the given types. -/
def Wired : List ValueType → List Variable → Prop :=
  List.Forall₂ fun type input => input.Typed discipline (.ok type) ∧ input.Settled

end Discipline

namespace Operator

/-- An operator applied to inputs, as a variable that leaves no marks. -/
def wired (operator : Operator) (inputs : List Variable) : Variable where
  type := operator.outputType inputs
  value := operator.evaluate inputs

/-- On inputs of the given types, an operator evaluates to values of type `output`. -/
def YieldsAt (discipline : Discipline) (types : List ValueType) (output : ValueType)
    (operator : Operator) : Prop :=
  ∀ inputs, discipline.Feeds types inputs →
    discipline.Meets (discipline.fits output) (operator.evaluate inputs)

/-- On inputs of the given types, an operator keeps to the type that it finds for its output. -/
def SoundAt (discipline : Discipline) (types : List ValueType) (operator : Operator) : Prop :=
  ∀ inputs, discipline.Wired types inputs →
    ∃ typing, (operator.wired inputs).Typed discipline typing

end Operator

variable {discipline : Discipline} {type : ValueType} {typing : Outcome Empty ValueType}
  {types : List ValueType} {input : Variable} {inputs : List Variable} {operator : Operator}
  {trace later : Trace}

theorem Discipline.meets_literal {value : Value} (literal : value.isLiteral = true)
    (typed : value.type = type) :
    discipline.Meets (discipline.fits type) (pure value) := by
  subst typed
  exact Run.Meets.pure (discipline.literal literal)

namespace Variable.Typed

theorem ok (steady : input.type.Steady (.ok type))
    (quiet : input.type.Meets discipline.toAllowance (fun _ => True) fun _ => True)
    (fits : discipline.Meets (discipline.fits type) input.value) :
    input.Typed discipline (.ok type) :=
  ⟨steady, quiet, fits.weaken fun _ fitting => ⟨type, rfl, fitting⟩⟩

theorem fits (typed : input.Typed discipline (.ok type)) :
    discipline.Meets (discipline.fits type) input.value := by
  refine typed.value.weaken fun value promised => ?_
  obtain ⟨_, ⟨⟩, fitting⟩ := promised
  exact fitting

theorem eq_ok (typed : input.Typed discipline typing) (declares : input.Declares type) :
    typing = .ok type := by
  obtain ⟨trace, found⟩ := declares
  exact (typed.type trace).symm.trans found

theorem exists_type (typed : input.Typed discipline typing) (faultless : ¬ discipline.faults) :
    ∃ type, typing = .ok type := by
  have ended := (typed.quiet .empty).1
  rw [typed.type] at ended
  cases typing with
  | ok type => exact ⟨type, rfl⟩
  | error cause => cases cause
  | fault reason => exact absurd ended faultless

theorem type_meets (typed : input.Typed discipline (.ok type)) :
    input.type.Meets discipline.toAllowance (fun _ => True) fun found => found = type := by
  refine typed.quiet.produced.weaken fun found ended => ?_
  have same := typed.eq_ok ended.2
  cases same
  rfl

end Variable.Typed

namespace Discipline.Wired

theorem feeds (wired : discipline.Wired types inputs) : discipline.Feeds types inputs :=
  wired.imp fun _ _ typed => typed.1.fits

/-- Typed variables are wired by the types that they declare. -/
theorem of_declared (declared : List.Forall₂ (fun type input => input.Declares type) types inputs)
    (typed : ∀ input ∈ inputs, ∃ typing, input.Typed discipline typing)
    (settled : ∀ input ∈ inputs, input.Settled) : discipline.Wired types inputs := by
  induction declared with
  | nil => exact .nil
  | @cons type input types inputs head _ induction =>
      obtain ⟨typing, here⟩ := typed input List.mem_cons_self
      obtain rfl := here.eq_ok head
      exact .cons ⟨here, settled input List.mem_cons_self⟩
        (induction (fun input member => typed input (List.mem_cons_of_mem _ member))
          fun input member => settled input (List.mem_cons_of_mem _ member))

end Discipline.Wired

namespace Operator

/-- The mark of a failure is allowed wherever the failure is. -/
theorem applied_typed (typed : (operator.wired inputs).Typed discipline typing) :
    (operator.applied inputs).Typed discipline typing :=
  ⟨typed.type, typed.quiet,
    typed.value.recordError fun _ permitted => discipline.failure permitted _⟩

theorem declaredTypes_eq_ok (ended : (declaredTypes inputs).after trace = (.ok types, later)) :
    List.Forall₂ (fun type input => Variable.Declares input type) types inputs := by
  induction inputs generalizing types trace later with
  | nil =>
      cases ended
      exact .nil
  | cons input inputs induction =>
      rw [declaredTypes] at ended
      obtain ⟨type, between, typed, ended⟩ := Run.bind_eq_ok ended
      obtain ⟨rest, last, tail, ended⟩ := Run.bind_eq_ok ended
      cases ended
      exact .cons ⟨trace, congrArg Prod.fst typed⟩ (induction tail)

/-- A check of variables that passes has found their types, and accepted them. -/
theorem checkVariables_eq_ok
    (ended : (operator.checkVariables inputs).after trace = (.ok (), later)) :
    ∃ types, List.Forall₂ (fun type input => Variable.Declares input type) types inputs ∧
      operator.checkTypes (types.map some) = .ok () := by
  obtain ⟨types, between, typed, ended⟩ := Run.bind_eq_ok ended
  refine ⟨types, declaredTypes_eq_ok (Run.ofTyping_eq_ok typed), ?_⟩
  rw [Run.after_ofExcept] at ended
  cases checked : operator.checkTypes (types.map some) with
  | ok => rfl
  | error cause =>
      rw [checked] at ended
      cases ended

theorem declaredTypes_meets {allowed : Allowance}
    (quiet : ∀ input ∈ inputs, input.type.Meets allowed (fun _ => True) fun _ => True) :
    (declaredTypes inputs).Meets allowed (fun _ => True) fun _ => True := by
  induction inputs with
  | nil => exact Run.Meets.pure trivial
  | cons input inputs induction =>
      rw [declaredTypes]
      refine (quiet input List.mem_cons_self).bind fun type _ => ?_
      refine (induction fun input member => quiet input (List.mem_cons_of_mem _ member)).bind
        fun types _ => ?_
      exact Run.Meets.pure trivial

/-- A check of typed variables ends without a fault, and if it passes they are wired. -/
theorem checkVariables_meets (typed : ∀ input ∈ inputs, ∃ typing, input.Typed discipline typing)
    (settled : ∀ input ∈ inputs, input.Settled) :
    (operator.checkVariables inputs).Meets discipline.toAllowance (fun _ => True) fun _ =>
      ∃ types, discipline.Wired types inputs ∧ operator.checkTypes (types.map some) = .ok () := by
  have quiet : ∀ input ∈ inputs,
      input.type.Meets discipline.toAllowance (fun _ => True) fun _ => True := by
    intro input member
    obtain ⟨typing, here⟩ := typed input member
    exact here.quiet
  refine (declaredTypes_meets quiet).produced.ofTyping.bind fun types found => ?_
  obtain ⟨-, trace, ended⟩ := found
  have declared := declaredTypes_eq_ok (Prod.ext ended rfl)
  refine Run.Meets.ofOutcome ?_
  cases accepted : operator.checkTypes (types.map some) with
  | ok => exact ⟨types, .of_declared declared typed settled, accepted⟩
  | error cause => trivial

end Operator

end

/-!
## Slots under a discipline

What an operator reads from its slots. A value that fits the type of its input is one that the slot
admits, and has the payload that the slot stands for, unless the discipline is lenient.
-/

/-- The types whose values carry a payload, unless they are objects, and the ways to get at it. -/
inductive Value.Payload : {α : Type} → ValueType → (Value → Option α) → Prop
  | boolean : Payload .boolean Value.boolean?
  | integer : Payload .integer Value.integer?
  | double : Payload .double Value.double?
  | string : Payload .string Value.string?
  | list : Payload .list Value.list?

namespace Value.Payload

variable {α : Type} {expected : ValueType} {payload? : Value → Option α}

theorem isConcrete (kind : Payload expected payload?) : expected.isConcrete = true := by
  cases kind <;> rfl

theorem carried (kind : Payload expected payload?) {value : Value} (typed : value.type = expected)
    (noObject : ∀ host, value ≠ .object host) : payload? value ≠ none := by
  cases value with
  | object host => exact absurd rfl (noObject host)
  | _ => cases kind <;> first | exact Option.some_ne_none _ | cases typed

end Value.Payload

namespace Slots

variable {discipline : Discipline} {header : Header} {inputs : List Variable} {index : Nat}
  {input : Variable} {expected type : ValueType} {answers : Value → Prop}

theorem value_meets (found : inputs[index]? = some input)
    (declared : header.inputs[index]? = some expected)
    (admits : discipline.lenient ∨ expected.accepts type = true)
    (meets : discipline.Meets answers input.value)
    (fits : ∀ value, answers value → discipline.fits type value) :
    discipline.Meets (fun value => answers value ∧ expected.accepts value.type = true)
      (value ⟨header, inputs⟩ index) := by
  simp only [value, unchecked, found]
  refine meets.bind fun value answered => Run.Meets.ofOutcome ?_
  simp only [admitted, declared]
  by_cases accepted : expected.accepts value.type = true
  · rw [if_pos accepted]
    exact ⟨answered, accepted⟩
  · rw [if_neg accepted]
    have lenient : discipline.lenient := by
      rcases admits with lenient | admits
      · exact lenient
      · exact (discipline.slot admits (fits value answered)).resolve_right accepted
    exact discipline.wrongType lenient _ _ _ _

theorem payload_meets {α : Type} {payload? : Value → Option α} {value : Value}
    (kind : Value.Payload expected payload?) (fits : discipline.fits type value)
    (accepted : discipline.lenient ∨ value.type = expected) :
    (Outcome.ofExcept (payload ⟨header, inputs⟩ index expected payload? value)).Meets
      discipline.faults discipline.permits fun payload => payload? value = some payload := by
  simp only [payload]
  cases present : payload? value with
  | some payload => exact rfl
  | none =>
      have lenient : discipline.lenient := by
        rcases accepted with lenient | typed
        · exact lenient
        cases value with
        | object host => exact (discipline.object fits).1
        | _ => exact absurd present (kind.carried typed (by simp))
      exact discipline.wrongType lenient _ _ _ _

theorem read_meets {α : Type} {payload? : Value → Option α} (found : inputs[index]? = some input)
    (declared : header.inputs[index]? = some expected)
    (admits : discipline.lenient ∨ expected.accepts type = true)
    (meets : discipline.Meets answers input.value)
    (fits : ∀ value, answers value → discipline.fits type value)
    (kind : Value.Payload expected payload?) :
    discipline.Meets (fun payload => ∃ value, answers value ∧ payload? value = some payload)
      (read ⟨header, inputs⟩ index expected payload?) := by
  refine (value_meets found declared admits meets fits).bind fun value answered => ?_
  obtain ⟨answered, accepted⟩ := answered
  refine Run.Meets.ofOutcome ?_
  refine (payload_meets kind (fits value answered) (.inr ?_)).weaken fun payload present =>
    ⟨value, answered, present⟩
  exact ValueType.accepts_of_isConcrete kind.isConcrete accepted

/-- A condition is read without a look at its slot. -/
theorem condition_meets (found : inputs[index]? = some input)
    (admits : discipline.lenient ∨ ValueType.boolean.accepts type = true)
    (meets : discipline.Meets (discipline.fits type) input.value) :
    discipline.Meets (fun _ => True) (condition ⟨header, inputs⟩ index) := by
  simp only [condition, unchecked, found]
  refine meets.bind fun value fits => Run.Meets.ofOutcome ?_
  refine (payload_meets .boolean fits ?_).weaken fun _ _ => trivial
  rcases admits with lenient | admits
  · exact .inl lenient
  · exact (discipline.slot admits fits).imp_right (ValueType.accepts_of_isConcrete rfl)

/-- Either branch of a condition has to keep its promise, since its value is not known. -/
theorem branch_meets {α : Type} {yes no : Evaluation α} {promised : α → Prop}
    (found : inputs[index]? = some input)
    (admits : discipline.lenient ∨ ValueType.boolean.accepts type = true)
    (meets : discipline.Meets (discipline.fits type) input.value)
    (onTrue : discipline.Meets promised yes) (onFalse : discipline.Meets promised no) :
    discipline.Meets promised
      (do if ← condition ⟨header, inputs⟩ index then yes else no) := by
  refine (condition_meets found admits meets).bind fun truth _ => ?_
  cases truth with
  | true => exact onTrue
  | false => exact onFalse

end Slots

/-!
## The strict discipline

Under the strict discipline a variable yields plain values of the very type that it declares, and
evaluation is left with the two failures that no static check rules out.
-/

/-- The failures that well-typed evaluations are left with. -/
def EvaluationError.Residual : EvaluationError → Prop
  | divisionByZero | indexOutOfBounds _ _ => True
  | wrongArity _ _ _ | wrongType _ _ _ _ | typeMismatch _ _ | custom _ => False

/-- Lists are made of elements of the declared type, which is concrete unless there are none, and
nodes fail in residual ways only. -/
def Event.Expected : Event → Prop
  | .creation view => view.Uniform ∧ (0 < view.length → view.elementType.isConcrete = true)
  | .failure _ cause => cause.Residual
  | .read _ _ | .pull _ => True

/-- Plain values of the very type that is declared, and residual failures. -/
def Discipline.strict : Discipline where
  events := Event.Expected
  faults := False
  fits type value := value.type = type ∧ value.Plain
  permits := EvaluationError.Residual
  lenient := False
  literal literal := ⟨rfl, .literal literal⟩
  retyped := by
    rintro type value other ⟨rfl, -⟩ literal typed
    exact ⟨typed, .literal literal⟩
  slot := by
    rintro slot type value accepted ⟨rfl, -⟩
    exact .inr accepted
  alike := by
    rintro type left right ⟨rfl, -⟩ ⟨typed, -⟩
    exact .inr typed.symm
  object fits := absurd fits.2 Value.Plain.not_object
  element := by
    rintro type view ⟨-, plain⟩ index inside
    obtain ⟨item, produced, typed, plainItem⟩ := plain.element inside
    rw [produced]
    exact ⟨typed, plainItem⟩
  wrongType := False.elim
  typeMismatch := False.elim
  divisionByZero := trivial
  indexOutOfBounds _ _ := trivial
  pull _ := trivial
  failure residual _ := residual

end Dataflow

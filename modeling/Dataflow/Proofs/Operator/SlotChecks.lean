import Dataflow.Proofs.Discipline
import Dataflow.Proofs.Operator.TypeCheck
import Dataflow.Proofs.Run.Consults

/-!
# What the checks of slots add

Every value that a slot yields has been checked against the declared type of the slot. If the types
that the inputs declare have passed the default check, and admit what the inputs yield, then this
second check finds nothing: acceptance is transitive, and so reading a slot is nothing but reading
its input. If nothing is known of the inputs, it is this check that keeps out what a slot does not
admit.
-/

namespace Dataflow

/-- A type that a variable declares, and that admits whatever the variable yields. -/
structure Variable.Honours (input : Variable) (type : ValueType) : Prop where
  declares : input.Declares type
  admits : ∀ {trace value later}, input.value.after trace = (.ok value, later) →
    type.accepts value.type = true

theorem Variable.honours_of_steady {serial : Nat} {type : ValueType} {value : Value}
    (accepted : type.accepts value.type = true) :
    (Leaf.steady serial type (.ok value)).toVariable.Honours type where
  declares := ⟨.empty, rfl⟩
  admits := by
    intro trace answer later ended
    cases ended
    exact accepted

namespace Slots

/-- Slots yield only what they admit. If there are no more inputs than slots, then there is nothing
to read past the last one: evaluation has checked their number before a function gets its slots. -/
structure Guarded (slots : Slots) : Prop where
  admits : ∀ index expected, slots.header.inputs[index]? = some expected →
    ∀ trace value later, (slots.value index).after trace = (.ok value, later) →
      expected.accepts value.type = true
  past : slots.inputs.length ≤ slots.header.arity → ∀ index, slots.header.arity ≤ index →
    slots.value index =
      .fail (.wrongArity slots.header.uniqueName slots.header.arity slots.inputs.length)

/-- Reading a slot is one reading of an input: it ends as that one does, and nothing else
happens. -/
structure PassesOn (slots : Slots) (index : Nat) (input : Variable) : Prop where
  value_eq : slots.value index = input.value
  /-- The check of the slot lets everything pass that the input yields. -/
  admitted_eq : ∀ trace value later, input.value.after trace = (.ok value, later) →
    slots.admitted index value = .ok value
  /-- If the input is a leaf, then all that happens is that the leaf is read once. -/
  leaf : ∀ source : Leaf, input = source.toVariable → ∀ trace,
    (slots.value index).after trace =
      (.ofExcept (source.answer trace.events),
        trace.record (.read source.serial (source.answer trace.events)))

variable {header : Header} {inputs : List Variable} {index : Nat} {input : Variable}
  {expected type : ValueType} {value : Value}

theorem value_of_length_le (missing : inputs.length ≤ index) :
    Slots.value ⟨header, inputs⟩ index =
      .fail (.wrongArity header.uniqueName header.arity inputs.length) := by
  rw [Slots.value, unchecked, List.getElem?_eq_none missing]
  exact Run.fail_bind _ _

theorem guarded (header : Header) (inputs : List Variable) : Guarded ⟨header, inputs⟩ where
  admits _ expected declared _ _ _ ended :=
    ((value_consults _).promised ended).2 expected declared
  past count _ after := value_of_length_le (Nat.le_trans count after)

theorem admitted_of_accepts (declared : header.inputs[index]? = some expected)
    (accepted : expected.accepts value.type = true) :
    admitted ⟨header, inputs⟩ index value = .ok value := by
  simp only [admitted, declared]
  exact if_pos accepted

theorem PassesOn.of_admitted (found : inputs[index]? = some input)
    (admits : ∀ trace value later, input.value.after trace = (.ok value, later) →
      admitted ⟨header, inputs⟩ index value = .ok value) :
    PassesOn ⟨header, inputs⟩ index input := by
  have same : Slots.value ⟨header, inputs⟩ index = input.value := by
    simp only [Slots.value, unchecked, found]
    refine Run.bind_eq_self fun trace value later ended => ?_
    rw [admits trace value later ended]
    rfl
  refine ⟨same, admits, ?_⟩
  rintro source rfl trace
  rw [same]
  rfl

/-- The slot accepts the declared type, and this accepts the type of the value. -/
theorem passesOn_of_honours (found : inputs[index]? = some input)
    (declared : header.inputs[index]? = some expected) (accepted : expected.accepts type = true)
    (honours : input.Honours type) : PassesOn ⟨header, inputs⟩ index input :=
  .of_admitted found fun _ _ _ ended =>
    admitted_of_accepts declared (ValueType.accepts_trans accepted (honours.admits ended))

/-- Inputs that have passed the default check are passed on. -/
theorem passesOn_of_default {types : List ValueType}
    (honour : List.Forall₂ (fun type (input : Variable) => input.Honours type) types inputs)
    (accepted : TypeCheck.default header (types.map some) = .ok ())
    (within : index < header.arity) :
    ∃ input, inputs[index]? = some input ∧ PassesOn ⟨header, inputs⟩ index input := by
  have admitted := TypeCheck.default_eq_ok_iff.mp accepted
  rcases getElem?_of_forall₂ admitted index with
    ⟨missing, -⟩ | ⟨expected, type, declared, given, accepts⟩
  · exact absurd (List.getElem?_eq_none_iff.mp missing) (Nat.not_le.mpr within)
  rcases getElem?_of_forall₂ honour index with
    ⟨missing, -⟩ | ⟨type', input, given', found, honours⟩
  · cases given.symm.trans missing
  obtain rfl : type = type' := Option.some.inj (given.symm.trans given')
  exact ⟨input, found, passesOn_of_honours found declared accepts honours⟩

end Slots

namespace Draft

variable {draft : Draft} {operator : Operator}

theorem require_eq_ok {α : Type} {part : RequiredPart} {found? : Option α} {found : α}
    (present : require part found? = .ok found) : found? = some found := by
  cases found? with
  | some other =>
      cases present
      rfl
  | none => cases present

/-- A draft becomes a primitive operator with its signature and its function. -/
theorem build_eq_ok (built : draft.build = .ok operator) :
    ∃ definition, operator = .primitive definition ∧
      definition.header.inputs = draft.inputs ∧ draft.body = some definition.body := by
  obtain ⟨kind, -, built⟩ := TypeCheck.bind_eq_ok_iff.mp built
  obtain ⟨name, -, built⟩ := TypeCheck.bind_eq_ok_iff.mp built
  obtain ⟨symbol, -, built⟩ := TypeCheck.bind_eq_ok_iff.mp built
  obtain ⟨output, -, built⟩ := TypeCheck.bind_eq_ok_iff.mp built
  obtain ⟨body, present, built⟩ := TypeCheck.bind_eq_ok_iff.mp built
  cases built
  exact ⟨_, rfl, rfl, require_eq_ok present⟩

theorem evaluate_of_safe {compute : Slots → Evaluation Value} (built : draft.build = .ok operator)
    (safe : draft.body = some (.safe compute)) (inputs : List Variable) :
    operator.evaluate inputs =
      if inputs.length = operator.arity then compute ⟨operator.header, inputs⟩
      else .fail (.wrongArity operator.uniqueName operator.arity inputs.length) := by
  obtain ⟨definition, rfl, -, body⟩ := build_eq_ok built
  rw [Operator.evaluate]
  exact definition.evaluate_of_safe (Option.some.inj (body.symm.trans safe)) inputs

/-- A draft with a function that reads its inputs slot by slot becomes an operator whose static
check makes the checks of its slots superfluous. The function runs on as many inputs as there are
slots. Whatever they are, it gets from a slot only what the slot admits, and past the last slot
there is nothing to read. If the inputs declare types that pass the default check, and these admit
what the inputs yield, then reading a slot is reading its input. -/
theorem slotChecks_superfluous {compute : Slots → Evaluation Value}
    (built : draft.build = .ok operator) (safe : draft.body = some (.safe compute))
    (inputs : List Variable) :
    operator.header.inputs = draft.inputs ∧
    (operator.evaluate inputs =
      if inputs.length = operator.arity then compute ⟨operator.header, inputs⟩
      else .fail (.wrongArity operator.uniqueName operator.arity inputs.length)) ∧
    Slots.Guarded ⟨operator.header, inputs⟩ ∧
    ∀ types : List ValueType,
      List.Forall₂ (fun type (input : Variable) => input.Honours type) types inputs →
      TypeCheck.default operator.header (types.map some) = .ok () →
      inputs.length = operator.arity ∧ ∀ index < operator.arity, ∃ input,
        inputs[index]? = some input ∧ Slots.PassesOn ⟨operator.header, inputs⟩ index input := by
  refine ⟨?signature, evaluate_of_safe built safe inputs, Slots.guarded _ inputs, ?checked⟩
  case signature =>
    obtain ⟨definition, rfl, signature, -⟩ := build_eq_ok built
    exact signature
  case checked =>
    intro types honour accepted
    have count : inputs.length = operator.arity :=
      honour.length_eq.symm.trans (TypeCheck.default_eq_ok_iff.mp accepted).length_eq.symm
    exact ⟨count, fun index within => Slots.passesOn_of_default honour accepted within⟩

/-- A host type of named things that are numbers as well. -/
def namedNumber : ValueType :=
  .host ⟨0, "hybrid", .plain [.named, .number]⟩

/-- A draft of an operator that takes a number and a named thing. -/
def pick : Draft where
  symbol := some "pick"
  name := some "pick"
  kind := some "custom"
  inputs := [.placeholder .number, .placeholder .named]
  output := some (.placeholder .any)
  body := some (.safe fun slots => slots.value 1)

/-- A variable that declares no more than a number. -/
def declaredNumber : Variable :=
  (Leaf.steady 0 (.placeholder .number) (.ok (.integer 5))).toVariable

/-- A variable that declares the host type of its value. -/
def declaredHost : Variable :=
  (Leaf.steady 1 namedNumber (.ok (.object { type := namedNumber, name := "seven" }))).toVariable

theorem slotChecks_superfluous_pick :
    ∃ operator, pick.build = .ok operator ∧
      Slots.value ⟨operator.header, [declaredNumber, declaredHost]⟩ 0 = declaredNumber.value ∧
      Slots.value ⟨operator.header, [declaredNumber, declaredHost]⟩ 1 = declaredHost.value ∧
      Slots.value ⟨operator.header, [declaredNumber, declaredHost]⟩ 2 =
        .fail (.wrongArity "custom.pick" 2 2) := by
  obtain ⟨operator, built⟩ : ∃ operator, pick.build = .ok operator := ⟨_, rfl⟩
  obtain ⟨-, -, guarded, checked⟩ :=
    slotChecks_superfluous built rfl [declaredNumber, declaredHost]
  refine ⟨operator, built, ?_⟩
  cases built
  have honour : List.Forall₂ (fun type (input : Variable) => input.Honours type)
      [.placeholder .number, namedNumber] [declaredNumber, declaredHost] :=
    .cons (Variable.honours_of_steady rfl) (.cons (Variable.honours_of_steady rfl) .nil)
  obtain ⟨count, passed⟩ := checked _ honour rfl
  obtain ⟨number, found, passedNumber⟩ := passed 0 (by decide)
  obtain ⟨host, found', passedHost⟩ := passed 1 (by decide)
  cases found
  cases found'
  exact ⟨passedNumber.value_eq, passedHost.value_eq,
    guarded.past (Nat.le_of_eq count) 2 (Nat.le_refl 2)⟩

end Draft

end Dataflow

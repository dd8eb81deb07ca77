import Dataflow.Proofs.Operator.Parametric

/-!
# Evaluation in step

An operator is evaluated twice, on inputs that are paired. Both evaluations take the same steps as
long as what they read is the same, so that inputs which are left unread make no difference.
-/

namespace Dataflow

/-!
## Runs in step

Two runs that learn from variables only are in step when they read paired variables at the same
time, pull the same elements, and end alike. What is read may differ from what is paired with it in
any way that the pairing allows; but from one value both runs go on in step.
-/

section

variable {α β : Type} {paired finer : Variable → Variable → Prop}

/-- Two runs that end alike, pull alike, or read variables of one pair, and go on in step from
whatever they have learnt. -/
inductive Run.InStep (paired : Variable → Variable → Prop) {α : Type} :
    Evaluation α → Evaluation α → Prop
  | ends (outcome : Outcome EvaluationError α) :
      InStep paired (Run.ofOutcome outcome) (Run.ofOutcome outcome)
  | pulls {β : Type} (pulling : Pulling β) {next next' : β → Evaluation α} :
      (∀ answer, InStep paired (next answer) (next' answer)) →
      InStep paired (Run.ofPulling pulling >>= next) (Run.ofPulling pulling >>= next')
  | reads {input other : Variable} {next next' : Value → Evaluation α} : paired input other →
      (∀ value, InStep paired (next value) (next' value)) →
      InStep paired (input.value >>= next) (other.value >>= next')

namespace Run.InStep

variable {run run' : Evaluation α}

theorem pure (answer : α) : InStep paired (Pure.pure answer) (Pure.pure answer) :=
  .ends (.ok answer)

theorem bind {next next' : α → Evaluation β} (first : InStep paired run run')
    (second : ∀ answer, InStep paired (next answer) (next' answer)) :
    InStep paired (run >>= next) (run' >>= next') := by
  induction first with
  | ends outcome =>
      cases outcome with
      | ok answer => exact second answer
      | error cause => exact .ends (.error cause)
      | fault reason => exact .ends (.fault reason)
  | pulls pulling _ induction =>
      rw [bind_assoc, bind_assoc]
      exact .pulls pulling induction
  | reads pair _ induction =>
      rw [bind_assoc, bind_assoc]
      exact .reads pair induction

theorem read {input other : Variable} (pair : paired input other) :
    InStep paired input.value other.value := by
  rw [← bind_pure input.value, ← bind_pure other.value]
  exact .reads pair pure

/-- Pairs may be replaced by variables that are in step themselves. -/
theorem rewire (inStep : InStep finer run run')
    (each : ∀ input other, finer input other → InStep paired input.value other.value) :
    InStep paired run run' := by
  induction inStep with
  | ends outcome => exact .ends outcome
  | pulls pulling _ induction => exact .pulls pulling induction
  | reads pair _ induction => exact (each _ _ pair).bind induction

end Run.InStep

end

/-!
## Runs that coincide

Two runs coincide when nobody can tell them apart who has seen what happened before: they end in the
same way, after the same events. Besides, they read none but readable leaves, and make lists only
under handles that were not in use. Runs in step coincide if all the variables do that are paired.
-/

section

variable {α β : Type} {readable : Leaf → Prop} {base : Nat}

/-- What happens between two traces: handles are only added, and so are events, among them no reads
of other leaves than the readable ones. -/
structure Trace.Continues (readable : Leaf → Prop) (trace later : Trace) : Prop where
  handles : trace.handles ≤ later.handles
  events : ∃ events, later.events = events ++ trace.events ∧
    ∀ serial answer, .read serial answer ∈ events →
      ∃ source, readable source ∧ source.serial = serial

namespace Trace.Continues

variable {trace later last : Trace}

theorem refl (trace : Trace) : trace.Continues readable trace :=
  ⟨Nat.le_refl _, [], rfl, nofun⟩

theorem trans (first : trace.Continues readable later) (second : later.Continues readable last) :
    trace.Continues readable last := by
  obtain ⟨handles, events, extended, readables⟩ := first
  obtain ⟨handles', more, extended', readables'⟩ := second
  refine ⟨Nat.le_trans handles handles', more ++ events, ?_, fun serial answer among => ?_⟩
  · rw [extended', extended, List.append_assoc]
  · rcases List.mem_append.mp among with after | before
    · exact readables' serial answer after
    · exact readables serial answer before

theorem of_event {event : Event} (handles : trace.handles ≤ later.handles)
    (extended : later.events = event :: trace.events)
    (readables : ∀ serial answer, event = .read serial answer →
      ∃ source, readable source ∧ source.serial = serial) :
    trace.Continues readable later := by
  refine ⟨handles, [event], extended, fun serial answer among => ?_⟩
  exact readables serial answer (List.mem_singleton.mp among).symm

end Trace.Continues

/-- Runs that cannot be told apart from traces on in which some handles are in use, and that read
readable leaves only. -/
def Run.Coincide (readable : Leaf → Prop) (base : Nat) (run other : Evaluation α) : Prop :=
  ∀ trace, base ≤ trace.handles →
    run.after trace = other.after trace ∧ trace.Continues readable (other.after trace).2

namespace Run.Coincide

variable {run other : Evaluation α}

theorem ofOutcome (outcome : Outcome EvaluationError α) :
    Coincide readable base (Run.ofOutcome outcome) (Run.ofOutcome outcome) :=
  fun trace _ => ⟨rfl, .refl trace⟩

theorem pure (answer : α) : Coincide readable base (Pure.pure answer) (Pure.pure answer) :=
  ofOutcome (.ok answer)

/-- Runs that coincide may be continued differently after answers that they never give. -/
theorem bind {next next' : α → Evaluation β} (first : Coincide readable base run other)
    (second : ∀ answer,
      (∃ trace, base ≤ trace.handles ∧ (other.after trace).1 = .ok answer) →
        Coincide readable base (next answer) (next' answer)) :
    Coincide readable base (run >>= next) (other >>= next') := by
  intro trace enough
  obtain ⟨same, continues⟩ := first trace enough
  have given : ∀ answer, (other.after trace).1 = .ok answer →
      Coincide readable base (next answer) (next' answer) :=
    fun answer ended => second answer ⟨trace, enough, ended⟩
  rw [after_bind, after_bind, same]
  generalize other.after trace = finish at continues given ⊢
  obtain ⟨outcome, later⟩ := finish
  cases outcome with
  | ok answer =>
      obtain ⟨same', continues'⟩ := given answer rfl later (Nat.le_trans enough continues.handles)
      exact ⟨same', continues.trans continues'⟩
  | error cause => exact ⟨rfl, continues⟩
  | fault reason => exact ⟨rfl, continues⟩

theorem ofPulling (pulling : Pulling α) :
    Coincide readable base (Run.ofPulling pulling) (Run.ofPulling pulling) := by
  intro trace _
  rw [after_ofPulling]
  refine ⟨rfl, Nat.le_refl _, _, rfl, fun serial answer among => ?_⟩
  obtain ⟨access, -, pulled⟩ := List.mem_map.mp (List.mem_reverse.mp among)
  cases pulled

theorem newList (elementType : ValueType) (items : List Value) :
    Coincide readable base (Run.newList elementType items) (Run.newList elementType items) :=
  fun _ _ => ⟨rfl, .of_event (Nat.le_succ _) rfl nofun⟩

theorem read {source : Leaf} (member : readable source) :
    Coincide readable base source.read source.read := by
  refine fun trace _ => ⟨rfl, .of_event (Nat.le_refl _) rfl ?_⟩
  rintro _ _ ⟨⟩
  exact ⟨source, member, rfl⟩

theorem recordError (operator : String) (coincide : Coincide readable base run other) :
    Coincide readable base (run.recordError (.failure operator))
      (other.recordError (.failure operator)) := by
  intro trace enough
  obtain ⟨same, continues⟩ := coincide trace enough
  simp only [Run.recordError, same, true_and]
  generalize other.after trace = finish at continues ⊢
  obtain ⟨outcome, later⟩ := finish
  cases outcome with
  | ok answer => exact continues
  | fault reason => exact continues
  | error cause =>
      refine continues.trans (.of_event (Nat.le_refl _) rfl fun _ _ same => ?_)
      cases same

/-- Runs in step coincide if the variables do that they read. -/
theorem of_inStep
    (inStep : Run.InStep (fun input input' => Coincide readable base input.value input'.value) run
      other) :
    Coincide readable base run other := by
  induction inStep with
  | ends outcome => exact ofOutcome outcome
  | pulls pulling _ induction => exact (ofPulling pulling).bind fun answer _ => induction answer
  | reads pair _ induction => exact pair.bind fun value _ => induction value

end Run.Coincide

end

/-!
## Operators keep in step

On paired inputs, an operator reads paired variables at the same time. Which of them it reads, in
which order and how often depends on the values that it has read before, and on nothing else: not on
the variables behind them, and not on the inputs that it has not read.
-/

section

variable {paired : Variable → Variable → Prop} {seen : Nat → Prop} {inputs others : List Variable}

/-- Inputs that are as many here as there, and paired in all slots that are seen. -/
structure Variable.Wired (seen : Nat → Prop) (paired : Variable → Variable → Prop)
    (inputs others : List Variable) : Prop where
  length : inputs.length = others.length
  pair : ∀ index input other, seen index → inputs[index]? = some input →
    others[index]? = some other → paired input other

theorem Variable.Wired.forall₂ (wired : Variable.Wired (fun _ => True) paired inputs others) :
    List.Forall₂ paired inputs others := by
  refine List.forall₂_iff_get.mpr ⟨wired.length, fun index inside inside' => ?_⟩
  exact wired.pair index _ _ trivial (List.getElem?_eq_getElem inside)
    (List.getElem?_eq_getElem inside')

namespace Slots

variable {header : Header} {index : Nat}

theorem checkArity_inStep (wired : Variable.Wired seen paired inputs others) :
    Run.InStep paired (checkArity ⟨header, inputs⟩) (checkArity ⟨header, others⟩) := by
  simp only [checkArity, arityError, wired.length]
  split
  · exact .pure ()
  · exact .ends _

theorem unchecked_inStep (wired : Variable.Wired seen paired inputs others) (sees : seen index) :
    Run.InStep paired (unchecked ⟨header, inputs⟩ index) (unchecked ⟨header, others⟩ index) := by
  simp only [unchecked, arityError]
  by_cases inside : index < inputs.length
  · have inside' : index < others.length := wired.length ▸ inside
    have found := List.getElem?_eq_getElem inside
    have found' := List.getElem?_eq_getElem inside'
    rw [found, found']
    exact .read (wired.pair index _ _ sees found found')
  · have outside' : ¬ index < others.length := wired.length ▸ inside
    rw [List.getElem?_eq_none (Nat.le_of_not_lt inside),
      List.getElem?_eq_none (Nat.le_of_not_lt outside'), wired.length]
    exact .ends _

theorem value_inStep (wired : Variable.Wired seen paired inputs others) (sees : seen index) :
    Run.InStep paired (value ⟨header, inputs⟩ index) (value ⟨header, others⟩ index) :=
  (unchecked_inStep wired sees).bind fun _ => .ends _

theorem read_inStep {α : Type} {expected : ValueType} {payload? : Value → Option α}
    (wired : Variable.Wired seen paired inputs others) (sees : seen index) :
    Run.InStep paired (read ⟨header, inputs⟩ index expected payload?)
      (read ⟨header, others⟩ index expected payload?) :=
  (value_inStep wired sees).bind fun _ => .ends _

theorem condition_inStep (wired : Variable.Wired seen paired inputs others) (sees : seen index) :
    Run.InStep paired (condition ⟨header, inputs⟩ index) (condition ⟨header, others⟩ index) :=
  (unchecked_inStep wired sees).bind fun _ => .ends _

end Slots

/-- A way to compute that keeps in step on paired inputs. -/
def Slots.KeepsStep {α : Type} (compute : Slots → Evaluation α) : Prop :=
  ∀ ⦃paired : Variable → Variable → Prop⦄ ⦃header : Header⦄ ⦃inputs others : List Variable⦄,
    Variable.Wired (fun _ => True) paired inputs others →
    Run.InStep paired (compute ⟨header, inputs⟩) (compute ⟨header, others⟩)

namespace Slots.KeepsStep

variable {α β : Type}

theorem ends (outcome : Outcome EvaluationError α) : KeepsStep fun _ => Run.ofOutcome outcome :=
  fun _ _ _ _ _ => .ends outcome

theorem pure (answer : α) : KeepsStep fun _ => Pure.pure answer :=
  .ends (.ok answer)

theorem bind {first : Slots → Evaluation α} {next : α → Slots → Evaluation β}
    (keeps : KeepsStep first) (each : ∀ answer, KeepsStep (next answer)) :
    KeepsStep fun slots => first slots >>= fun answer => next answer slots :=
  fun _ _ _ _ wired => (keeps wired).bind fun answer => each answer wired

theorem pulls (pulling : Pulling α) {next : α → Slots → Evaluation β}
    (each : ∀ answer, KeepsStep (next answer)) :
    KeepsStep fun slots => Run.ofPulling pulling >>= fun answer => next answer slots :=
  fun _ _ _ _ wired => .pulls pulling fun answer => each answer wired

theorem checkArity : KeepsStep Slots.checkArity :=
  fun _ _ _ _ wired => checkArity_inStep wired

theorem unchecked (index : Nat) : KeepsStep (·.unchecked index) :=
  fun _ _ _ _ wired => unchecked_inStep wired trivial

theorem value (index : Nat) : KeepsStep (·.value index) :=
  fun _ _ _ _ wired => value_inStep wired trivial

theorem read (index : Nat) (expected : ValueType) (payload? : Value → Option α) :
    KeepsStep (·.read index expected payload?) :=
  fun _ _ _ _ wired => read_inStep wired trivial

theorem condition (index : Nat) : KeepsStep (·.condition index) :=
  fun _ _ _ _ wired => condition_inStep wired trivial

end Slots.KeepsStep

/-- A primitive operator that keeps in step on paired inputs. -/
def Primitive.KeepsStep (definition : Primitive) : Prop :=
  ∀ ⦃paired : Variable → Variable → Prop⦄ ⦃inputs others : List Variable⦄,
    Variable.Wired (fun _ => True) paired inputs others →
    Run.InStep paired (definition.evaluate inputs) (definition.evaluate others)

namespace Operator

variable {operator : Operator} {inners : List Operator}

theorem evaluateAll_inStep
    (each : ∀ inner ∈ inners, Run.InStep paired (inner.evaluate inputs) (inner.evaluate others)) :
    Run.InStep paired (evaluateAll inners inputs) (evaluateAll inners others) := by
  induction inners with
  | nil => exact .pure []
  | cons inner inners induction =>
      rw [evaluateAll, evaluateAll]
      refine (each inner List.mem_cons_self).bind fun answer => ?_
      refine (induction fun inner member => each inner (List.mem_cons_of_mem _ member)).bind
        fun answers => ?_
      exact .pure (answer :: answers)

/-- Whatever is built from parts that keep in step keeps in step itself. -/
theorem BuiltFrom.evaluate_inStep (built : operator.BuiltFrom Primitive.KeepsStep)
    (wired : Variable.Wired (fun _ => True) paired inputs others) :
    Run.InStep paired (operator.evaluate inputs) (operator.evaluate others) := by
  induction built generalizing paired inputs others with
  | primitive keeps => exact keeps wired
  | composite _ _ outer inners =>
      rw [evaluate, evaluate]
      refine (evaluateAll_inStep fun inner member => inners inner member wired).bind
        fun answers => ?_
      -- the outer operator reads the same answers here and there, and nothing else
      have same : Variable.Wired (fun _ => True)
          (fun part part' => part' = part ∧ ∃ answer, part = Variable.constant answer)
          (answers.map Variable.constant) (answers.map Variable.constant) := by
        refine ⟨rfl, fun index part part' _ found found' => ?_⟩
        obtain ⟨answer, -, made⟩ := List.mem_map.mp (List.mem_of_getElem? found)
        exact ⟨Option.some.inj (found'.symm.trans found), answer, made.symm⟩
      refine (outer same).rewire ?_
      rintro _ _ ⟨rfl, answer, rfl⟩
      exact .pure answer

end Operator

end

/-!
## The built-in operators keep in step

What a built-in operator learns, it learns by reading its slots and by pulling elements from the
lists that it has read. So one pass over the catalogue shows that it keeps in step.
-/

namespace Catalogue

open Slots (KeepsStep)

variable {template : Template} {symbol name : String} {compute : Slots → Evaluation Value}

theorem safe_keepsStep (keeps : KeepsStep compute) :
    (template.safe symbol name compute).BuiltFrom Primitive.KeepsStep :=
  .primitive fun _ _ _ wired => KeepsStep.checkArity.bind (fun _ => keeps) wired

theorem raw_keepsStep (keeps : KeepsStep compute) :
    (template.raw symbol name compute).BuiltFrom Primitive.KeepsStep :=
  .primitive fun _ _ _ wired => keeps wired

/-- Operators that read one payload. -/
theorem read_keepsStep {α : Type} {expected : ValueType} {payload? : Value → Option α}
    {change : α → Value} :
    KeepsStep (fun slots => do
      let payload ← slots.read 0 expected payload?
      pure (change payload)) :=
  (KeepsStep.read 0 expected payload?).bind fun payload => .pure (change payload)

/-- Operators that read two payloads of one kind. -/
theorem read_read_keepsStep {α : Type} {expected : ValueType} {payload? : Value → Option α}
    {combine : α → α → Value} :
    KeepsStep (fun slots => do
      let left ← slots.read 0 expected payload?
      let right ← slots.read 1 expected payload?
      pure (combine left right)) := by
  refine (KeepsStep.read 0 expected payload?).bind fun left => ?_
  exact (KeepsStep.read 1 expected payload?).bind fun right => .pure (combine left right)

/-- Operators that read two values. -/
theorem value_value_keepsStep {next : Value → Value → Evaluation Value}
    (keeps : ∀ left right, KeepsStep fun _ => next left right) :
    KeepsStep (fun slots => do
      let left ← slots.value 0
      let right ← slots.value 1
      next left right) :=
  (KeepsStep.value 0).bind fun left => (KeepsStep.value 1).bind fun right => keeps left right

/-- Operators that read a condition, and then go on in one of two ways. -/
theorem condition_keepsStep {yes no : Slots → Evaluation Value} (onTrue : KeepsStep yes)
    (onFalse : KeepsStep no) :
    KeepsStep (fun slots => do
      slots.checkArity
      if ← slots.condition 0 then yes slots else no slots) := by
  refine KeepsStep.checkArity.bind fun _ => (KeepsStep.condition 0).bind fun truth => ?_
  cases truth with
  | true => exact onTrue
  | false => exact onFalse

theorem modulus_keepsStep : modulus.BuiltFrom Primitive.KeepsStep := by
  refine safe_keepsStep ((KeepsStep.read 1 .integer Value.integer?).bind fun divisor => ?_)
  split
  · exact .ends _
  split
  · exact .pure _
  · exact read_keepsStep

theorem elementAt_keepsStep (view : ListView Value) (index : Int32) :
    KeepsStep fun _ => elementAt view index := by
  unfold elementAt
  split
  · exact .pulls _ fun _ => .ends _
  · exact .ends _

/-- Every built-in operator is built from parts that keep in step. -/
theorem builtFrom_keepsStep [HostArithmetic] {operator : Operator} (member : operator ∈ builtins) :
    operator.BuiltFrom Primitive.KeepsStep := by
  refine builtins_cases member ?conjunction ?disjunction ?negation ?arithmetic ?modulus ?onInteger
    ?onIntegers ?equals ?strictOrder ?stringLength ?concatenation ?displayName ?rounding
    ?listLength ?element ?choice ?identity ?notEquals ?orEqual
  case conjunction => exact raw_keepsStep (condition_keepsStep (.unchecked 1) (.pure _))
  case disjunction => exact raw_keepsStep (condition_keepsStep (.pure _) (.unchecked 1))
  case choice => exact raw_keepsStep (condition_keepsStep (.unchecked 1) (.unchecked 2))
  case arithmetic =>
    intro pattern symbol name operation
    exact safe_keepsStep (value_value_keepsStep fun _ _ => .ends _)
  case modulus => exact modulus_keepsStep
  case equals =>
    refine safe_keepsStep (value_value_keepsStep fun left right => ?_)
    simp only [← bind_pure_comp]
    exact .pulls _ fun _ => .pure _
  case strictOrder =>
    intro symbol name wanted
    exact safe_keepsStep (value_value_keepsStep fun _ _ => (KeepsStep.ends _).bind fun _ => .pure _)
  case displayName =>
    refine safe_keepsStep ((KeepsStep.value 0).bind fun value => ?_)
    simp only [← bind_pure_comp]
    exact (KeepsStep.ends _).bind fun _ => .pure _
  case element =>
    refine safe_keepsStep ((KeepsStep.read 0 .list Value.list?).bind fun view => ?_)
    refine (KeepsStep.read 1 .integer Value.integer?).bind fun index => ?_
    exact elementAt_keepsStep view index
  case identity => exact safe_keepsStep (.value 0)
  case onIntegers =>
    intro symbol name function
    exact safe_keepsStep read_read_keepsStep
  case concatenation => exact safe_keepsStep read_read_keepsStep
  case notEquals => exact notEquals_builtFrom
  case orEqual => exact fun _ _ _ _ _ => orEqual_builtFrom
  -- what is left reads one payload
  all_goals
    intros
    exact safe_keepsStep read_keepsStep

end Catalogue

end Dataflow

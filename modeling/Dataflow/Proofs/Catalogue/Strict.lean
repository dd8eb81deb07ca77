import Dataflow.Proofs.Catalogue.Consults
import Dataflow.Proofs.Operator.Accepts
import Mathlib.Algebra.BigOperators.Group.Finset.Basic
import Mathlib.Algebra.BigOperators.Ring.Finset

/-!
# Strict operators

A strict operator reads each of its slots, and how often is known beforehand. So is the number of
reads of a leaf in an evaluation that answers.
-/

namespace Dataflow

/-!
## Counting the reads of a leaf

A run that answers has read a leaf a certain number of times. These numbers add up along a run,
whatever it learns on the way. Pulling elements and making lists count for nothing, and nothing is
said of runs that fail.
-/

section

variable {α β : Type} {serial count more : Nat}

theorem readsOf_append (serial : Nat) (later earlier : List Event) :
    readsOf serial (later ++ earlier) = readsOf serial later + readsOf serial earlier :=
  List.countP_append

/-- A run that reads a leaf a certain number of times, if it answers. -/
def Run.Reads (serial count : Nat) (run : Evaluation α) : Prop :=
  ∀ trace : Trace, ∃ events, (run.after trace).2.events = events ++ trace.events ∧
    ∀ answer, (run.after trace).1 = .ok answer → readsOf serial events = count

namespace Run.Reads

variable {run : Evaluation α}

theorem ofOutcome (outcome : Outcome EvaluationError α) : (Run.ofOutcome outcome).Reads serial 0 :=
  fun _ => ⟨[], rfl, fun _ _ => rfl⟩

theorem pure (answer : α) : (Pure.pure answer : Evaluation α).Reads serial 0 :=
  ofOutcome (.ok answer)

/-- A run that fails may claim any number. -/
theorem fail (cause : EvaluationError) : (Run.fail cause : Evaluation α).Reads serial count :=
  fun _ => ⟨[], rfl, nofun⟩

theorem bind {next : α → Evaluation β} (first : run.Reads serial count)
    (second : ∀ answer, (next answer).Reads serial more) :
    (run >>= next).Reads serial (count + more) := by
  intro trace
  obtain ⟨events, extended, counted⟩ := first trace
  rw [after_bind]
  generalize run.after trace = finish at extended counted ⊢
  obtain ⟨outcome, later⟩ := finish
  cases outcome with
  | ok answer =>
      obtain ⟨events', extended', counted'⟩ := second answer later
      refine ⟨events' ++ events, ?_, fun last ended => ?_⟩
      · rw [extended', extended, List.append_assoc]
      · rw [readsOf_append, counted answer rfl, counted' last ended, Nat.add_comm]
  | error cause => exact ⟨events, extended, nofun⟩
  | fault reason => exact ⟨events, extended, nofun⟩

/-- What only looks at the answer does not read. -/
theorem andThen {next : α → Evaluation β} (first : run.Reads serial count)
    (second : ∀ answer, (next answer).Reads serial 0) : (run >>= next).Reads serial count :=
  first.bind second

theorem ofPulling (pulling : Pulling α) :
    (Run.ofPulling pulling : Evaluation α).Reads serial 0 := by
  intro trace
  rw [after_ofPulling]
  refine ⟨_, rfl, fun _ _ => List.countP_eq_zero.mpr fun event among => ?_⟩
  obtain ⟨access, -, rfl⟩ := List.mem_map.mp (List.mem_reverse.mp among)
  exact Bool.false_ne_true

theorem newList (elementType : ValueType) (items : List Value) :
    (Run.newList elementType items).Reads serial 0 :=
  fun _ => ⟨[.creation _], rfl, fun _ _ => rfl⟩

theorem read (leaf : Leaf) : leaf.read.Reads serial (if leaf.serial = serial then 1 else 0) := by
  intro trace
  refine ⟨[.read leaf.serial (leaf.answer trace.events)], rfl, fun _ _ => ?_⟩
  simp [readsOf, List.countP_cons]

/-- A mark is no read. -/
theorem recordError (operator : String) (reads : run.Reads serial count) :
    (run.recordError (.failure operator)).Reads serial count := by
  intro trace
  obtain ⟨events, extended, counted⟩ := reads trace
  simp only [Run.recordError]
  generalize run.after trace = finish at extended counted ⊢
  obtain ⟨outcome, later⟩ := finish
  cases outcome with
  | ok answer => exact ⟨events, extended, counted⟩
  | fault reason =>
      refine ⟨events, extended, ?_⟩
      rintro answer ⟨⟩
  | error cause =>
      have marked := congrArg (Event.failure operator cause :: ·) extended
      refine ⟨.failure operator cause :: events, marked, ?_⟩
      rintro answer ⟨⟩

/-- Not reading a leaf passes through every way to go on. -/
theorem closed : Run.Closed fun _ run => run.Reads serial 0 where
  ofOutcome := ofOutcome
  ofPulling := ofPulling
  bind := bind

end Run.Reads

end

/-!
## How often operators read their slots

A strict operator that answers has read each of its slots a fixed number of times. For a primitive
one this is once; a composite reads a slot as often as all its inner operators together, whatever
the outer one does with their answers.
-/

section

open Finset (range)

variable {serial : Nat} {counts : Nat → Nat} {header : Header} {inputs : List Variable}

namespace Operator

mutual

/-- How often an operator reads a slot. -/
def multiplicity : Operator → Nat → Nat
  | primitive definition, slot => if slot < definition.header.arity then 1 else 0
  | composite _ _ inners, slot => totalMultiplicity inners slot

/-- How often several operators together read a slot. -/
def totalMultiplicity : List Operator → Nat → Nat
  | [], _ => 0
  | operator :: operators, slot => operator.multiplicity slot + totalMultiplicity operators slot

end

end Operator

/-- What is read of a leaf whenever an input is evaluated, slot by slot. -/
def Variable.Counted (serial : Nat) (counts : Nat → Nat) (inputs : List Variable) : Prop :=
  ∀ (slot : Nat) (input : Variable), inputs[slot]? = some input →
    input.value.Reads serial (counts slot)

namespace Slots

theorem unchecked_reads (counted : Variable.Counted serial counts inputs) (index : Nat) :
    (unchecked ⟨header, inputs⟩ index).Reads serial (counts index) := by
  rw [unchecked]
  split
  · rename_i input found
    exact counted index input found
  · exact .fail _

theorem value_reads (counted : Variable.Counted serial counts inputs) (index : Nat) :
    (value ⟨header, inputs⟩ index).Reads serial (counts index) :=
  (unchecked_reads counted index).andThen fun _ => .ofOutcome _

theorem read_reads {α : Type} {expected : ValueType} {payload? : Value → Option α}
    (counted : Variable.Counted serial counts inputs) (index : Nat) :
    (read ⟨header, inputs⟩ index expected payload?).Reads serial (counts index) :=
  (value_reads counted index).andThen fun _ => .ofOutcome _

/-- A way to compute that reads each of some slots once. -/
def ReadsOnce (arity : Nat) (compute : Slots → Evaluation Value) : Prop :=
  ∀ ⦃serial : Nat⦄ ⦃counts : Nat → Nat⦄ ⦃header : Header⦄ ⦃inputs : List Variable⦄,
    Variable.Counted serial counts inputs →
    (compute ⟨header, inputs⟩).Reads serial (∑ slot ∈ range arity, counts slot)

end Slots

namespace Operator

variable {outer : Operator} {inners : List Operator}

/-- An operator that reads its slots as often as its multiplicities say. -/
def ReadsByMultiplicity (operator : Operator) : Prop :=
  ∀ ⦃serial : Nat⦄ ⦃counts : Nat → Nat⦄ ⦃inputs : List Variable⦄,
    Variable.Counted serial counts inputs →
    (operator.evaluate inputs).Reads serial
      (∑ slot ∈ range inputs.length, operator.multiplicity slot * counts slot)

theorem evaluateAll_reads (each : ∀ inner ∈ inners, inner.ReadsByMultiplicity)
    (counted : Variable.Counted serial counts inputs) :
    (evaluateAll inners inputs).Reads serial
      (∑ slot ∈ range inputs.length, totalMultiplicity inners slot * counts slot) := by
  induction inners with
  | nil =>
      simp only [totalMultiplicity, Nat.zero_mul, Finset.sum_const_zero]
      exact .pure []
  | cons inner inners induction =>
      have first := each inner List.mem_cons_self counted
      have rest := induction fun inner member => each inner (List.mem_cons_of_mem _ member)
      simp only [totalMultiplicity, Nat.add_mul, Finset.sum_add_distrib]
      rw [evaluateAll]
      exact first.bind fun answer => rest.andThen fun answers => .pure (answer :: answers)

/-- The outer operator of a composite reads no leaf: it sees the answers of the inner ones. -/
theorem composite_readsByMultiplicity [HostArithmetic] (header : Header)
    (built : outer.BuiltFrom (Primitive.Keeps .all))
    (each : ∀ inner ∈ inners, inner.ReadsByMultiplicity) :
    (composite header outer inners).ReadsByMultiplicity := by
  intro serial counts inputs counted
  have unread : ∀ answers : List Value,
      (outer.evaluate (answers.map Variable.constant)).Reads serial 0 := by
    intro answers
    refine (built.evaluate_consults _).closed Run.Reads.closed (fun _ => trivial)
      fun part member => ?_
    obtain ⟨answer, -, rfl⟩ := List.mem_map.mp member
    exact .pure answer
  simp only [evaluate, multiplicity]
  exact (evaluateAll_reads each counted).andThen unread

end Operator

end

/-!
## The strict built-in operators

All but four of the primitive built-in operators read each of their slots once. What is composed
from such operators reads a slot as often as its multiplicity says, whatever the outer operators
are. A wrong number of inputs is noticed before anything is read, and then there is no answer.
-/

open Finset (range)
open Slots (ReadsOnce)

namespace Catalogue

variable {template : Template} {symbol name : String} {compute : Slots → Evaluation Value}

/-- The primitive operators that may leave an input unread. -/
def selective : List Operator := [conjunction, disjunction, choice, modulus]

/-- Operators of a family whose body reads each declared slot once. -/
theorem safe_readsByMultiplicity (once : ReadsOnce template.inputs.length compute) :
    (template.safe symbol name compute).ReadsByMultiplicity := by
  intro serial counts inputs counted
  by_cases arity : inputs.length = template.inputs.length
  · have slots : ∀ slot ∈ range template.inputs.length,
        (template.safe symbol name compute).multiplicity slot * counts slot = counts slot := by
      intro slot inside
      have declared : slot < template.inputs.length := Finset.mem_range.mp inside
      simp [Template.safe, Template.operator, Operator.multiplicity, Header.arity, declared]
    rw [safe_evaluate arity, arity, Finset.sum_congr rfl slots]
    exact once counted
  · have mismatch : (template.safe symbol name compute).evaluate inputs = .fail _ :=
      Slots.checkArity_bind_of_ne arity
    rw [mismatch]
    exact .fail _

/-- Operators that read one payload. -/
theorem read_readsOnce {α : Type} {expected : ValueType} {payload? : Value → Option α}
    {change : α → Value} :
    ReadsOnce 1 (fun slots => do
      let payload ← slots.read 0 expected payload?
      pure (change payload)) := by
  intro serial counts header inputs counted
  rw [Finset.sum_range_one]
  exact (Slots.read_reads counted 0).andThen fun payload => .pure (change payload)

/-- Operators that read one value. -/
theorem value_readsOnce {next : Value → Evaluation Value}
    (unread : ∀ serial value, (next value).Reads serial 0) :
    ReadsOnce 1 (fun slots => do
      let value ← slots.value 0
      next value) := by
  intro serial counts header inputs counted
  rw [Finset.sum_range_one]
  exact (Slots.value_reads counted 0).andThen (unread serial)

/-- Operators that read two payloads. -/
theorem read_read_readsOnce {α β : Type} {expected expected' : ValueType}
    {payload? : Value → Option α} {payload'? : Value → Option β} {next : α → β → Evaluation Value}
    (unread : ∀ serial left right, (next left right).Reads serial 0) :
    ReadsOnce 2 (fun slots => do
      let left ← slots.read 0 expected payload?
      let right ← slots.read 1 expected' payload'?
      next left right) := by
  intro serial counts header inputs counted
  rw [Finset.sum_range_succ, Finset.sum_range_one]
  exact (Slots.read_reads counted 0).bind fun left =>
    (Slots.read_reads counted 1).andThen (unread serial left)

/-- Operators that read two values. -/
theorem value_value_readsOnce {next : Value → Value → Evaluation Value}
    (unread : ∀ serial left right, (next left right).Reads serial 0) :
    ReadsOnce 2 (fun slots => do
      let left ← slots.value 0
      let right ← slots.value 1
      next left right) := by
  intro serial counts header inputs counted
  rw [Finset.sum_range_succ, Finset.sum_range_one]
  exact (Slots.value_reads counted 0).bind fun left =>
    (Slots.value_reads counted 1).andThen (unread serial left)

theorem elementAt_reads (serial : Nat) (view : ListView Value) (index : Int32) :
    (elementAt view index).Reads serial 0 := by
  unfold elementAt
  split
  · exact (Run.Reads.ofPulling _).andThen fun _ => .ofOutcome _
  · exact .fail _

theorem equals_readsByMultiplicity : equals.ReadsByMultiplicity := by
  refine safe_readsByMultiplicity (value_value_readsOnce fun serial left right => ?_)
  rw [← bind_pure_comp]
  exact (Run.Reads.ofPulling _).andThen fun truth => .pure _

theorem strictOrder_readsByMultiplicity [HostArithmetic] {wanted : Ordering} :
    (strictOrder symbol name wanted).ReadsByMultiplicity :=
  safe_readsByMultiplicity <| value_value_readsOnce fun _ _ _ =>
    (Run.Reads.ofOutcome _).andThen fun _ => .pure _

/-- Every other built-in operator reads its slots as often as its multiplicities say. -/
theorem builtin_readsByMultiplicity [HostArithmetic] {operator : Operator}
    (member : operator ∈ builtins)
    (strict : operator ∉ selective) : operator.ReadsByMultiplicity := by
  have keeps : ∀ part ∈ builtins, part.BuiltFrom (Primitive.Keeps .all) :=
    fun _ member => builtFrom_keeps member
  revert strict
  refine builtins_cases member ?conjunction ?disjunction ?negation ?arithmetic ?modulus ?onInteger
    ?onIntegers ?equals ?strictOrder ?stringLength ?concatenation ?displayName ?rounding
    ?listLength ?element ?choice ?identity ?notEquals ?orEqual
  case conjunction | disjunction | choice | modulus =>
    intro strict
    exact absurd (by simp [selective]) strict
  case arithmetic =>
    intro pattern symbol name operation _
    exact safe_readsByMultiplicity (value_value_readsOnce fun _ _ _ => .ofOutcome _)
  case onIntegers =>
    intro symbol name function _
    exact safe_readsByMultiplicity (read_read_readsOnce fun _ _ _ => .pure _)
  case equals => exact fun _ => equals_readsByMultiplicity
  case strictOrder => exact fun _ _ _ _ => strictOrder_readsByMultiplicity
  case concatenation =>
    exact fun _ => safe_readsByMultiplicity (read_read_readsOnce fun _ _ _ => .pure _)
  case displayName =>
    intro _
    refine safe_readsByMultiplicity (value_readsOnce fun serial value => ?_)
    rw [← bind_pure_comp]
    exact (Run.Reads.ofOutcome _).andThen fun text => .pure _
  case element =>
    exact fun _ => safe_readsByMultiplicity (read_read_readsOnce fun serial view index =>
      elementAt_reads serial view index)
  case identity =>
    intro _
    have once : ReadsOnce 1 (·.value 0) := by
      simpa using value_readsOnce fun _ value => .pure value
    exact safe_readsByMultiplicity once
  case notEquals =>
    intro _ _ _
    have outer : negation.BuiltFrom (Primitive.Keeps .all) :=
      keeps negation (by simp [builtins, logical])
    exact Operator.composite_readsByMultiplicity _ outer (by simpa using equals_readsByMultiplicity)
  case orEqual =>
    intro symbol name strictSymbol strictName wanted _ _ _ _
    have outer : disjunction.BuiltFrom (Primitive.Keeps .all) :=
      keeps disjunction (by simp [builtins, logical])
    exact Operator.composite_readsByMultiplicity _ outer
      (by simpa using ⟨equals_readsByMultiplicity, strictOrder_readsByMultiplicity⟩)
  -- what is left reads one payload
  all_goals
    intros
    exact safe_readsByMultiplicity read_readsOnce

end Catalogue

/-- The built-in operators that read all their slots, and what is composed from them, to any depth.
The outer operators may be any. -/
inductive Operator.Strict [HostArithmetic] : Operator → Prop
  | builtin {operator : Operator} : operator ∈ Catalogue.builtins →
      operator ∉ Catalogue.selective → Strict operator
  | composed {outer composite : Operator} {inners : List Operator} {symbol name kind : String}
      {pattern : RenderPattern} :
      outer.Derived → (∀ inner ∈ inners, Strict inner) →
      outer.compose inners symbol name pattern kind = .ok composite → Strict composite

theorem Operator.Strict.readsByMultiplicity [HostArithmetic] {operator : Operator}
    (strict : operator.Strict) :
    operator.ReadsByMultiplicity := by
  induction strict with
  | builtin member strict => exact Catalogue.builtin_readsByMultiplicity member strict
  | composed outerDerived _ composed inners =>
      obtain ⟨-, header, rfl⟩ := compose_eq_ok composed
      have outer : Operator.BuiltFrom (Primitive.Keeps .all) _ :=
        outerDerived.builtFrom_of fun _ member => Catalogue.builtFrom_keeps member
      exact composite_readsByMultiplicity header outer inners

end Dataflow

import Dataflow.Proofs.Graph.Handles
import Dataflow.Proofs.Operator.InStep

/-!
# Skipped operands cannot be observed

Four operators leave an operand unread when another one decides. Whatever stands in its place, in
any number of nodes, at any depth and however often composites evaluate them: the whole graph ends
in the same way after the same events, and no leaf is read through the operand. This needs that the
deciding operand decides in the same way each time, as it does over leaves that answer in one way.
-/

namespace Dataflow

/-!
## Values that are yielded again

A graph whose leaves answer every read in one way can still yield something else each time: the
lists that it makes are new on every evaluation, while those that its constants and leaves hold stay
the same. Operators see no more of a handle than whether it is that of another list. So they tell
the two kinds of lists apart, but no two evaluations, and a value that is no list is yielded every
time if it is yielded once.
-/

section

variable {base : Nat} {offset : Int}

/-- The lists in a value were there before: their handles are below a base. Elements past the end of
a list do not count. -/
inductive Value.Before (base : Nat) : Value → Prop
  | plain {value : Value} : value.list? = none → Before base value
  | list {view : ListView Value} : view.handle < base →
      (∀ index < view.length, ∀ item, view.element index = .ok item → Before base item) →
      Before base (.list view)

/-- A leaf that answers every read in one way, with no list but those that were there before. -/
def Leaf.Unchanging (base : Nat) (source : Leaf) : Prop :=
  ∃ answer, (∀ events, source.answer events = answer) ∧
    ∀ value, answer = .ok value → value.Before base

/-- Handles at a fixed distance, both past those that were there before. -/
def CountedFrom (base : Nat) (offset : Int) (handle other : Nat) : Prop :=
  base ≤ handle ∧ base ≤ other ∧ Shifted offset handle other

/-- Handles that were there before are kept, and the others shifted. -/
def ShiftedFrom (base : Nat) (offset : Int) (handle other : Nat) : Prop :=
  (handle < base ∧ other = handle) ∨ CountedFrom base offset handle other

theorem shiftedFrom_biUnique (base : Nat) (offset : Int) :
    Relator.BiUnique (ShiftedFrom base offset) := by
  constructor
  · intro handle other shifted first second
    simp only [ShiftedFrom, CountedFrom, Shifted] at first second
    omega
  · intro handle shifted other first second
    simp only [ShiftedFrom, CountedFrom, Shifted] at first second
    omega

/-- Counters past the handles that were there before give out handles past them. -/
theorem CountedFrom.succ {handle other : Nat} (counted : CountedFrom base offset handle other) :
    ShiftedFrom base offset handle other ∧ CountedFrom base offset (handle + 1) (other + 1) := by
  refine ⟨.inr counted, ?_⟩
  simp only [CountedFrom, Shifted] at counted ⊢
  omega

theorem Value.Before.renamed {value : Value} (before : value.Before base) :
    value.Renamed (ShiftedFrom base offset) value := by
  induction before with
  | plain noList => exact .plain noList
  | list kept _ items =>
      refine .list (.inl ⟨kept, rfl⟩) rfl rfl fun index inside => ?_
      cases produced : ListView.element _ index with
      | ok item => exact .ok (items index inside item produced)
      | error cause => exact .error cause

theorem Leaf.Unchanging.read_related {source : Leaf} (unchanging : source.Unchanging base) :
    Run.Related (CountedFrom base offset) (Value.Renamed (ShiftedFrom base offset)) source.read
      source.read := by
  obtain ⟨answer, always, before⟩ := unchanging
  intro trace trace' counted
  simp only [Leaf.read, always]
  refine ⟨?_, counted⟩
  cases answer with
  | ok value => exact .ok (before value rfl).renamed
  | error cause => exact .error cause

/-- The lists that the arithmetic of hosts answers were there before. -/
abbrev HostArithmetic.Lasting [HostArithmetic] (base : Nat) : Prop :=
  Answers (Value.Before base)

namespace Graph

variable [HostArithmetic] {graph : Graph} {value : Value} {trace : Trace}

/-- Two evaluations differ in the handles of lists that they have made. -/
theorem value_related (lasting : HostArithmetic.Lasting base)
    (made : graph.Over Operator.Derived (Value.Before base) (Leaf.Unchanging base)) :
    Variable.Alike (CountedFrom base offset) (Value.Renamed (ShiftedFrom base offset))
      graph.toVariable graph.toVariable := by
  refine made.toVariable (fun input => Variable.Alike _ _ input input) ?_ ?_ ?_ ?_
  · exact fun value before => ⟨Run.Related.pure before.renamed, Run.Related.pure rfl⟩
  · exact fun source unchanging => ⟨unchanging.read_related, Run.Related.pure rfl⟩
  · intro elementType items each
    have values := valuesOf_related fun item member => (each item member).value
    refine ⟨Run.Related.bind values fun renamed => ?_, Run.Related.pure rfl⟩
    exact Run.newList_related renamed fun _ _ counted => counted.succ
  · intro operator inputs derived each
    have congruence := Value.congruence_renamed (shiftedFrom_biUnique base offset)
      fun serial operation left right answer answered =>
        (lasting serial operation left right answer answered).renamed
    exact derived.builtFrom.applied_alike congruence (List.forall₂_same.mpr each)

/-- A graph of derived operators over unchanging leaves yields a value, at least once. -/
structure Yields (base : Nat) (graph : Graph) (value : Value) : Prop where
  lasting : HostArithmetic.Lasting base
  made : graph.Over Operator.Derived (Value.Before base) (Leaf.Unchanging base)
  once : ∃ trace : Trace, base ≤ trace.handles ∧ (graph.value.after trace).1 = .ok value

/-- What is yielded once and is no list is yielded again. -/
theorem Yields.again (yields : graph.Yields base value) (plain : value.list? = none)
    (enough : base ≤ trace.handles) : (graph.value.after trace).1 = .ok value := by
  obtain ⟨lasting, made, earlier, enough', ended⟩ := yields
  have counted : CountedFrom base (trace.handles - earlier.handles) earlier.handles
      trace.handles := by
    simp only [CountedFrom, Shifted]
    omega
  have related := ((value_related lasting made).value earlier trace counted).1
  change Outcome.Related _ (graph.value.after earlier).1 (graph.value.after trace).1 at related
  rw [ended] at related
  generalize (graph.value.after trace).1 = outcome at related
  cases related with
  | ok renamed =>
      cases renamed with
      | plain => rfl
      | list => cases plain

end Graph

end

/-! ## Skipped operands -/

variable {readable : Leaf → Prop} {base : Nat}

namespace Operator

/-- An operator whose deciding slot has yielded a value, and the slot that it skips then. -/
inductive Skips : Operator → (deciding : Nat) → Value → (skipped : Nat) → Prop
  | conjunction : Skips Catalogue.conjunction 0 (.boolean false) 1
  | disjunction : Skips Catalogue.disjunction 0 (.boolean true) 1
  | secondBranch : Skips Catalogue.choice 0 (.boolean true) 2
  | firstBranch : Skips Catalogue.choice 0 (.boolean false) 1
  | modulus {divisor : Int32} : divisor = 0 ∨ divisor = 1 →
      Skips Catalogue.modulus 1 (.integer divisor) 0

variable {operator : Operator} {value : Value} {deciding skipped : Nat}

theorem Skips.plain (skips : operator.Skips deciding value skipped) : value.list? = none := by
  cases skips <;> rfl

/-- Inputs that coincide, except in one slot. -/
abbrev CoincideBut (readable : Leaf → Prop) (base skipped : Nat) (inputs others : List Variable) :
    Prop :=
  Variable.Wired (· ≠ skipped)
    (fun input other => Run.Coincide readable base input.value other.value) inputs others

variable {inputs others : List Variable} {decider : Variable}

/-- An operator that reads a condition first depends on one branch only. -/
theorem condition_coincide {template : Template} {symbol name : String}
    {yes no : Slots → Evaluation Value} {truth : Bool}
    (wired : CoincideBut readable base skipped inputs others) (sees : 0 ≠ skipped)
    (found : others[0]? = some decider)
    (decides : ∀ trace, base ≤ trace.handles →
      (decider.value.after trace).1 = .ok (.boolean truth))
    (branch : ∀ header, Run.Coincide readable base ((bif truth then yes else no) ⟨header, inputs⟩)
      ((bif truth then yes else no) ⟨header, others⟩)) :
    Run.Coincide readable base
      ((template.raw symbol name fun slots => do
        slots.checkArity
        if ← slots.condition 0 then yes slots else no slots).evaluate inputs)
      ((template.raw symbol name fun slots => do
        slots.checkArity
        if ← slots.condition 0 then yes slots else no slots).evaluate others) := by
  refine Run.Coincide.bind (.of_inStep (Slots.checkArity_inStep wired)) fun _ _ => ?_
  refine Run.Coincide.bind (.of_inStep (Slots.condition_inStep wired sees)) ?_
  rintro answer ⟨trace, enough, ended⟩
  rw [Slots.condition_after found (Prod.ext (decides trace enough) rfl)] at ended
  cases ended
  cases truth with
  | true => exact branch _
  | false => exact branch _

theorem modulus_coincide {divisor : Int32} (trivial : divisor = 0 ∨ divisor = 1)
    (wired : CoincideBut readable base 0 inputs others)
    (found : others[1]? = some decider)
    (decides : ∀ trace, base ≤ trace.handles →
      (decider.value.after trace).1 = .ok (.integer divisor)) :
    Run.Coincide readable base (Catalogue.modulus.evaluate inputs)
      (Catalogue.modulus.evaluate others) := by
  refine Run.Coincide.bind (.of_inStep (Slots.checkArity_inStep wired)) fun _ _ => ?_
  refine Run.Coincide.bind (.of_inStep (Slots.read_inStep wired Nat.one_ne_zero)) ?_
  rintro answer ⟨trace, enough, ended⟩
  have read : (Slots.integer ⟨Catalogue.modulus.header, others⟩ 1).after trace = (.ok divisor, _) :=
    Slots.integer_after found rfl (Prod.ext (decides trace enough) rfl)
  obtain rfl : divisor = answer := Outcome.ok.inj ((congrArg Prod.fst read).symm.trans ended)
  rcases trivial with rfl | rfl
  · exact .ofOutcome _
  · exact .pure _

/-- An operator that skips a slot cannot see what stands there. -/
theorem Skips.coincide (skips : operator.Skips deciding value skipped)
    (wired : CoincideBut readable base skipped inputs others)
    (found : others[deciding]? = some decider)
    (decides : ∀ trace, base ≤ trace.handles → (decider.value.after trace).1 = .ok value) :
    Run.Coincide readable base (operator.evaluate inputs) (operator.evaluate others) := by
  have unchecked : ∀ (header : Header) (index : Nat), index ≠ skipped →
      Run.Coincide readable base (Slots.unchecked ⟨header, inputs⟩ index)
        (Slots.unchecked ⟨header, others⟩ index) :=
    fun header index sees => .of_inStep (Slots.unchecked_inStep wired sees)
  cases skips with
  | conjunction => exact condition_coincide wired nofun found decides fun _ => .pure _
  | disjunction => exact condition_coincide wired nofun found decides fun _ => .pure _
  | secondBranch =>
      exact condition_coincide wired nofun found decides fun header => unchecked header 1 nofun
  | firstBranch =>
      exact condition_coincide wired nofun found decides fun header => unchecked header 2 nofun
  | modulus small => exact modulus_coincide small wired found decides

end Operator

theorem valuesOf_coincide {parts others : List Variable}
    (each : List.Forall₂ (fun part other : Variable =>
      Run.Coincide readable base part.value other.value) parts others) :
    Run.Coincide readable base (valuesOf parts) (valuesOf others) := by
  induction each with
  | nil => exact .pure []
  | cons head _ induction =>
      rw [valuesOf, valuesOf]
      refine head.bind fun value _ => induction.bind fun values _ => ?_
      exact .pure (value :: values)

namespace Graph

variable {graph : Graph} {instead : Variable} {trace : Trace}

/-- A variable that a graph becomes when operands are replaced that are skipped. The graph around
them has readable leaves, and derived operators. -/
inductive Rewired [HostArithmetic] (readable : Leaf → Prop) (base : Nat) : Graph → Variable → Prop
  | constant (value : Value) : Rewired readable base (constant value) (.constant value)
  | leaf {source : Leaf} : readable source →
      Rewired readable base (leaf source) source.toVariable
  | list {elementType : ValueType} {items : List Graph} {parts : List Variable} :
      parts.length = items.length →
      (∀ (index : Nat) (item : Graph) (part : Variable), items[index]? = some item →
        parts[index]? = some part → Rewired readable base item part) →
      Rewired readable base (list elementType items) (.listOf elementType parts)
  | node {operator : Operator} {inputs : List Graph} {parts : List Variable} : operator.Derived →
      parts.length = inputs.length →
      (∀ (index : Nat) (input : Graph) (part : Variable), inputs[index]? = some input →
        parts[index]? = some part → Rewired readable base input part) →
      Rewired readable base (node operator inputs) (operator.applied parts)
  /-- Anything may stand in the slot that is skipped, here and there. -/
  | skipped {operator : Operator} {deciding skipped : Nat} {value : Value} {decider : Graph}
      {inputs : List Graph} {parts : List Variable} :
      operator.Skips deciding value skipped → inputs[deciding]? = some decider →
      decider.Yields base value → parts.length = inputs.length →
      (∀ (index : Nat) (input : Graph) (part : Variable), index ≠ skipped →
        inputs[index]? = some input → parts[index]? = some part →
          Rewired readable base input part) →
      Rewired readable base (node operator inputs) (operator.applied parts)

theorem wired_of_parts (seen : Nat → Prop) {inputs : List Graph} {parts : List Variable}
    (lengths : parts.length = inputs.length)
    (each : ∀ (index : Nat) (input : Graph) (part : Variable), seen index →
      inputs[index]? = some input → parts[index]? = some part →
      Run.Coincide readable base part.value input.value) :
    Variable.Wired seen (fun part input => Run.Coincide readable base part.value input.value) parts
      (inputs.map toVariable) := by
  refine ⟨by rw [lengths, List.length_map], fun index part other sees found found' => ?_⟩
  rw [List.getElem?_map, Option.map_eq_some_iff] at found'
  obtain ⟨input, there, rfl⟩ := found'
  exact each index input part sees there found

theorem Rewired.coincide [HostArithmetic] (rewired : graph.Rewired readable base instead) :
    Run.Coincide readable base instead.value graph.value := by
  induction rewired with
  | constant value => exact .pure value
  | leaf member => exact .read member
  | list lengths _ each =>
      rw [value, toVariable_list]
      have wired := wired_of_parts (fun _ => True) lengths fun index item part _ =>
        each index item part
      exact (valuesOf_coincide wired.forall₂).bind fun values _ => .newList _ values
  | node derived lengths _ each =>
      rw [value, toVariable_node]
      have wired := wired_of_parts (fun _ => True) lengths fun index item part _ =>
        each index item part
      have built := derived.builtFrom_of fun _ member => Catalogue.builtFrom_keepsStep member
      exact .recordError _ (.of_inStep (built.evaluate_inStep wired))
  | skipped skips found yields lengths _ each =>
      rw [value, toVariable_node]
      have wired := wired_of_parts (· ≠ _) lengths each
      refine .recordError _ (skips.coincide wired ?_ fun trace => yields.again skips.plain)
      rw [List.getElem?_map, found]
      rfl

/-- Whatever replaces operands that are skipped in a graph, the result is the same, and so is all
that happens. The leaves that are read are those of the graph around them. The lists that constants
and leaves of deciding operands hold are taken to be there before, under handles below `base`. -/
theorem skipped_operands_unobserved [HostArithmetic] (rewired : graph.Rewired readable base instead)
    (enough : base ≤ trace.handles) :
    instead.value.after trace = graph.value.after trace ∧
      ∃ events, (graph.value.after trace).2.events = events ++ trace.events ∧
        ∀ serial answer, .read serial answer ∈ events →
          ∃ source, readable source ∧ source.serial = serial := by
  obtain ⟨same, continues⟩ := rewired.coincide trace enough
  exact ⟨same, continues.events⟩

/-- A divisor for which the dividend does not matter. -/
def unitDivisor : Leaf := .steady 1 .integer (.ok (.integer 1))

/-- Whether a remainder is not negative, with a dividend that cannot be read. Two relations are
evaluated for this, and the remainder for each of them. -/
def unreadDividend : Graph :=
  node Catalogue.greaterOrEqual
    [node Catalogue.modulus
        [leaf (.steady 0 .integer (.error .divisionByZero)), leaf unitDivisor],
      constant (.integer 0)]

/-- The same, with a dividend that is declared to be a string and ends with a fault. -/
def faultyDividend : Variable :=
  Catalogue.greaterOrEqual.applied
    [Catalogue.modulus.applied
        [⟨pure .string, .ofOutcome (.fault (.withoutArithmetic .string))⟩, unitDivisor.toVariable],
      .constant (.integer 0)]

theorem dividends_unobserved :
    faultyDividend.value.after .empty = unreadDividend.value.after .empty ∧
      unreadDividend.value.after .empty =
        (.ok (.boolean true),
          ⟨[.read 1 (.ok (.integer 1)), .read 1 (.ok (.integer 1))], 0⟩) := by
  have greaterOrEqual : Operator.Derived Catalogue.greaterOrEqual :=
    .builtin (by simp [Catalogue.builtins, Catalogue.relational])
  have unread : Operator.Skips Catalogue.modulus 1 (.integer 1) 0 := .modulus (.inr rfl)
  have decides : (leaf unitDivisor).Yields 0 (.integer 1) := by
    refine ⟨HostArithmetic.absent_answers _, .leaf ⟨.ok (.integer 1), fun _ => rfl, ?_⟩, .empty,
      Nat.le_refl 0, rfl⟩
    rintro _ ⟨⟩
    exact .plain rfl
  have rewired : unreadDividend.Rewired (· = unitDivisor) 0 faultyDividend := by
    refine .node greaterOrEqual rfl ?_
    rintro (_ | _ | _) _ _ ⟨⟩ ⟨⟩
    · refine .skipped unread rfl decides rfl ?_
      rintro (_ | _ | _) _ _ sees ⟨⟩ ⟨⟩
      · exact absurd rfl sees
      · exact .leaf rfl
    · exact .constant _
  exact ⟨(skipped_operands_unobserved rewired (Nat.le_refl 0)).1, rfl⟩

end Graph

end Dataflow

import Dataflow.Operator.Slots
import Mathlib.Data.List.Forall2
import Mathlib.Order.Bounds.Basic
import Mathlib.Order.Nat

/-!
# What the static checks say

A wiring that passes a check has one input for each slot, of a type that the slot admits, and inputs
of one type where the check asks for it.
-/

namespace Dataflow.TypeCheck

section

variable {operator : String} {header : Header} {types : List ValueType}

theorem bind_eq_ok_iff {ε α β : Type} {first : Except ε α} {next : α → Except ε β} {answer : β} :
    (first >>= next) = .ok answer ↔ ∃ middle, first = .ok middle ∧ next middle = .ok answer := by
  cases first with
  | ok middle => simp [bind, Except.bind]
  | error cause => simp [bind, Except.bind]

theorem then_eq_ok_iff {ε β : Type} {first : Except ε Unit} {next : Except ε β} {answer : β} :
    (do first; next) = .ok answer ↔ first = .ok () ∧ next = .ok answer := by
  rw [bind_eq_ok_iff]
  constructor
  · rintro ⟨_, passed, ended⟩
    exact ⟨passed, ended⟩
  · rintro ⟨passed, ended⟩
    exact ⟨(), passed, ended⟩

theorem then_eq_error_iff {ε β : Type} {first : Except ε Unit} {next : Except ε β} {cause : ε} :
    (do first; next) = .error cause ↔
      first = .error cause ∨ first = .ok () ∧ next = .error cause := by
  cases first with
  | ok => simp [bind, Except.bind]
  | error other => simp [bind, Except.bind]

theorem presentFrom_map_some (index : Nat) :
    presentFrom operator index (types.map some) = .ok types := by
  induction types generalizing index with
  | nil => rfl
  | cons type types induction =>
      rw [List.map_cons, presentFrom, induction]
      rfl

/-- Types that are all present. -/
theorem eq_map_some_of_presentFrom {given : List (Option ValueType)} {index : Nat}
    (present : presentFrom operator index given = .ok types) : given = types.map some := by
  induction given generalizing index types with
  | nil =>
      cases present
      rfl
  | cons input given induction =>
      cases input with
      | none => cases present
      | some type =>
          rw [presentFrom] at present
          obtain ⟨rest, tail, ended⟩ := bind_eq_ok_iff.mp present
          cases ended
          rw [induction tail]
          rfl

theorem resolved_eq_ok_iff {got : List ValueType} :
    resolved header (types.map some) = .ok got ↔ types.length = header.arity ∧ got = types := by
  rw [resolved, List.length_map, presentFrom_map_some]
  split
  · rename_i lengths
    simp [lengths, eq_comm]
  · rename_i lengths
    simp [lengths]

theorem acceptFrom_eq_ok_iff {slots : List ValueType} (lengths : types.length = slots.length)
    (index : Nat) :
    acceptFrom operator index slots types = .ok () ↔
      List.Forall₂ (fun slot type => slot.accepts type = true) slots types := by
  induction slots generalizing types index with
  | nil =>
      obtain rfl := List.length_eq_zero_iff.mp lengths
      simp [acceptFrom]
  | cons slot slots induction =>
      obtain ⟨type, types, rfl⟩ := List.exists_cons_of_length_eq_add_one lengths
      rw [acceptFrom, List.forall₂_cons]
      split
      · rename_i accepted
        simp [accepted, induction (Nat.succ.inj lengths)]
      · rename_i rejected
        simp [rejected]

theorem default_eq_ok_iff :
    TypeCheck.default header (types.map some) = .ok () ↔
      List.Forall₂ (fun slot type => slot.accepts type = true) header.inputs types := by
  simp only [TypeCheck.default, bind_eq_ok_iff, resolved_eq_ok_iff]
  constructor
  · rintro ⟨_, ⟨lengths, rfl⟩, accepted⟩
    exact (acceptFrom_eq_ok_iff lengths 0).mp accepted
  · intro accepted
    have lengths : types.length = header.arity := accepted.length_eq.symm
    exact ⟨types, ⟨lengths, rfl⟩, (acceptFrom_eq_ok_iff lengths 0).mpr accepted⟩

/-- A wiring that passes the default check leaves no input without a type. -/
theorem exists_of_default {given : List (Option ValueType)}
    (accepted : TypeCheck.default header given = .ok ()) :
    ∃ types : List ValueType, given = types.map some := by
  obtain ⟨types, present, -⟩ := bind_eq_ok_iff.mp accepted
  rw [resolved] at present
  split at present
  · exact ⟨types, eq_map_some_of_presentFrom present⟩
  · cases present

theorem sameFrom_eq_ok_iff {expected : ValueType} (index : Nat) :
    sameFrom operator expected index types = .ok () ↔ ∀ type ∈ types, type = expected := by
  induction types generalizing index with
  | nil => simp [sameFrom]
  | cons type types induction =>
      rw [sameFrom, List.forall_mem_cons]
      split
      · rename_i equal
        simp [equal, induction]
      · rename_i different
        simp [different]

/-- A uniform check passes when the slots admit the types, and all types are that of the first. -/
theorem uniform_eq_ok_iff :
    uniform header (types.map some) = .ok () ↔
      List.Forall₂ (fun slot type => slot.accepts type = true) header.inputs types ∧
        ∀ type ∈ types.tail, types.head? = some type := by
  simp only [uniform, bind_eq_ok_iff, same, resolved_eq_ok_iff]
  have same_iff : ∀ first others, sameFrom header.uniqueName first 1 others = .ok () ↔
      ∀ type ∈ others, some first = some type := by
    intro first others
    rw [sameFrom_eq_ok_iff]
    exact forall₂_congr fun type _ => by rw [Option.some.injEq, eq_comm]
  constructor
  · rintro ⟨_, accepted, got, ⟨-, gotTypes⟩, uniform⟩
    refine ⟨default_eq_ok_iff.mp accepted, ?_⟩
    subst gotTypes
    cases got with
    | nil => exact nofun
    | cons first others => exact (same_iff first others).mp (by simpa using uniform)
  · rintro ⟨accepted, uniform⟩
    refine ⟨(), default_eq_ok_iff.mpr accepted, types, ⟨accepted.length_eq.symm, rfl⟩, ?_⟩
    cases types with
    | nil => rfl
    | cons first others => simpa using (same_iff first others).mpr uniform

end

/-!
## The first violation

A check looks at a wiring in passes: whether there is one input for each slot, whether each input
has a type, whether each slot admits the type of its input, and whether the types agree that have to
be one. A pass rejects the wiring for the smallest slot that violates it, and the next pass only
sees what this one lets through. So the verdict of a check is determined by the violations in the
wiring, and not by how the check goes through it.
-/

/-- A rule that a wiring may violate, by the rejections that are due then. -/
abbrev Violation := TypeError → Prop

namespace Violation

/-- One violation, or else another one. -/
def orElse (first second : Violation) : Violation := fun cause =>
  first cause ∨ (∀ other, ¬ first other) ∧ second cause

/-- The violation in the smallest slot that has one. -/
def atFirst (violation : Nat → Violation) : Violation := fun cause =>
  ∃ slot, IsLeast {slot | ∃ other, violation slot other} slot ∧ violation slot cause

end Violation

/-- A number of inputs that is not that of the slots. -/
def miscounted (header : Header) (given : List (Option ValueType)) : Violation := fun cause =>
  given.length ≠ header.arity ∧
    cause = .wrongInputLength header.uniqueName given.length header.arity

/-- An input without a type. -/
def unset (operator : String) (given : List (Option ValueType)) (slot : Nat) : Violation :=
  fun cause => given[slot]? = some none ∧ cause = .nullType operator slot

/-- What has to be right before types are looked at: the number of inputs, then their presence. -/
def incomplete (header : Header) (given : List (Option ValueType)) : Violation :=
  (miscounted header given).orElse (.atFirst (unset header.uniqueName given))

/-- An input of a type that its slot does not admit. -/
def unaccepted (header : Header) (given : List (Option ValueType)) (slot : Nat) : Violation :=
  fun cause => ∃ got expected, header.inputs[slot]? = some expected ∧
    given[slot]? = some (some got) ∧ expected.accepts got = false ∧
    cause = .wrongType header.uniqueName got slot expected

/-- An input of another type than that of the slot `first`. -/
def unlike (operator : String) (given : List (Option ValueType)) (first slot : Nat) : Violation :=
  fun cause => ∃ got expected, given[first]? = some (some expected) ∧
    given[slot]? = some (some got) ∧ got ≠ expected ∧
    cause = .wrongType operator got slot expected

/-- A verdict that rejects for exactly a given violation, and accepts where there is none. -/
structure Reports (violation : Violation) (verdict : Except TypeError Unit) : Prop where
  error_iff : ∀ cause, verdict = .error cause ↔ violation cause
  ok_iff : verdict = .ok () ↔ ∀ cause, ¬ violation cause

section

variable {violation other : Violation} {verdict following : Except TypeError Unit}
  {cause : TypeError}

theorem Reports.of_error_iff (error_iff : ∀ cause, verdict = .error cause ↔ violation cause) :
    Reports violation verdict where
  error_iff := error_iff
  ok_iff := by
    cases verdict with
    | ok => simpa using fun cause => (error_iff cause).not.mp (by simp)
    | error cause => simpa using ⟨cause, (error_iff cause).mp rfl⟩

theorem Reports.congr (reports : Reports violation verdict)
    (same : ∀ cause, violation cause ↔ other cause) : Reports other verdict :=
  .of_error_iff fun cause => (reports.error_iff cause).trans (same cause)

/-- A check that goes on after another one reports what that one reports, or else what it finds. -/
theorem Reports.then (reports : Reports violation verdict)
    (next : verdict = .ok () → Reports other following) :
    Reports (violation.orElse other) (do verdict; following) := by
  refine .of_error_iff fun cause => ?_
  rw [then_eq_error_iff, Violation.orElse, reports.error_iff, reports.ok_iff]
  refine or_congr_right (and_congr_right fun none => ?_)
  exact (next (reports.ok_iff.mpr none)).error_iff cause

end

/-- The violations that a pass may find from slot `start` on, by the distance from there. -/
def Violation.startingAt (start : Nat) (violation : (distance slot : Nat) → Violation)
    (slot : Nat) : Violation := fun cause =>
  ∃ distance, slot = start + distance ∧ violation distance slot cause

section

variable {violation other : Nat → Violation} {found : Nat → Nat → Violation}
  {cause : TypeError} {start : Nat}

theorem Violation.atFirst_congr (same : ∀ slot cause, violation slot cause ↔ other slot cause) :
    atFirst violation cause ↔ atFirst other cause := by
  obtain rfl : violation = other := funext fun slot => funext fun cause => propext (same slot cause)
  rfl

theorem Violation.not_atFirst (none : ∀ slot cause, ¬ violation slot cause) :
    ¬ atFirst violation cause := by
  rintro ⟨slot, -, here⟩
  exact none slot cause here

/-- If there are violations, then there is a smallest slot that has one. -/
theorem Violation.forall_not_atFirst_iff :
    (∀ cause, ¬ atFirst violation cause) ↔ ∀ slot cause, ¬ violation slot cause := by
  refine ⟨fun none slot cause here => ?_, fun none cause => not_atFirst none⟩
  classical
  have violated : ∃ slot other, violation slot other := ⟨slot, cause, here⟩
  have least := Nat.isLeast_find violated
  obtain ⟨other, first⟩ := least.1
  exact none other ⟨_, least, first⟩

/-- A pass that finds a violation where it starts reports it. -/
theorem Violation.atFirst_startingAt_of_here (reported : TypeError)
    (here : ∀ cause, found 0 start cause ↔ cause = reported) :
    atFirst (startingAt start found) cause ↔ cause = reported := by
  have least : IsLeast {slot | ∃ other, startingAt start found slot other} start := by
    refine ⟨⟨reported, 0, rfl, (here reported).mpr rfl⟩, ?_⟩
    rintro slot ⟨other, distance, rfl, -⟩
    exact Nat.le_add_right start distance
  constructor
  · rintro ⟨slot, least', distance, same, there⟩
    obtain rfl : distance = 0 := by have := least.unique least'; omega
    obtain rfl : slot = start := same
    exact (here cause).mp there
  · rintro rfl
    exact ⟨start, least, 0, rfl, (here cause).mpr rfl⟩

/-- A pass that finds no violation where it starts goes on with the next slot. -/
theorem Violation.atFirst_startingAt_of_not_here (absent : ∀ cause, ¬ found 0 start cause) :
    atFirst (startingAt start found) cause ↔
      atFirst (startingAt (start + 1) fun distance => found (distance + 1)) cause := by
  refine atFirst_congr fun slot cause => ⟨?_, ?_⟩
  · rintro ⟨distance, rfl, here⟩
    cases distance with
    | zero => exact absurd here (absent cause)
    | succ distance => exact ⟨distance, by omega, here⟩
  · rintro ⟨distance, rfl, here⟩
    exact ⟨distance + 1, by omega, here⟩

end

section

variable {operator : String} {header : Header} {given : List (Option ValueType)}
  {slots types : List ValueType} {expected : ValueType} {cause : TypeError}

theorem presentFrom_eq_error_iff (start : Nat) :
    presentFrom operator start given = .error cause ↔
      Violation.atFirst (.startingAt start fun distance slot cause =>
        given[distance]? = some none ∧ cause = .nullType operator slot) cause := by
  induction given generalizing start with
  | nil =>
      refine iff_of_false nofun (Violation.not_atFirst ?_)
      rintro slot cause ⟨distance, -, ⟨⟩, -⟩
  | cons input given induction =>
      cases input with
      | none =>
          rw [Violation.atFirst_startingAt_of_here (.nullType operator start) (by simp)]
          simp [presentFrom, eq_comm]
      | some type =>
          rw [Violation.atFirst_startingAt_of_not_here (by simp)]
          simp only [List.getElem?_cons_succ]
          rw [← induction, presentFrom]
          cases presentFrom operator (start + 1) given <;> simp [bind, Except.bind]

theorem acceptFrom_eq_error_iff (start : Nat) :
    acceptFrom operator start slots types = .error cause ↔
      Violation.atFirst (.startingAt start fun distance slot cause =>
        ∃ got expected, slots[distance]? = some expected ∧ types[distance]? = some got ∧
          expected.accepts got = false ∧ cause = .wrongType operator got slot expected) cause := by
  induction slots generalizing types start with
  | nil =>
      refine iff_of_false (by simp [acceptFrom]) (Violation.not_atFirst ?_)
      rintro slot cause ⟨distance, -, got, expected, ⟨⟩, -⟩
  | cons expected slots induction =>
      cases types with
      | nil =>
          refine iff_of_false (by simp [acceptFrom]) (Violation.not_atFirst ?_)
          rintro slot cause ⟨distance, -, got, expected, -, ⟨⟩, -⟩
      | cons got types =>
          rw [acceptFrom]
          split
          · rename_i accepted
            rw [Violation.atFirst_startingAt_of_not_here (by simp [accepted])]
            simp only [List.getElem?_cons_succ]
            exact induction (start + 1)
          · rename_i rejected
            rw [Violation.atFirst_startingAt_of_here
              (.wrongType operator got start expected) (by simp [rejected])]
            simp [eq_comm]

theorem sameFrom_eq_error_iff (start : Nat) :
    sameFrom operator expected start types = .error cause ↔
      Violation.atFirst (.startingAt start fun distance slot cause =>
        ∃ got, types[distance]? = some got ∧ got ≠ expected ∧
          cause = .wrongType operator got slot expected) cause := by
  induction types generalizing start with
  | nil =>
      refine iff_of_false nofun (Violation.not_atFirst ?_)
      rintro slot cause ⟨distance, -, got, ⟨⟩, -⟩
  | cons got types induction =>
      rw [sameFrom]
      split
      · rename_i equal
        rw [Violation.atFirst_startingAt_of_not_here (by simp [equal])]
        simp only [List.getElem?_cons_succ]
        exact induction (start + 1)
      · rename_i different
        rw [Violation.atFirst_startingAt_of_here
          (.wrongType operator got start expected) (by simp [different])]
        simp [eq_comm]

theorem Violation.startingAt_zero {found : Nat → Nat → Violation} {slot : Nat} :
    startingAt 0 found slot cause ↔ found slot slot cause := by
  simp [startingAt]

theorem resolved_eq_error_iff :
    resolved header given = .error cause ↔ incomplete header given cause := by
  have unset_iff : presentFrom header.uniqueName 0 given = .error cause ↔
      Violation.atFirst (unset header.uniqueName given) cause :=
    (presentFrom_eq_error_iff 0).trans
      (Violation.atFirst_congr fun slot cause => Violation.startingAt_zero)
  simp only [incomplete, Violation.orElse, miscounted, resolved]
  split
  · rename_i count
    simp [count, unset_iff]
  · rename_i count
    simp [count, eq_comm]

/-- Types are looked at only where each input has one. -/
theorem reports_of_resolved {violation : Violation} {next : List ValueType → Except TypeError Unit}
    (follows : ∀ types : List ValueType, given = types.map some → types.length = header.arity →
      Reports violation (next types)) :
    Reports ((incomplete header given).orElse violation) (resolved header given >>= next) := by
  refine .of_error_iff fun cause => ?_
  simp only [Violation.orElse, ← resolved_eq_error_iff]
  cases found : resolved header given with
  | error other => simp [bind, Except.bind]
  | ok types =>
      have present : given = types.map some ∧ types.length = header.arity := by
        rw [resolved] at found
        split at found
        · rename_i count
          have same := eq_map_some_of_presentFrom found
          exact ⟨same, by rw [← count, same, List.length_map]⟩
        · cases found
      simpa [bind, Except.bind] using (follows types present.1 present.2).error_iff cause

theorem default_reports :
    Reports ((incomplete header given).orElse (.atFirst (unaccepted header given)))
      (TypeCheck.default header given) := by
  refine reports_of_resolved fun types same _ => .of_error_iff fun cause => ?_
  rw [acceptFrom_eq_error_iff]
  refine Violation.atFirst_congr fun slot cause => ?_
  rw [Violation.startingAt_zero, unaccepted, same]
  simp

theorem same_reports (first start stop : Nat) :
    Reports
      ((incomplete header given).orElse (.atFirst fun slot cause =>
        start ≤ slot ∧ slot < stop ∧ unlike header.uniqueName given first slot cause))
      (same first start stop header given) := by
  refine reports_of_resolved fun types present _ => .of_error_iff fun cause => ?_
  cases reference : types[first]? with
  | none =>
      refine iff_of_false nofun (Violation.not_atFirst ?_)
      rintro slot cause ⟨-, -, got, expected, found, -⟩
      simp [present, reference] at found
  | some expected =>
      rw [sameFrom_eq_error_iff]
      refine Violation.atFirst_congr fun slot cause => ?_
      have unlike_iff : unlike header.uniqueName given first slot cause ↔
          ∃ got, types[slot]? = some got ∧ got ≠ expected ∧
            cause = .wrongType header.uniqueName got slot expected := by
        simp [unlike, present, reference]
      have ranged : ∀ distance got, ((types.take stop).drop start)[distance]? = some got ↔
          start + distance < stop ∧ types[start + distance]? = some got := by
        intro distance got
        rw [List.getElem?_drop, List.getElem?_take]
        simp
      rw [unlike_iff]
      constructor
      · rintro ⟨distance, rfl, got, found, wrong⟩
        obtain ⟨before, there⟩ := (ranged distance got).mp found
        exact ⟨Nat.le_add_right start distance, before, got, there, wrong⟩
      · rintro ⟨after, before, got, there, wrong⟩
        obtain ⟨distance, rfl⟩ := Nat.exists_eq_add_of_le after
        exact ⟨distance, rfl, got, (ranged distance got).mpr ⟨before, there⟩, wrong⟩

/-- The default check has seen that nothing is missing, so that only types are left to object to. -/
theorem uniform_reports :
    Reports
      (((incomplete header given).orElse (.atFirst (unaccepted header given))).orElse
        (.atFirst (unlike header.uniqueName given 0)))
      (uniform header given) := by
  refine default_reports.then fun accepted => (same_reports 0 1 given.length).congr fun cause => ?_
  have complete : ∀ other, ¬ incomplete header given other := by
    intro other missing
    exact (default_reports.ok_iff.mp accepted) other (.inl missing)
  have ranged : ∀ slot cause,
      (1 ≤ slot ∧ slot < given.length ∧ unlike header.uniqueName given 0 slot cause) ↔
        unlike header.uniqueName given 0 slot cause := by
    intro slot cause
    refine ⟨fun inside => inside.2.2, fun here => ⟨?_, ?_, here⟩⟩
    · obtain ⟨got, expected, first, there, different, -⟩ := here
      refine Nat.one_le_iff_ne_zero.mpr ?_
      rintro rfl
      rw [first] at there
      cases there
      exact different rfl
    · obtain ⟨got, expected, -, there, -⟩ := here
      exact (List.getElem?_eq_some_iff.mp there).1
  rw [Violation.orElse, Violation.atFirst_congr ranged]
  simp [complete]

theorem same_eq_ok_iff (complete : ∀ cause, ¬ incomplete header given cause)
    (first start stop : Nat) :
    same first start stop header given = .ok () ↔
      given.length ≤ first ∨ ∀ slot, start ≤ slot → slot < stop → slot < given.length →
        given[slot]? = given[first]? := by
  have present : ∀ slot : Nat, given[slot]? ≠ some none := by
    intro slot absent
    have none : ∀ slot cause, ¬ unset header.uniqueName given slot cause := by
      refine Violation.forall_not_atFirst_iff.mp fun cause missing => ?_
      refine complete cause (.inr ⟨fun other counted => complete other (.inl counted), missing⟩)
    exact none slot _ ⟨absent, rfl⟩
  have typed : ∀ slot < given.length, ∃ type : ValueType, given[slot]? = some (some type) := by
    intro slot inside
    cases found : given[slot] with
    | none => exact absurd (List.getElem?_eq_some_iff.mpr ⟨inside, found⟩) (present slot)
    | some type => exact ⟨type, List.getElem?_eq_some_iff.mpr ⟨inside, found⟩⟩
  have like : same first start stop header given = .ok () ↔
      ∀ slot cause, ¬ (start ≤ slot ∧ slot < stop ∧
        unlike header.uniqueName given first slot cause) := by
    rw [(same_reports first start stop).ok_iff, ← Violation.forall_not_atFirst_iff]
    simp [Violation.orElse, complete]
  rw [like]
  constructor
  · intro alike
    refine or_iff_not_imp_left.mpr fun reached slot after before inside => ?_
    obtain ⟨expected, reference⟩ := typed first (Nat.lt_of_not_le reached)
    obtain ⟨got, found⟩ := typed slot inside
    by_contra different
    refine alike slot _ ⟨after, before, got, expected, reference, found, ?_, rfl⟩
    rintro rfl
    exact different (found.trans reference.symm)
  · rintro agree slot cause ⟨after, before, got, expected, reference, found, different, -⟩
    rcases agree with beyond | alike
    · rw [List.getElem?_eq_none beyond] at reference
      cases reference
    · have equal := alike slot after before (List.getElem?_eq_some_iff.mp found).1
      rw [reference, found] at equal
      cases equal
      exact different rfl

/-- The checks report exactly the first violation. All of them look at the number of inputs first
and then for the first input without a type. The default check then reports the first input whose
type its slot does not admit; the uniform check goes on to the first type that is not the one of
slot 0; and the check for slots of one type reports the first slot of its range that carries another
type than the slot `first`, and is satisfied if there is no such slot. -/
theorem checks_report_first_violation (header : Header) (given : List (Option ValueType)) :
    Reports ((incomplete header given).orElse (.atFirst (unaccepted header given)))
      (TypeCheck.default header given) ∧
    Reports
      (((incomplete header given).orElse (.atFirst (unaccepted header given))).orElse
        (.atFirst (unlike header.uniqueName given 0)))
      (uniform header given) ∧
    ∀ first start stop,
      Reports
        ((incomplete header given).orElse (.atFirst fun slot cause =>
          start ≤ slot ∧ slot < stop ∧ unlike header.uniqueName given first slot cause))
        (same first start stop header given) ∧
      ((∀ cause, ¬ incomplete header given cause) →
        (same first start stop header given = .ok () ↔
          given.length ≤ first ∨ ∀ slot, start ≤ slot → slot < stop → slot < given.length →
            given[slot]? = given[first]?)) :=
  ⟨default_reports, uniform_reports, fun first start stop =>
    ⟨same_reports first start stop, fun complete => same_eq_ok_iff complete first start stop⟩⟩

end

end Dataflow.TypeCheck

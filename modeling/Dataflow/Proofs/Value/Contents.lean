import Dataflow.Dispatch

/-!
# What lists hold

A list declares a type for its elements, but nothing makes it keep to the declaration. Plain values
do, at every depth: all their elements can be produced and carry the declared type. Covered values
promise less, that an element which can be produced has a type admitted by the declared one; host
objects may occur among them, but none with arithmetic of a host's own.
-/

namespace Dataflow

/-- All elements can be produced, and carry the declared type. -/
def ListView.Uniform (view : ListView Value) : Prop :=
  ∀ index < view.length, ∃ item, view.element index = .ok item ∧ item.type = view.elementType

theorem ListView.mem_of_ofList {α : Type} {handle index : Nat} {elementType : ValueType}
    {items : List α} {item : α}
    (produced : (ListView.ofList handle elementType items).element index = .ok item) :
    item ∈ items := by
  simp only [ofList] at produced
  split at produced
  · rename_i found
    cases produced
    exact List.mem_toArray.mp (Array.mem_of_getElem? found)
  · cases produced

namespace Value

/-- Whether a value is neither a list nor an object of a host. Operators make no other values. -/
def isLiteral : Value → Bool
  | boolean _ | integer _ | double _ | string _ => true
  | list _ | object _ => false

/-- Literals, and lists of plain values of the declared type. -/
inductive Plain : Value → Prop
  | literal {value : Value} : value.isLiteral = true → Plain value
  | list {view : ListView Value} : view.Uniform →
      (∀ index < view.length, ∀ item, view.element index = .ok item → Plain item) →
      Plain (.list view)

/-- Values of conventional types, whose lists produce elements of admitted types only, at every
depth. -/
inductive Covered : Value → Prop
  | single {value : Value} : value.list? = none → value.type.Conventional → Covered value
  | list {view : ListView Value} :
      (∀ index < view.length, ∀ item, view.element index = .ok item →
        view.elementType.accepts item.type = true) →
      (∀ index < view.length, ∀ item, view.element index = .ok item → Covered item) →
      Covered (.list view)

theorem Covered.of_isLiteral {value : Value} (literal : value.isLiteral = true) :
    Covered value := by
  cases value with
  | list view => cases literal
  | object host => cases literal
  | _ => exact .single rfl nofun

theorem Covered.object {host : HostObject} (covered : Covered (.object host)) :
    host.type.Conventional := by
  cases covered with
  | single _ conventional => exact conventional

theorem Plain.not_object {host : HostObject} : ¬ Plain (.object host) := by
  rintro ⟨_, _⟩

theorem Plain.uniform {view : ListView Value} (plain : Plain (.list view)) : view.Uniform := by
  cases plain with
  | literal literal => cases literal
  | list uniform _ => exact uniform

theorem Plain.element {view : ListView Value} (plain : Plain (.list view)) {index : Nat}
    (inside : index < view.length) :
    ∃ item, view.element index = .ok item ∧ item.type = view.elementType ∧ Plain item := by
  cases plain with
  | literal literal => cases literal
  | list uniform items =>
      obtain ⟨item, produced, type⟩ := uniform index inside
      exact ⟨item, produced, type, items index inside item produced⟩

/-- Plain values carry concrete types. -/
theorem Plain.isConcrete {value : Value} (plain : Plain value) : value.type.isConcrete = true := by
  cases value with
  | object host => exact absurd plain Plain.not_object
  | _ => rfl

theorem Plain.elementType_isConcrete {view : ListView Value} (plain : Plain (.list view))
    (nonempty : 0 < view.length) : view.elementType.isConcrete = true := by
  obtain ⟨item, -, typed, plainItem⟩ := plain.element nonempty
  rw [← typed]
  exact plainItem.isConcrete

theorem Covered.element {view : ListView Value} (covered : Covered (.list view)) {index : Nat}
    (inside : index < view.length) {item : Value} (produced : view.element index = .ok item) :
    view.elementType.accepts item.type = true ∧ Covered item := by
  cases covered with
  | single noList _ => cases noList
  | list admitted items =>
      exact ⟨admitted index inside item produced, items index inside item produced⟩

/-- A list in memory of plain values of one type is plain. -/
theorem Plain.ofList {elementType : ValueType} {items : List Value}
    (each : ∀ item ∈ items, item.type = elementType ∧ Plain item) (handle : Nat) :
    Plain (.list (.ofList handle elementType items)) := by
  have found : ∀ index < (ListView.ofList handle elementType items).length, ∃ item ∈ items,
      (ListView.ofList handle elementType items).element index = .ok item := by
    intro index inside
    have stored : index < items.toArray.size := inside
    refine ⟨items.toArray[index], by simp, ?_⟩
    simp only [ListView.ofList, Array.getElem?_eq_getElem stored]
  refine .list (fun index inside => ?_) fun index inside item produced => ?_
  · obtain ⟨item, member, produced⟩ := found index inside
    exact ⟨item, produced, (each item member).1⟩
  · obtain ⟨other, member, produced'⟩ := found index inside
    rw [produced'] at produced
    cases produced
    exact (each item member).2

end Value

/-!
## What dispatch answers

An arithmetic operation that succeeds makes a number of the type of its first operand, unless the
arithmetic is a host's own: then the answer is whatever the host says.
-/

theorem cause_eq_of_guard {ε α : Type} {guard : Prop} [Decidable guard] {refusal cause : ε}
    {answer : α} (failed : (if guard then .error refusal else .ok answer) = Except.error cause) :
    cause = refusal := by
  split at failed <;> cases failed
  rfl

/-- Numbers of either kind can be divided by zero, and nothing else goes wrong with them. -/
theorem ArithmeticOperation.error_eq (operation : ArithmeticOperation) {cause : EvaluationError} :
    (∀ left right, operation.onIntegers left right = .error cause → cause = .divisionByZero) ∧
      ∀ left right, operation.onDoubles left right = .error cause → cause = .divisionByZero := by
  cases operation with
  | divide => exact ⟨fun _ _ => cause_eq_of_guard, fun _ _ => cause_eq_of_guard⟩
  | _ => exact ⟨nofun, nofun⟩

theorem Category.assertMember_self {category : Category} {type : ValueType}
    (member : type.categories.contains category = true) :
    category.assertMember category type = .ok () := by
  simp only [assertMember, ne_eq, not_true_eq_false, if_false, member, if_true]

/-- Arithmetic is found in the declaration of a type. -/
theorem Category.arithmetic?_of_ok {category : Category} {value : Value} {arithmetic : Arithmetic}
    (found : category.arithmeticOf value = .ok arithmetic) :
    value.type.arithmetic? = some arithmetic := by
  unfold arithmeticOf at found
  cases asserted : category.assertMember .number value.type with
  | ok _ =>
      rw [asserted, Outcome.ok_bind] at found
      split at found
      · rename_i declared
        cases found
        exact declared
      · cases found
  | error cause => rw [asserted] at found; cases found
  | fault reason => rw [asserted] at found; cases found

/-- Both operands are numbers of one built-in kind of arithmetic. -/
def Arithmetic.Serves : Arithmetic → Value → Value → Prop
  | .integer, .integer _, .integer _ => True
  | .double, .double _, .double _ => True
  | _, _, _ => False

/-- Whatever the arithmetic of hosts answers has a property. -/
def HostArithmetic.Answers [HostArithmetic] (property : Value → Prop) : Prop :=
  ∀ (serial : Nat) (operation : ArithmeticOperation) (left right answer : Value),
    HostArithmetic.calculate serial operation left right = .ok answer → property answer

theorem HostArithmetic.absent_answers (property : Value → Prop) : Answers property :=
  nofun

variable [HostArithmetic] {operation : ArithmeticOperation} {left right answer : Value}

/-- Conventional arithmetic answers for operands that it serves, unless it divides by zero, and
refuses all others. -/
theorem Arithmetic.calculate_conventional {arithmetic : Arithmetic}
    (operation : ArithmeticOperation) (left right : Value)
    (conventional : ∀ serial, arithmetic ≠ .host serial) :
    arithmetic.Serves left right ∧
        ((∃ answer, arithmetic.calculate operation left right = .ok answer ∧
          answer.isLiteral = true ∧ answer.type = left.type) ∨
        arithmetic.calculate operation left right = .error .divisionByZero) ∨
      ¬ arithmetic.Serves left right ∧
        arithmetic.calculate operation left right = .error (mismatch left right) := by
  fun_cases calculate arithmetic operation left right with
  | case1 word other =>
      cases done : operation.onIntegers word other with
      | ok answer => exact .inl ⟨trivial, .inl ⟨_, rfl, rfl, rfl⟩⟩
      | error cause =>
          obtain rfl := operation.error_eq.1 _ _ done
          exact .inl ⟨trivial, .inr rfl⟩
  | case2 double other =>
      cases done : operation.onDoubles double other with
      | ok answer => exact .inl ⟨trivial, .inl ⟨_, rfl, rfl, rfl⟩⟩
      | error cause =>
          obtain rfl := operation.error_eq.2 _ _ done
          exact .inl ⟨trivial, .inr rfl⟩
  | case3 serial => exact absurd rfl (conventional serial)
  | case4 =>
      refine .inr ⟨fun serves => ?_, rfl⟩
      unfold Serves at serves
      split at serves <;> simp_all

/-- Conventional arithmetic compares operands that it serves, and refuses all others. -/
theorem Arithmetic.compare_conventional {arithmetic : Arithmetic} (left right : Value)
    (conventional : ∀ serial, arithmetic ≠ .host serial) :
    arithmetic.Serves left right ∧ (∃ order?, arithmetic.compare left right = .ok order?) ∨
      ¬ arithmetic.Serves left right ∧
        arithmetic.compare left right = .error (mismatch left right) := by
  fun_cases compare arithmetic left right with
  | case1 => exact .inl ⟨trivial, _, rfl⟩
  | case2 => exact .inl ⟨trivial, _, rfl⟩
  | case3 serial => exact absurd rfl (conventional serial)
  | case4 =>
      refine .inr ⟨fun serves => ?_, rfl⟩
      unfold Serves at serves
      split at serves <;> simp_all

theorem Arithmetic.calculate_cases {arithmetic : Arithmetic}
    (calculated : arithmetic.calculate operation left right = .ok answer) :
    (answer.isLiteral = true ∧ answer.type = left.type) ∨
      ∃ serial, arithmetic = .host serial ∧
        HostArithmetic.calculate serial operation left right = .ok answer := by
  by_cases hosted : ∃ serial, arithmetic = .host serial
  · obtain ⟨serial, rfl⟩ := hosted
    exact .inr ⟨serial, rfl, calculated⟩
  · rcases calculate_conventional operation left right (not_exists.mp hosted) with
      ⟨-, ⟨_, done, literal⟩ | done⟩ | ⟨-, done⟩ <;> rw [done] at calculated <;> cases calculated
    exact .inl literal

/-- The answer of a category is a number of the type of the first operand, or a host's. -/
theorem Category.calculate_cases {category : Category}
    (calculated : category.calculate operation left right = .ok answer) :
    (answer.isLiteral = true ∧ answer.type = left.type) ∨
      ∃ serial, left.type.arithmetic? = some (.host serial) ∧
        HostArithmetic.calculate serial operation left right = .ok answer := by
  unfold calculate at calculated
  cases found : category.arithmeticOf left with
  | ok arithmetic =>
      rw [found, Outcome.ok_bind] at calculated
      cases done : arithmetic.calculate operation left right with
      | ok number =>
          rw [done] at calculated
          cases calculated
          refine (Arithmetic.calculate_cases done).imp_right ?_
          rintro ⟨serial, rfl, answered⟩
          exact ⟨serial, arithmetic?_of_ok found, answered⟩
      | error cause => rw [done] at calculated; cases calculated
  | error cause => rw [found] at calculated; cases calculated
  | fault reason => rw [found] at calculated; cases calculated

end Dataflow

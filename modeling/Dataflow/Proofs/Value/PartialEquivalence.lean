import Dataflow.Proofs.Value.Contents
import Dataflow.Proofs.Value.Equality

/-!
# Equality is a partial equivalence

Equality of values is symmetric and transitive and never crosses types. It is not reflexive: a NaN
equals nothing. Neither does an element that fails, and yet a list that holds one equals itself,
since handles are compared before elements. So equality is given by rules first, in which a list is
equal to another one by identity or element by element, and its laws are shown along these rules.
-/

namespace Dataflow

open Float.Model (UnpackedFloat)

/-! ## Doubles -/

namespace Double

/-- The number that a double stands for, unless it is a NaN. Both zeros stand for one number. -/
def number? (double : Float) : Option UnpackedFloat :=
  match double.toModel.unpack with
  | .notANumber => none
  | .zero _ => some (.zero .positive)
  | unpacked => some unpacked

theorem isSome_number? (double : Float) : (number? double).isSome = !double.isNaN := by
  change _ = !double.toModel.unpack.isNaN
  rw [number?]
  cases double.toModel.unpack <;> rfl

theorem compare_infinity_eq_iff (sign other : UnpackedFloat.Sign) :
    (UnpackedFloat.infinity sign).compare (.infinity other) = some .eq ↔
      UnpackedFloat.infinity sign = .infinity other := by
  cases sign with
  | positive =>
      cases other with
      | positive => exact iff_of_true rfl rfl
      | negative => exact iff_of_false nofun nofun
  | negative =>
      cases other with
      | positive => exact iff_of_false nofun nofun
      | negative => exact iff_of_true rfl rfl

/-- Numbers of one sign are compared by exponent first and then by mantissa. -/
theorem compare_finite_eq_iff {sign other : UnpackedFloat.Sign} {mantissa mantissa' : Nat}
    {exponent exponent' : Int} (positive : 0 < mantissa) (positive' : 0 < mantissa') :
    (UnpackedFloat.finite sign mantissa exponent positive).compare
        (.finite other mantissa' exponent' positive') = some .eq ↔
      UnpackedFloat.finite sign mantissa exponent positive =
        .finite other mantissa' exponent' positive' := by
  have ordered : (compare exponent exponent').then (compare mantissa mantissa') = .eq ↔
      mantissa = mantissa' ∧ exponent = exponent' := by
    rw [Ordering.then_eq_eq, Int.compare_eq_eq, Nat.compare_eq_eq, and_comm]
  rw [UnpackedFloat.finite.injEq, ← ordered]
  cases sign with
  | positive =>
      cases other with
      | positive => exact Option.some_inj.trans (and_iff_right rfl).symm
      | negative => exact iff_of_false nofun nofun
  | negative =>
      cases other with
      | positive => exact iff_of_false nofun nofun
      | negative =>
          exact (Option.some_inj.trans Ordering.swap_eq_eq).trans (and_iff_right rfl).symm

/-- Doubles are equal when they stand for one number. -/
theorem beq_iff {left right : Float} :
    (left == right) = true ↔ (number? left).isSome = true ∧ number? left = number? right := by
  change (left.toModel.unpack.compare right.toModel.unpack == some .eq) = true ↔ _
  rw [beq_iff_eq, number?, number?]
  generalize left.toModel.unpack = first
  generalize right.toModel.unpack = second
  cases first with
  | notANumber => exact iff_of_false nofun nofun
  | infinity sign =>
      cases second with
      | infinity other =>
          exact ((compare_infinity_eq_iff _ _).trans Option.some_inj.symm).trans
            (and_iff_right rfl).symm
      | _ => cases sign <;> exact iff_of_false nofun nofun
  | zero sign =>
      cases second with
      | zero other => exact iff_of_true rfl ⟨rfl, rfl⟩
      | notANumber => exact iff_of_false nofun nofun
      | infinity other => cases other <;> exact iff_of_false nofun nofun
      | finite other => cases other <;> exact iff_of_false nofun nofun
  | finite sign mantissa exponent positive =>
      cases second with
      | finite other mantissa' exponent' positive' =>
          exact ((compare_finite_eq_iff _ _).trans Option.some_inj.symm).trans
            (and_iff_right rfl).symm
      | infinity other => cases sign <;> cases other <;> exact iff_of_false nofun nofun
      | _ => cases sign <;> exact iff_of_false nofun nofun

theorem beq_symm {left right : Float} (equal : (left == right) = true) :
    (right == left) = true := by
  obtain ⟨present, same⟩ := beq_iff.mp equal
  exact beq_iff.mpr ⟨same ▸ present, same.symm⟩

theorem beq_trans {first second third : Float} (equal : (first == second) = true)
    (equal' : (second == third) = true) : (first == third) = true := by
  obtain ⟨present, same⟩ := beq_iff.mp equal
  obtain ⟨-, same'⟩ := beq_iff.mp equal'
  exact beq_iff.mpr ⟨present, same.trans same'⟩

theorem not_isNaN_of_beq {left right : Float} (equal : (left == right) = true) :
    left.isNaN = false ∧ right.isNaN = false := by
  obtain ⟨present, same⟩ := beq_iff.mp equal
  have present' : (number? right).isSome = true := same ▸ present
  rw [isSome_number?, Bool.not_eq_true'] at present present'
  exact ⟨present, present'⟩

theorem beq_self_iff {double : Float} : (double == double) = true ↔ double.isNaN = false := by
  rw [beq_iff, isSome_number?, Bool.not_eq_true', and_iff_left rfl]

end Double

/-! ## The rules of equality -/

theorem HostObject.sameAs_iff {left right : HostObject} (plain : left.equality = none) :
    left.sameAs right = true ↔ left.type = right.type ∧ left.name = right.name := by
  rw [sameAs, plain, Bool.and_eq_true, beq_iff_eq, beq_iff_eq]

namespace Value

/-- Values that are equal, by rules for each kind of value. -/
inductive Same : Value → Value → Prop
  | boolean (truth : Bool) : Same (boolean truth) (boolean truth)
  | integer (number : Int32) : Same (integer number) (integer number)
  | double {left right : Float} : (left == right) = true → Same (double left) (double right)
  | string (text : String) : Same (string text) (string text)
  | object {left right : HostObject} : left.sameAs right = true → Same (object left) (object right)
  /-- One list, whatever its elements are. -/
  | shared {left right : ListView Value} : left.handle = right.handle →
      Same (list left) (list right)
  /-- Lists of one element type and one length that produce all of their elements. -/
  | elementwise {left right : ListView Value} : left.elementType = right.elementType →
      left.length = right.length →
      (∀ index < left.length, ∃ item, left.element index = .ok item) →
      (∀ index < left.length, ∃ other, right.element index = .ok other) →
      (∀ index < left.length, ∀ item other, left.element index = .ok item →
        right.element index = .ok other → Same item other) →
      Same (list left) (list right)

/-- The rules describe what equality answers. -/
theorem equal_iff_same {first second : Value} :
    (first.equal second).answer = true ↔ first.Same second := by
  constructor
  · intro equal
    induction first using Value.inductionOn generalizing second with
    | plain first noList =>
        cases first with
        | boolean truth =>
            cases second with
            | boolean other => exact eq_of_beq equal ▸ .boolean truth
            | _ => cases equal
        | integer number =>
            cases second with
            | integer other => exact eq_of_beq equal ▸ .integer number
            | _ => cases equal
        | double number =>
            cases second with
            | double other => exact .double equal
            | _ => cases equal
        | string text =>
            cases second with
            | string other => exact eq_of_beq equal ▸ .string text
            | _ => cases equal
        | list view => cases noList
        | object host =>
            cases second with
            | object other => exact .object equal
            | _ => cases equal
    | list left elements =>
        cases second with
        | list right =>
            obtain shared | ⟨elementType, length, pairwise⟩ := (equal_list_iff left right).mp equal
            · exact .shared shared
            have produced : ∀ index < left.length, ∃ item other, left.element index = .ok item ∧
                right.element index = .ok other ∧ (item.equal other).answer = true :=
              fun index inside => (elementEqual_iff _ _).mp (pairwise index inside)
            refine .elementwise elementType length (fun index inside => ?_)
              (fun index inside => ?_) fun index inside item other itemEq otherEq => ?_
            · obtain ⟨item, -, itemEq, -, -⟩ := produced index inside
              exact ⟨item, itemEq⟩
            · obtain ⟨-, other, -, otherEq, -⟩ := produced index inside
              exact ⟨other, otherEq⟩
            · obtain ⟨item', other', itemEq', otherEq', equal⟩ := produced index inside
              rw [itemEq] at itemEq'
              rw [otherEq] at otherEq'
              cases itemEq'
              cases otherEq'
              exact elements index item itemEq equal
        | _ => cases equal
  · intro same
    induction same with
    | boolean truth => exact beq_self_eq_true truth
    | integer number => exact beq_self_eq_true number
    | double equal => exact equal
    | string text => exact beq_self_eq_true text
    | object equal => exact equal
    | shared handles => exact (equal_list_iff _ _).mpr (.inl handles)
    | elementwise elementType length items others _ induction =>
        refine (equal_list_iff _ _).mpr (.inr ⟨elementType, length, fun index inside => ?_⟩)
        obtain ⟨item, itemEq⟩ := items index inside
        obtain ⟨other, otherEq⟩ := others index inside
        exact (elementEqual_iff _ _).mpr
          ⟨item, other, itemEq, otherEq, induction index inside item other itemEq otherEq⟩

/-- Values whose objects leave equality to the default, and whose lists stand on a heap: a handle is
that of one list only. -/
inductive Resident (heap : Nat → ListView Value) : Value → Prop
  | literal {value : Value} : value.isLiteral = true → Resident heap value
  | object {host : HostObject} : host.equality = none → Resident heap (object host)
  | list {view : ListView Value} : heap view.handle = view →
      (∀ index < view.length, ∀ item, view.element index = .ok item → Resident heap item) →
      Resident heap (list view)

namespace Resident

variable {heap : Nat → ListView Value} {value : Value} {host : HostObject} {view : ListView Value}

theorem equality (resident : Resident heap (.object host)) : host.equality = none := by
  cases resident with
  | literal literal => cases literal
  | object plain => exact plain

theorem heap_eq (resident : Resident heap (.list view)) : heap view.handle = view := by
  cases resident with
  | literal literal => cases literal
  | list stored _ => exact stored

theorem element (resident : Resident heap (.list view)) {index : Nat} (inside : index < view.length)
    {item : Value} (produced : view.element index = .ok item) : Resident heap item := by
  cases resident with
  | literal literal => cases literal
  | list _ items => exact items index inside item produced

/-- Two lists with one handle are one list. -/
theorem eq_of_handle {other : ListView Value} (resident : Resident heap (.list view))
    (resident' : Resident heap (.list other)) (handles : view.handle = other.handle) :
    view = other := by
  rw [← resident.heap_eq, handles, resident'.heap_eq]

end Resident

/-! ## The laws of equality -/

namespace Same

variable {heap : Nat → ListView Value} {first second third : Value}

theorem symm (same : first.Same second) (resident : first.Resident heap)
    (resident' : second.Resident heap) : second.Same first := by
  induction same with
  | boolean truth => exact .boolean truth
  | integer number => exact .integer number
  | double equal => exact .double (Double.beq_symm equal)
  | string text => exact .string text
  | object equal =>
      obtain ⟨type, name⟩ := (HostObject.sameAs_iff resident.equality).mp equal
      exact .object ((HostObject.sameAs_iff resident'.equality).mpr ⟨type.symm, name.symm⟩)
  | shared handles => exact .shared handles.symm
  | elementwise elementType length items others _ induction =>
      rw [length] at items others induction
      refine .elementwise elementType.symm length.symm others items
        fun index inside other item otherEq itemEq => ?_
      exact induction index inside item other itemEq otherEq
        (resident.element (length ▸ inside) itemEq) (resident'.element inside otherEq)

/-- Where lists share a handle they are one list, and so identity may stand on either side. -/
theorem trans (same : first.Same second) (same' : second.Same third)
    (resident : first.Resident heap) (resident' : second.Resident heap)
    (resident'' : third.Resident heap) : first.Same third := by
  induction same generalizing third with
  | boolean truth => exact same'
  | integer number => exact same'
  | double equal =>
      cases same' with
      | double equal' => exact .double (Double.beq_trans equal equal')
  | string text => exact same'
  | object equal =>
      cases same' with
      | object equal' =>
          obtain ⟨type, name⟩ := (HostObject.sameAs_iff resident.equality).mp equal
          obtain ⟨type', name'⟩ := (HostObject.sameAs_iff resident'.equality).mp equal'
          exact .object ((HostObject.sameAs_iff resident.equality).mpr
            ⟨type.trans type', name.trans name'⟩)
  | shared handles =>
      cases resident.eq_of_handle resident' handles
      exact same'
  | elementwise elementType length items others pairwise induction =>
      cases same' with
      | shared handles =>
          cases resident'.eq_of_handle resident'' handles
          exact .elementwise elementType length items others pairwise
      | elementwise elementType' length' items' others' pairwise' =>
          rw [← length] at others' pairwise'
          refine .elementwise (elementType.trans elementType') (length.trans length') items others'
            fun index inside item last itemEq lastEq => ?_
          obtain ⟨other, otherEq⟩ := others index inside
          exact induction index inside item other itemEq otherEq
            (pairwise' index inside other last otherEq lastEq) (resident.element inside itemEq)
            (resident'.element (length ▸ inside) otherEq)
            (resident''.element (length' ▸ length ▸ inside) lastEq)

theorem type_eq (same : first.Same second) (resident : first.Resident heap) :
    first.type = second.type := by
  cases same with
  | object equal => exact ((HostObject.sameAs_iff resident.equality).mp equal).1
  | _ => rfl

theorem self_iff (resident : first.Resident heap) :
    first.Same first ↔ ∀ number, first = .double number → number.isNaN = false := by
  cases first with
  | boolean truth => exact iff_of_true (.boolean truth) nofun
  | integer number => exact iff_of_true (.integer number) nofun
  | string text => exact iff_of_true (.string text) nofun
  | list view => exact iff_of_true (.shared rfl) nofun
  | object host =>
      exact iff_of_true (.object ((HostObject.sameAs_iff resident.equality).mpr ⟨rfl, rfl⟩)) nofun
  | double number =>
      constructor
      · rintro (_ | _ | equal) _ ⟨⟩
        exact Double.beq_self_iff.mp equal
      · intro notNaN
        exact .double (Double.beq_self_iff.mpr (notNaN number rfl))

end Same

/-- Elements that equal no others: those that cannot be produced, and NaNs. -/
def Unmatched (element : Except EvaluationError Value) : Prop :=
  ∀ item, element = .ok item → ∃ number, item = .double number ∧ number.isNaN = true

theorem Unmatched.not_same {left right : Except EvaluationError Value}
    (unmatched : Unmatched left ∨ Unmatched right) {item other : Value} (itemEq : left = .ok item)
    (otherEq : right = .ok other) : ¬ item.Same other := by
  intro same
  rcases unmatched with unmatched | unmatched
  · obtain ⟨number, rfl, isNaN⟩ := unmatched item itemEq
    obtain _ | _ | equal := same
    cases isNaN.symm.trans (Double.not_isNaN_of_beq equal).1
  · obtain ⟨number, rfl, isNaN⟩ := unmatched other otherEq
    obtain _ | _ | equal := same
    cases isNaN.symm.trans (Double.not_isNaN_of_beq equal).2

/-- Lists with handles of their own are unequal if an element of one of them equals no other. -/
theorem not_same_of_handle_ne {left right : ListView Value} (separate : left.handle ≠ right.handle)
    (unmatched : (∃ index < left.length, Unmatched (left.element index)) ∨
      ∃ index < right.length, Unmatched (right.element index)) :
    ¬ (list left).Same (list right) := by
  intro same
  cases same with
  | shared handles => exact separate handles
  | elementwise _ length items others pairwise =>
      obtain ⟨index, inside, unmatched⟩ : ∃ index < left.length,
          Unmatched (left.element index) ∨ Unmatched (right.element index) := by
        rcases unmatched with ⟨index, inside, unmatched⟩ | ⟨index, inside, unmatched⟩
        · exact ⟨index, inside, .inl unmatched⟩
        · exact ⟨index, length ▸ inside, .inr unmatched⟩
      obtain ⟨item, itemEq⟩ := items index inside
      obtain ⟨other, otherEq⟩ := others index inside
      exact Unmatched.not_same unmatched itemEq otherEq
        (pairwise index inside item other itemEq otherEq)

/-- Equality is symmetric and transitive and keeps to one type. What does not equal itself is a NaN;
a list does, but with an element that equals no other it equals no list but itself. -/
theorem equal_partialEquivalence {heap : Nat → ListView Value} {first second third : Value}
    (resident : first.Resident heap) (resident' : second.Resident heap)
    (resident'' : third.Resident heap) :
    ((first.equal second).answer = true → (second.equal first).answer = true) ∧
    ((first.equal second).answer = true → (second.equal third).answer = true →
      (first.equal third).answer = true) ∧
    ((first.equal second).answer = true → first.type = second.type) ∧
    ((first.equal first).answer = true ↔
      ∀ number, first = .double number → number.isNaN = false) ∧
    ∀ left right : ListView Value, left.handle ≠ right.handle →
      (∃ index < left.length, Unmatched (left.element index)) ∨
        (∃ index < right.length, Unmatched (right.element index)) →
      ((list left).equal (list right)).answer = false := by
  refine ⟨?symmetric, ?transitive, ?type, ?reflexive, ?separate⟩
  case symmetric =>
    intro equal
    exact equal_iff_same.mpr ((equal_iff_same.mp equal).symm resident resident')
  case transitive =>
    intro equal equal'
    have same := (equal_iff_same.mp equal).trans (equal_iff_same.mp equal') resident resident'
    exact equal_iff_same.mpr (same resident'')
  case type => exact fun equal => (equal_iff_same.mp equal).type_eq resident
  case reflexive => exact equal_iff_same.trans (Same.self_iff resident)
  case separate =>
    intro left right separate unmatched
    exact Bool.eq_false_iff.mpr fun equal =>
      not_same_of_handle_ne separate unmatched (equal_iff_same.mp equal)

/-- A list that holds a NaN, under the handle 0, and under other handles lists that hold this
list. -/
def nested : Nat → ListView Value
  | 0 => .ofList 0 .double [.double (0 / 0)]
  | handle + 1 => .ofList (handle + 1) .list [.list (.ofList 0 .double [.double (0 / 0)])]

theorem equal_partialEquivalence_nested :
    ((list (nested 1)).equal (list (nested 2))).answer = true ∧
      ((list (nested 2)).equal (list (nested 3))).answer = true ∧
      ((list (nested 1)).equal (list (nested 3))).answer = true ∧
      ((list (nested 0)).equal (list (nested 0))).answer = true ∧
      ((list (nested 0)).equal (list (.ofList 4 .double [.double (0 / 0)]))).answer = false := by
  have inner : (list (nested 0)).Resident nested := by
    refine .list rfl fun index _ item produced => ?_
    cases List.mem_singleton.mp (ListView.mem_of_ofList produced)
    exact .literal rfl
  have outer : ∀ handle, (list (nested (handle + 1))).Resident nested := by
    refine fun handle => .list rfl fun index _ item produced => ?_
    cases List.mem_singleton.mp (ListView.mem_of_ofList produced)
    exact inner
  have early : ((list (nested 1)).equal (list (nested 2))).answer = true := rfl
  have late : ((list (nested 2)).equal (list (nested 3))).answer = true := rfl
  obtain ⟨-, transitive, -, -, -⟩ := equal_partialEquivalence (outer 0) (outer 1) (outer 2)
  obtain ⟨-, -, -, reflexive, separate⟩ := equal_partialEquivalence inner inner inner
  refine ⟨early, late, transitive early late, reflexive.mpr nofun, separate _ _ (by decide) ?_⟩
  refine .inl ⟨0, by decide, fun item produced => ⟨0 / 0, ?_, by decide⟩⟩
  cases produced
  rfl

end Value

end Dataflow

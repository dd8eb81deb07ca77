import Dataflow.Value
import Mathlib.Data.Nat.Find

/-!
# When values are equal

Values are nested through views that produce their elements on demand, so induction on a value goes
from the elements that its view produces to the value itself. The central theorem states equality
of lists without the order in which elements are pulled.
-/

namespace Dataflow

/-- Induction on values: a list may use what holds of each element that it produces. -/
@[elab_as_elim]
theorem Value.inductionOn {motive : Value → Prop} (value : Value)
    (plain : ∀ value : Value, value.list? = none → motive value)
    (list : ∀ view : ListView Value,
      (∀ index item, view.element index = .ok item → motive item) → motive (.list view)) :
    motive value := by
  refine @Value.rec motive
    (fun view => ∀ index item, view.element index = .ok item → motive item)
    (fun produced => ∀ item, produced = .ok item → motive item)
    ?_ ?_ ?_ ?_ ?_ ?_ ?_ ?_ ?_ value
  · exact fun truth => plain (.boolean truth) rfl
  · exact fun number => plain (.integer number) rfl
  · exact fun number => plain (.double number) rfl
  · exact fun text => plain (.string text) rfl
  · exact fun view elements => list view elements
  · exact fun host => plain (.object host) rfl
  · exact fun _ _ _ _ elements => elements
  · intro cause item failed
    cases failed
  · intro answer holds item produced
    cases produced
    exact holds

namespace Pulling

variable {α ε : Type}

/-- All elements are produced when none of them fails. -/
theorem isOk_elements_iff (handle : Nat) (element : Nat → Except ε α) (start count : Nat) :
    (elements handle element start count).answer.isOk = true ↔
      ∀ index, start ≤ index → index < start + count → (element index).isOk = true := by
  induction count generalizing start with
  | zero =>
      refine ⟨fun _ index _ _ => ?_, fun _ => rfl⟩
      omega
  | succ count induction =>
      rw [elements, answer_bind]
      cases first : element start with
      | error cause =>
          refine ⟨fun impossible => by simp [Except.isOk, Except.toBool] at impossible,
            fun all => ?_⟩
          have produced := all start (Nat.le_refl start) (by omega)
          simp [first, Except.isOk, Except.toBool] at produced
      | ok item =>
          have kept :
              ((elements handle element (start + 1) count).answer.map (item :: ·)).isOk =
                (elements handle element (start + 1) count).answer.isOk := by
            cases (elements handle element (start + 1) count).answer <;> rfl
          rw [answer_map, kept, induction]
          constructor
          · intro rest index lower upper
            rcases Nat.eq_or_lt_of_le lower with rfl | later
            · simp [first, Except.isOk, Except.toBool]
            · exact rest index later (by omega)
          · intro all index lower upper
            exact all index (by omega) (by omega)

/-- A test holds throughout when it holds of each index. -/
theorem answer_holds_iff (test : Nat → Pulling Bool) (start count : Nat) :
    (holds test start count).answer = true ↔
      ∀ index, start ≤ index → index < start + count → (test index).answer = true := by
  induction count generalizing start with
  | zero =>
      refine ⟨fun _ index _ _ => ?_, fun _ => rfl⟩
      omega
  | succ count induction =>
      rw [holds, answer_bind]
      cases first : (test start).answer with
      | false =>
          refine ⟨fun impossible => by simp at impossible, fun all => ?_⟩
          have held := all start (Nat.le_refl start) (by omega)
          rw [first] at held
          exact held
      | true =>
          simp only [if_true]
          rw [induction]
          constructor
          · intro rest index lower upper
            rcases Nat.eq_or_lt_of_le lower with rfl | later
            · exact first
            · exact rest index later (by omega)
          · intro all index lower upper
            exact all index (by omega) (by omega)

end Pulling

/-- Elements are equal when both are produced and carry equal values. -/
theorem elementEqual_iff (left right : Except EvaluationError Value) :
    (elementEqual left right).answer = true ↔
      ∃ item other, left = .ok item ∧ right = .ok other ∧ (item.equal other).answer = true := by
  cases left with
  | error cause => simp [elementEqual]
  | ok item =>
      cases right with
      | error cause => simp [elementEqual]
      | ok other => simp [elementEqual]

namespace Value

/-- Lists are equal when they are one list, or agree in element type and length and produce equal
elements throughout. -/
theorem equal_list_iff (left right : ListView Value) :
    ((list left).equal (list right)).answer = true ↔
      left.handle = right.handle ∨
        left.elementType = right.elementType ∧ left.length = right.length ∧
          ∀ index < left.length,
            (elementEqual (left.element index) (right.element index)).answer = true := by
  obtain ⟨handle, elementType, length, element⟩ := left
  rw [equal]
  by_cases shared : handle = right.handle
  · simp [shared]
  by_cases differ : elementType ≠ right.elementType ∨ length ≠ right.length
  · rw [if_neg shared, if_pos differ]
    rcases differ with differ | differ
    · simp [shared, differ]
    · simp [shared, differ]
  · rw [if_neg shared, if_neg differ]
    rw [not_or, Classical.not_not, Classical.not_not] at differ
    obtain ⟨sameType, sameLength⟩ := differ
    simp only [shared, sameType, sameLength, false_or, true_and, Pulling.answer_bind,
      ListView.items]
    constructor
    · intro equal index inside
      split at equal
      · exact (Pulling.answer_holds_iff _ 0 right.length).mp equal index (Nat.zero_le index)
          (by omega)
      · simp at equal
    · intro pairwise
      have produced : ∀ index, 0 ≤ index → index < 0 + right.length →
          (element index).isOk = true ∧ (right.element index).isOk = true := by
        intro index _ upper
        obtain ⟨item, other, itemEq, otherEq, -⟩ :=
          (elementEqual_iff _ _).mp (pairwise index (by omega))
        rw [itemEq, otherEq]
        exact ⟨rfl, rfl⟩
      have lefts := (Pulling.isOk_elements_iff handle element 0 right.length).mpr
        fun index lower upper => (produced index lower upper).1
      have rights := (Pulling.isOk_elements_iff right.handle right.element 0 right.length).mpr
        fun index lower upper => (produced index lower upper).2
      rw [lefts, rights]
      simp only [Bool.and_self, if_true]
      exact (Pulling.answer_holds_iff _ 0 right.length).mpr
        fun index _ upper => pairwise index (by omega)

end Value

/-!
## What comparing lists pulls

To compare two lists is to pull the elements of the one and then those of the other, each in order
and up to the first element that fails; but lists that are known to be equal or unequal before are
left alone. Elements without elements of their own pull nothing more when they are compared.
-/

/-- How many elements are tried when all of them are asked for in turn: all, or those up to the
first one that fails. -/
inductive ListView.Tries {α : Type} (view : ListView α) : Nat → Prop
  | all : (∀ index < view.length, ∃ item, view.element index = .ok item) → Tries view view.length
  | upTo {index : Nat} {cause : EvaluationError} : index < view.length →
      (∀ earlier < index, ∃ item, view.element earlier = .ok item) →
      view.element index = .error cause → Tries view (index + 1)

namespace Pulling

variable {α ε : Type}

/-- Elements that are produced are pulled in order before the rest. -/
theorem pulls_elements_add (handle : Nat) (element : Nat → Except ε α) {start first : Nat}
    (produced : ∀ index, start ≤ index → index < start + first → ∃ item, element index = .ok item)
    (rest : Nat) :
    (elements handle element start (first + rest)).pulls =
      (List.range' start first).map (Pull.mk handle) ++
        (elements handle element (start + first) rest).pulls := by
  induction first generalizing start with
  | zero => rw [Nat.zero_add, Nat.add_zero, List.range'_zero, List.map_nil, List.nil_append]
  | succ first induction =>
      obtain ⟨item, here⟩ := produced start (Nat.le_refl start) (by omega)
      have later := @induction (start + 1) fun index lower upper =>
        produced index (by omega) (by omega)
      rw [Nat.succ_add, elements, pulls_bind, here, pulls_map, later, List.range'_succ,
        List.map_cons, List.cons_append, Nat.add_assoc start 1 first, Nat.add_comm 1 first]
      rfl

theorem pulls_holds {test : Nat → Pulling Bool} {start count : Nat}
    (quiet : ∀ index, start ≤ index → index < start + count → (test index).pulls = []) :
    (holds test start count).pulls = [] := by
  induction count generalizing start with
  | zero => rfl
  | succ count induction =>
      rw [holds, pulls_bind, quiet start (Nat.le_refl start) (by omega), List.nil_append]
      split
      · exact induction fun index lower upper => quiet index (by omega) (by omega)
      · rfl

end Pulling

namespace ListView

variable {α : Type} {view : ListView α} {tried : Nat}

theorem Tries.pulls_items (tries : view.Tries tried) :
    view.items.pulls = (List.range tried).map (Pull.mk view.handle) := by
  rw [items, List.range_eq_range']
  cases tries with
  | all produced =>
      have all := @Pulling.pulls_elements_add α _ view.handle view.element 0 view.length
        (fun index _ upper => produced index (by omega)) 0
      rwa [Pulling.elements, Pulling.pulls_pure, List.append_nil] at all
  | @upTo index cause inside produced failed =>
      obtain ⟨rest, lengths⟩ := Nat.exists_eq_add_of_lt inside
      rw [lengths, Nat.add_assoc, Pulling.pulls_elements_add view.handle view.element
        (fun earlier _ upper => produced earlier (by omega)) (rest + 1), Nat.zero_add,
        List.range'_concat, List.map_append, Pulling.elements, Pulling.pulls_bind, failed]
      simp [Pulling.access]

theorem exists_tries (view : ListView α) : ∃ tried, view.Tries tried := by
  by_cases produced : ∀ index < view.length, ∃ item, view.element index = .ok item
  · exact ⟨_, .all produced⟩
  · have fails : ∃ index, index < view.length ∧ ¬ ∃ item, view.element index = .ok item := by
      simpa only [Classical.not_forall, exists_prop] using produced
    classical
    obtain ⟨inside, unproduced⟩ := Nat.find_spec fails
    cases element : view.element (Nat.find fails) with
    | ok item => exact absurd ⟨item, element⟩ unproduced
    | error cause =>
        refine ⟨_, .upTo inside (fun earlier before => ?_) element⟩
        have least := Nat.find_min fails before
        exact Classical.not_not.mp fun missing => least ⟨by omega, missing⟩

end ListView

namespace Value

variable {left right : ListView Value}

/-- A value without elements is compared without a pull. -/
theorem pulls_equal_of_plain {first second : Value} (plain : first.list? = none) :
    (first.equal second).pulls = [] := by
  cases first with
  | list view => cases plain
  | _ => cases second <;> rfl

theorem pulls_elementEqual_of_plain {first second : Except EvaluationError Value}
    (plain : ∀ view, first ≠ .ok (.list view)) : (elementEqual first second).pulls = [] := by
  cases first with
  | error cause => rfl
  | ok item =>
      cases second with
      | error cause => rfl
      | ok other =>
          refine pulls_equal_of_plain ?_
          cases item with
          | list view => exact absurd rfl (plain view)
          | _ => rfl

/-- Lists that share a handle, or differ in element type or length, are left alone. -/
theorem pulls_equal_of_decided (decided : left.handle = right.handle ∨
      left.elementType ≠ right.elementType ∨ left.length ≠ right.length) :
    ((list left).equal (list right)).pulls = [] := by
  obtain ⟨handle, elementType, length, element⟩ := left
  rw [equal]
  by_cases shared : handle = right.handle
  · rw [if_pos shared]
    rfl
  · rw [if_neg shared, if_pos (decided.resolve_left shared)]
    rfl

/-- Other lists have their elements pulled, those of the right list last. -/
theorem pulls_equal_of_undecided (separate : left.handle ≠ right.handle)
    (elementType : left.elementType = right.elementType) (length : left.length = right.length)
    (plain : ∀ index < left.length, ∀ view, left.element index ≠ .ok (.list view)) :
    ((list left).equal (list right)).pulls = left.items.pulls ++ right.items.pulls := by
  obtain ⟨handle, type, count, element⟩ := left
  rw [equal, if_neg separate, if_neg (not_or.mpr ⟨not_not_intro elementType, not_not_intro length⟩),
    Pulling.pulls_bind, Pulling.pulls_bind]
  congr 1
  refine List.append_right_eq_self.mpr ?_
  split
  · refine Pulling.pulls_holds fun index _ upper => pulls_elementEqual_of_plain (plain index ?_)
    simpa using upper
  · rfl

end Value

end Dataflow

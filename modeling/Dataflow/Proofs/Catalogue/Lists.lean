import Dataflow.Proofs.Catalogue.Yields
import Dataflow.Proofs.Value.Equality

/-!
# Operators on lists

Equality and inequality of lists show what comparing them shows, pulls included, and do not fail
themselves. An element is pulled once if its index is in range and not at all otherwise; lengths and
types are known without a pull. The length that an operator states is cut off at the greatest
integer, so that indices below it are in range, and all those in range are below it unless it was
cut off.
-/

namespace Dataflow.Catalogue

variable {first second list position : Variable} {left right : Value} {cause : EvaluationError}
  {trace between later : Trace}

/-! ## Comparison -/

theorem equals_after (reads : first.value.after trace = (.ok left, between))
    (reads' : second.value.after between = (.ok right, later)) :
    (equals.evaluate [first, second]).after trace =
      (.ok (.boolean (left.equal right).answer), later.pulled (left.equal right).pulls) := by
  rw [equals, safe_evaluate rfl, Run.after_bind_of_ok (Slots.value_after rfl rfl rfl reads),
    Run.after_bind_of_ok (Slots.value_after rfl rfl rfl reads'), ← bind_pure_comp,
    Run.after_bind_of_ok (Run.after_ofPulling _ later)]
  rfl

/-- Inequality evaluates equality once, and turns its answer around. -/
theorem notEquals_after (reads : first.value.after trace = (.ok left, between))
    (reads' : second.value.after between = (.ok right, later)) :
    (notEquals.evaluate [first, second]).after trace =
      (.ok (.boolean !(left.equal right).answer), later.pulled (left.equal right).pulls) := by
  rw [notEquals, Operator.composition, Operator.evaluate, Operator.evaluateAll, bind_assoc,
    Run.after_bind_of_ok (equals_after reads reads')]
  rfl

/-- Lists are equal when they are one list, or agree in element type and length and produce elements
that are pairwise equal. If this is known before, nothing is pulled; otherwise the elements of the
left list are tried in turn, and then those of the right list. Equality and inequality answer and
pull alike, and do not fail. -/
theorem compare_lists {left right : ListView Value}
    (plain : ∀ index < left.length, ∀ view, left.element index ≠ .ok (.list view)) :
    (((Value.list left).equal (.list right)).answer = true ↔
      left.handle = right.handle ∨
        left.elementType = right.elementType ∧ left.length = right.length ∧
          ∀ index < left.length, ∃ item other, left.element index = .ok item ∧
            right.element index = .ok other ∧ (item.equal other).answer = true) ∧
    (left.handle = right.handle ∨ left.elementType ≠ right.elementType ∨
        left.length ≠ right.length → ((Value.list left).equal (.list right)).pulls = []) ∧
    (left.handle ≠ right.handle → left.elementType = right.elementType →
      left.length = right.length → ∃ lefts rights, left.Tries lefts ∧ right.Tries rights ∧
        ((Value.list left).equal (.list right)).pulls =
          (List.range lefts).map (Pull.mk left.handle) ++
            (List.range rights).map (Pull.mk right.handle)) ∧
    ∀ (first second : Variable) (trace between later : Trace),
      first.value.after trace = (.ok (.list left), between) →
      second.value.after between = (.ok (.list right), later) →
      (equals.evaluate [first, second]).after trace =
          (.ok (.boolean ((Value.list left).equal (.list right)).answer),
            later.pulled ((Value.list left).equal (.list right)).pulls) ∧
        (notEquals.evaluate [first, second]).after trace =
          (.ok (.boolean !((Value.list left).equal (.list right)).answer),
            later.pulled ((Value.list left).equal (.list right)).pulls) := by
  refine ⟨?answer, Value.pulls_equal_of_decided, ?pulls, ?operators⟩
  case answer =>
    simp only [Value.equal_list_iff, elementEqual_iff]
  case pulls =>
    intro separate elementType length
    obtain ⟨lefts, tries⟩ := left.exists_tries
    obtain ⟨rights, tries'⟩ := right.exists_tries
    refine ⟨lefts, rights, tries, tries', ?_⟩
    rw [Value.pulls_equal_of_undecided separate elementType length plain, tries.pulls_items,
      tries'.pulls_items]
  case operators =>
    exact fun first second trace between later reads reads' =>
      ⟨equals_after reads reads', notEquals_after reads reads'⟩

/-- A list whose second element fails, as a list with that handle. -/
def unloaded (handle : Nat) : ListView Value where
  handle := handle
  elementType := .integer
  length := 3
  element index := if index = 1 then .error (.custom "slot unloaded") else .ok (.integer 5)

theorem compare_lists_unloaded :
    (notEquals.evaluate [.constant (.list (unloaded 0)),
      .constant (.list (.ofList 1 .integer [.integer 5, .integer 5, .integer 5]))]).after .empty =
      (.ok (.boolean true), Trace.empty.pulled [⟨0, 0⟩, ⟨0, 1⟩, ⟨1, 0⟩, ⟨1, 1⟩, ⟨1, 2⟩]) := by
  have plain : ∀ index < (unloaded 0).length, ∀ view,
      (unloaded 0).element index ≠ .ok (.list view) := by
    intro index _ view
    simp only [unloaded]
    split <;> simp
  obtain ⟨-, -, -, operators⟩ := compare_lists plain
  obtain ⟨-, unequal⟩ := operators (.constant (.list (unloaded 0)))
    (.constant (.list (.ofList 1 .integer [.integer 5, .integer 5, .integer 5]))) .empty .empty
    .empty rfl rfl
  exact unequal

/-! ## Elements and lengths -/

theorem elementAt_after (view : ListView Value) (index : Int32) (trace : Trace) :
    (elementAt view index).after trace =
      if 0 ≤ index.toInt ∧ index.toInt < view.length then
        (.ofExcept (view.element index.toInt.toNat),
          trace.pulled [⟨view.handle, index.toInt.toNat⟩])
      else (.error (.indexOutOfBounds index.toInt view.length), trace) := by
  rw [elementAt]
  split
  · rw [ListView.get, Run.after_bind_of_ok (Run.after_ofPulling _ trace)]
    rfl
  · rfl

theorem element_after {view : ListView Value} {index : Int32}
    (listed : list.value.after trace = (.ok (.list view), between))
    (indexed : position.value.after between = (.ok (.integer index), later)) :
    (element.evaluate [list, position]).after trace = (elementAt view index).after later := by
  rw [element, safe_evaluate rfl,
    Run.after_bind_of_ok (Slots.list_after rfl rfl listed),
    Run.after_bind_of_ok (Slots.integer_after rfl rfl indexed)]

/-- The list is read first, and nothing else if it fails. -/
theorem element_after_of_list_error (fails : list.value.after trace = (.error cause, between)) :
    (element.evaluate [list, position]).after trace = (.error cause, between) := by
  rw [element, safe_evaluate rfl]
  exact Run.after_bind_of_error (Slots.read_after_of_error rfl fails)

theorem element_after_of_index_error {view : ListView Value}
    (listed : list.value.after trace = (.ok (.list view), between))
    (fails : position.value.after between = (.error cause, later)) :
    (element.evaluate [list, position]).after trace = (.error cause, later) := by
  rw [element, safe_evaluate rfl, Run.after_bind_of_ok (Slots.list_after rfl rfl listed)]
  exact Run.after_bind_of_error (Slots.read_after_of_error rfl fails)

theorem listLength_after {view : ListView Value}
    (listed : list.value.after trace = (.ok (.list view), between)) :
    (listLength.evaluate [list]).after trace = (.ok (lengthValue view.length), between) := by
  rw [listLength, safe_evaluate rfl, Run.after_bind_of_ok (Slots.list_after rfl rfl listed)]
  rfl

theorem element_outputType_after {view : ListView Value}
    (listed : list.value.after trace = (.ok (.list view), between)) :
    (element.outputType [list, position]).after trace = (.ok view.elementType, between) :=
  Run.after_bind_of_ok (OutputRule.elementType_after listed)

/-- A length as an integer is the length itself, up to the greatest integer. -/
theorem exists_lengthValue (length : Nat) :
    ∃ count : Int32, lengthValue length = .integer count ∧
      count.toInt = min (length : Int) Int32.maxValue.toInt := by
  have small : min length greatestLength < 2 ^ 31 := by
    simp only [greatestLength]
    omega
  refine ⟨_, rfl, ?_⟩
  rw [Int32.toInt_ofNat_of_lt small, Int32.toInt_maxValue]
  simp only [greatestLength]
  omega

/-- An element is what the list answers for its index, after one pull, if the index is in range, and
out of bounds without a pull otherwise. The length of a list and the type of its elements are found
without a pull. -/
theorem index_and_length {view : ListView Value} {index : Int32}
    (listed : list.value.after trace = (.ok (.list view), between))
    (indexed : position.value.after between = (.ok (.integer index), later)) :
    (element.evaluate [list, position]).after trace =
      (if 0 ≤ index.toInt ∧ index.toInt < view.length then
        (.ofExcept (view.element index.toInt.toNat),
          later.pulled [⟨view.handle, index.toInt.toNat⟩])
      else (.error (.indexOutOfBounds index.toInt view.length), later)) ∧
    (∃ count : Int32, (listLength.evaluate [list]).after trace = (.ok (.integer count), between) ∧
      count.toInt = min (view.length : Int) Int32.maxValue.toInt ∧
      (0 ≤ index → index < count → 0 ≤ index.toInt ∧ index.toInt < view.length) ∧
      ((view.length : Int) ≤ Int32.maxValue.toInt →
        0 ≤ index.toInt ∧ index.toInt < view.length → 0 ≤ index ∧ index < count)) ∧
    (element.outputType [list, position]).after trace = (.ok view.elementType, between) := by
  obtain ⟨count, stated, cut⟩ := exists_lengthValue view.length
  have signed : ∀ number : Int32, 0 ≤ number ↔ 0 ≤ number.toInt := by
    intro number
    rw [Int32.le_iff_toInt_le, Int32.toInt_zero]
  refine ⟨?element, ⟨count, ?length, cut, ?sound, ?complete⟩, element_outputType_after listed⟩
  case element => rw [element_after listed indexed, elementAt_after]
  case length => rw [listLength_after listed, stated]
  case sound =>
    intro nonnegative below
    rw [signed] at nonnegative
    rw [Int32.lt_iff_toInt_lt] at below
    omega
  case complete =>
    intro short inside
    rw [signed, Int32.lt_iff_toInt_lt]
    omega

/-- A list with more elements than an integer can count, none of which can be produced. -/
def countless : ListView Value where
  handle := 0
  elementType := .integer
  length := 0x100000000
  element _ := .error (.custom "slot unloaded")

theorem index_and_length_countless :
    let list := Variable.constant (.list countless)
    (element.evaluate [list, .constant (.integer Int32.maxValue)]).after .empty =
        (.error (.custom "slot unloaded"), Trace.empty.pulled [⟨0, 2147483647⟩]) ∧
      ∃ count : Int32, (listLength.evaluate [list]).after .empty = (.ok (.integer count), .empty) ∧
        count.toInt = 2147483647 := by
  intro list
  have listed : list.value.after .empty = (.ok (.list countless), .empty) := rfl
  have indexed : (Variable.constant (.integer Int32.maxValue)).value.after .empty =
      (.ok (.integer Int32.maxValue), .empty) := rfl
  obtain ⟨pulled, ⟨count, stated, cut, -⟩, -⟩ := index_and_length listed indexed
  have inside : 0 ≤ Int32.maxValue.toInt ∧ Int32.maxValue.toInt < countless.length := by decide
  rw [if_pos inside] at pulled
  exact ⟨pulled, count, stated, cut⟩

end Dataflow.Catalogue

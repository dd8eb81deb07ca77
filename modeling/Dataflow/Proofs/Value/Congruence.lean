import Dataflow.Proofs.Run.Related
import Dataflow.Proofs.Value.Contents
import Dataflow.Proofs.Value.Equality

/-!
# Relations that operators cannot see through

An operator learns of a value its type, its payload, the length and the elements of a list, and
whether it equals another value. A congruence relates values that agree in all of this. Identity is
a congruence, and so is a renaming of the handles by which lists are known, as long as it takes
distinct handles to distinct ones. Lists that the arithmetic of a host answers have to agree with
themselves.
-/

namespace Dataflow

/-- Views that agree in element type and length, and in the elements within the length. -/
structure ListView.Agrees (agree : Value → Value → Prop) (left right : ListView Value) : Prop where
  elementType : left.elementType = right.elementType
  length : left.length = right.length
  elements : ∀ index < left.length,
    Outcome.Related agree (.ofExcept (left.element index)) (.ofExcept (right.element index))

section

variable [HostArithmetic]

/-- A relation of values that no operator tells apart. -/
structure Value.Congruence (agree : Value → Value → Prop) : Prop where
  /-- A value without elements agrees with itself -/
  literal : ∀ {value : Value}, value.list? = none → agree value value
  /-- and with nothing else. -/
  plain : ∀ {left right : Value}, left.list? = none → agree left right → right = left
  list : ∀ {view : ListView Value} {right : Value}, agree (.list view) right →
    ∃ other, right = .list other ∧ view.Agrees agree other
  equal : ∀ {first first' second second' : Value}, agree first first' → agree second second' →
    (first.equal second).answer = (first'.equal second').answer
  /-- A list that the arithmetic of a host answers agrees with itself. -/
  calculated : HostArithmetic.Answers fun answer => agree answer answer

namespace Value

namespace Congruence

variable {agree : Value → Value → Prop}

/-- A value agrees with itself alone, unless it is a list. -/
theorem view (congruence : Congruence agree) {left right : Value} (agreed : agree left right) :
    (left.list? = none ∧ right = left) ∨
      ∃ view other, left = .list view ∧ right = .list other ∧ view.Agrees agree other := by
  cases left with
  | list view =>
      obtain ⟨other, rfl, views⟩ := congruence.list agreed
      exact .inr ⟨view, other, rfl, rfl, views⟩
  | _ => exact .inl ⟨rfl, congruence.plain rfl agreed⟩

theorem type_eq (congruence : Congruence agree) {left right : Value} (agreed : agree left right) :
    left.type = right.type := by
  obtain ⟨-, rfl⟩ | ⟨view, other, rfl, rfl, -⟩ := congruence.view agreed <;> rfl

end Congruence

/-- Identity is a congruence. -/
theorem congruence_eq : Congruence (Eq : Value → Value → Prop) where
  literal _ := rfl
  plain _ agreed := agreed.symm
  list := by
    rintro view _ rfl
    exact ⟨view, rfl, rfl, rfl, fun index _ => .same _⟩
  equal := by
    rintro first _ second _ rfl rfl
    rfl
  calculated _ _ _ _ _ _ := rfl

end Value

end

namespace Value

/-- Values that agree up to the handles of lists, which correspond under `same`. Elements past the
end of a list do not count. -/
inductive Renamed (same : Nat → Nat → Prop) : Value → Value → Prop
  | plain {value : Value} : value.list? = none → Renamed same value value
  | list {left right : ListView Value} : same left.handle right.handle →
      left.elementType = right.elementType → left.length = right.length →
      (∀ index < left.length, Outcome.Related (Renamed same) (.ofExcept (left.element index))
        (.ofExcept (right.element index))) →
      Renamed same (.list left) (.list right)

namespace Renamed

variable {same : Nat → Nat → Prop}

/-- Equality does not depend on the names of handles, as long as distinct ones stay distinct. -/
theorem equal_eq (distinct : Relator.BiUnique same) {first first' second second' : Value}
    (renamed : Renamed same first first') (renamed' : Renamed same second second') :
    (first.equal second).answer = (first'.equal second').answer := by
  induction first using Value.inductionOn generalizing first' second second' with
  | plain first noList =>
      cases renamed with
      | list => cases noList
      | plain _ =>
          cases renamed' with
          | plain _ => rfl
          | list => cases first <;> first | rfl | cases noList
  | list view elements =>
      cases renamed with
      | plain noList => cases noList
      | @list _ view' handles elementType length items =>
          have views : view.Agrees (Renamed same) view' := ⟨elementType, length, items⟩
          cases renamed' with
          | plain noList => cases second <;> first | rfl | cases noList
          | @list other other' handles' elementType' length' items' =>
              have others : other.Agrees (Renamed same) other' := ⟨elementType', length', items'⟩
              have shared : view.handle = other.handle ↔ view'.handle = other'.handle := by
                constructor
                · intro equality
                  exact distinct.2 (equality ▸ handles) handles'
                · intro equality
                  exact distinct.1 handles (equality ▸ handles')
              rw [Bool.eq_iff_iff, equal_list_iff, equal_list_iff, shared, elementType,
                elementType', length, length']
              refine or_congr_right (and_congr_right fun _ => and_congr_right fun lengths => ?_)
              refine forall₂_congr fun index inside => ?_
              have inLeft : index < view.length := length ▸ inside
              have inRight : index < other.length := by omega
              rw [elementEqual_iff, elementEqual_iff]
              -- only elements of the left list are smaller than it, and so the induction is on that
              constructor
              · rintro ⟨item, partner, produced, paired, equal⟩
                obtain ⟨item', produced', itemRenamed⟩ :=
                  (views.elements index inLeft).exists_ok produced
                obtain ⟨partner', paired', partnerRenamed⟩ :=
                  (others.elements index inRight).exists_ok paired
                refine ⟨item', partner', produced', paired', ?_⟩
                rwa [← elements index item produced itemRenamed partnerRenamed]
              · rintro ⟨item', partner', produced', paired', equal⟩
                obtain ⟨item, produced, itemRenamed⟩ :=
                  (views.elements index inLeft).symm.exists_ok produced'
                obtain ⟨partner, paired, partnerRenamed⟩ :=
                  (others.elements index inRight).symm.exists_ok paired'
                refine ⟨item, partner, produced, paired, ?_⟩
                rwa [elements index item produced itemRenamed partnerRenamed]

end Renamed

/-- A renaming of handles is a congruence if it keeps distinct handles distinct, and those of lists
that the arithmetic of a host answers as they are. -/
theorem congruence_renamed [HostArithmetic] {same : Nat → Nat → Prop}
    (distinct : Relator.BiUnique same)
    (kept : HostArithmetic.Answers fun answer => Renamed same answer answer) :
    Congruence (Renamed same) where
  literal := .plain
  plain := by
    rintro left right noList (noList | _)
    · rfl
    · cases noList
  list := by
    rintro view _ (noList | renamed)
    · cases noList
    · exact ⟨_, rfl, by assumption, by assumption, by assumption⟩
  equal := fun renamed renamed' => Renamed.equal_eq distinct renamed renamed'
  calculated := kept

end Value

/-!
## Texts of values

The text of a value shows what its lists hold, but not the handles by which they are known.
-/

theorem Pulling.answer_collect {α : Type} (answer : Nat → Pulling α) (start count : Nat) :
    (collect answer start count).answer =
      (List.range' start count).map fun index => (answer index).answer := by
  induction count generalizing start with
  | zero => rfl
  | succ count induction =>
      rw [collect, answer_bind, answer_map, induction, List.range'_succ, List.map_cons]

namespace Value

theorem text_list (view : ListView Value) :
    (Value.list view).text.answer =
      "[" ++ ", ".intercalate ((List.range' 0 view.length).map fun index =>
        (elementText (view.element index)).answer) ++ "]" := by
  rw [text, Pulling.answer_bind, Pulling.answer_collect]
  rfl

theorem Renamed.text_eq {same : Nat → Nat → Prop} {left right : Value}
    (renamed : Renamed same left right) : left.text.answer = right.text.answer := by
  induction left using Value.inductionOn generalizing right with
  | plain left noList =>
      cases renamed with
      | plain _ => rfl
      | list => cases noList
  | list view elements =>
      cases renamed with
      | plain noList => cases noList
      | @list _ other handles elementType length items =>
          have parts : ∀ index < view.length, (elementText (view.element index)).answer =
              (elementText (other.element index)).answer := by
            intro index inside
            have agreed := items index inside
            cases produced : view.element index with
            | ok item =>
                obtain ⟨item', produced', itemRenamed⟩ := agreed.exists_ok produced
                rw [produced', elementText, elementText]
                exact elements index item produced itemRenamed
            | error cause =>
                rw [produced] at agreed
                cases produced' : other.element index with
                | error cause' => rfl
                | ok item' =>
                    rw [produced'] at agreed
                    cases agreed
          rw [text_list, text_list, ← length]
          congr 3
          refine List.map_congr_left fun index member => parts index ?_
          simpa using member

end Value

end Dataflow

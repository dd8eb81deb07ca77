import Dataflow.Run
import Mathlib.Data.List.Forall2

/-!
# Related runs

Two runs are related when they end in the same way, with answers that agree, from any two traces
whose handle counters are aligned, and leave the counters aligned. Nothing is said of the events on
the way. The relation passes through every way to combine runs, so that a computation inherits it
from the variables that it reads.
-/

namespace Dataflow

variable {ε ε' α β γ δ : Type}

/-- Two outcomes of one kind: equal errors, equal faults, or answers that agree. -/
inductive Outcome.Related (agree : α → β → Prop) : Outcome ε α → Outcome ε β → Prop
  | ok {left : α} {right : β} : agree left right → Related agree (.ok left) (.ok right)
  | error (cause : ε) : Related agree (.error cause) (.error cause)
  | fault (reason : DispatchFault) : Related agree (.fault reason) (.fault reason)

namespace Outcome.Related

variable {agree : α → β → Prop}

theorem refl {relation : α → α → Prop} {outcome : Outcome ε α}
    (self : ∀ answer, outcome = .ok answer → relation answer answer) :
    Related relation outcome outcome := by
  cases outcome with
  | ok answer => exact .ok (self answer rfl)
  | error cause => exact .error cause
  | fault reason => exact .fault reason

theorem symm {left : Outcome ε α} {right : Outcome ε β} (related : Related agree left right) :
    Related (flip agree) right left := by
  cases related with
  | ok agreed => exact .ok agreed
  | error cause => exact .error cause
  | fault reason => exact .fault reason

/-- What corresponds to an answer is an answer that agrees. -/
theorem exists_ok {left : Except ε α} {right : Except ε β}
    (related : Related agree (.ofExcept left) (.ofExcept right)) {answer : α}
    (answered : left = .ok answer) : ∃ other, right = .ok other ∧ agree answer other := by
  rw [answered] at related
  cases right with
  | error cause => cases related
  | ok other =>
      cases related with
      | ok agreed => exact ⟨other, rfl, agreed⟩

theorem same (outcome : Outcome ε α) : Related Eq outcome outcome :=
  refl fun _ _ => rfl

theorem eq_iff {left right : Outcome ε α} : Related Eq left right ↔ left = right := by
  constructor
  · rintro (rfl | cause | reason) <;> rfl
  · rintro rfl
    exact same left

end Outcome.Related

/-- Runs that end alike from traces with aligned handle counters, and keep these aligned. -/
def Run.Related (aligned : Nat → Nat → Prop) (agree : α → β → Prop) (left : Run ε α)
    (right : Run ε β) : Prop :=
  ∀ before before' : Trace, aligned before.handles before'.handles →
    Outcome.Related agree (left.after before).1 (right.after before').1 ∧
      aligned (left.after before).2.handles (right.after before').2.handles

namespace Run.Related

variable {aligned : Nat → Nat → Prop} {agree : α → β → Prop}

theorem pure {left : α} {right : β} (agreed : agree left right) :
    Related aligned agree (Pure.pure left : Run ε α) (Pure.pure right) :=
  fun _ _ counters => ⟨.ok agreed, counters⟩

theorem ofOutcome {left : Outcome ε α} {right : Outcome ε β}
    (related : Outcome.Related agree left right) :
    Related aligned agree (Run.ofOutcome left) (Run.ofOutcome right) :=
  fun _ _ counters => ⟨related, counters⟩

theorem same (outcome : Outcome ε α) :
    Related aligned Eq (Run.ofOutcome outcome) (Run.ofOutcome outcome) :=
  ofOutcome (.same outcome)

theorem fail (cause : ε) :
    Related aligned agree (Run.fail cause : Run ε α) (Run.fail cause : Run ε β) :=
  ofOutcome (.error cause)

theorem bind {agree' : γ → δ → Prop} {left : Run ε α} {right : Run ε β}
    {next : α → Run ε γ} {next' : β → Run ε δ} (first : Related aligned agree left right)
    (second : ∀ {left right}, agree left right → Related aligned agree' (next left) (next' right)) :
    Related aligned agree' (left >>= next) (right >>= next') := by
  intro before before' counters
  obtain ⟨ended, kept⟩ := first before before' counters
  rw [after_bind, after_bind]
  generalize left.after before = leftEnd at ended kept ⊢
  generalize right.after before' = rightEnd at ended kept ⊢
  obtain ⟨leftOutcome, leftLater⟩ := leftEnd
  obtain ⟨rightOutcome, rightLater⟩ := rightEnd
  cases ended with
  | ok agreed => exact second agreed leftLater rightLater kept
  | error cause => exact ⟨.error cause, kept⟩
  | fault reason => exact ⟨.fault reason, kept⟩

/-- Pulling makes no handles, and only its answer counts. -/
theorem ofPulling {left : Pulling α} {right : Pulling β}
    (agreed : agree left.answer right.answer) :
    Related aligned agree (Run.ofPulling left : Run ε α) (Run.ofPulling right) := by
  intro before before' counters
  rw [after_ofPulling, after_ofPulling]
  exact ⟨.ok agreed, counters⟩

/-- A failure that becomes an answer. -/
theorem attempt {left : Run ε α} {right : Run ε β} (related : Related aligned agree left right) :
    Related aligned
      (fun (left : Except ε α) (right : Except ε β) =>
        Outcome.Related agree (.ofExcept left) (.ofExcept right))
      (left.attempt : Run ε' (Except ε α)) right.attempt := by
  intro before before' counters
  obtain ⟨ended, kept⟩ := related before before' counters
  simp only [Run.attempt, Prod.map, id]
  refine ⟨?_, kept⟩
  generalize (left.after before).1 = leftOutcome at ended
  generalize (right.after before').1 = rightOutcome at ended
  cases ended with
  | ok agreed => exact .ok (.ok agreed)
  | error cause => exact .ok (.error cause)
  | fault reason => exact .fault reason

/-- An error that is worded anew, in both runs alike. -/
theorem mapError {left : Run ε α} {right : Run ε β} (reword : ε → ε')
    (related : Related aligned agree left right) :
    Related aligned agree (left.mapError reword) (right.mapError reword) := by
  intro before before' counters
  obtain ⟨ended, kept⟩ := related before before' counters
  simp only [Run.mapError, Prod.map, id]
  refine ⟨?_, kept⟩
  generalize (left.after before).1 = leftOutcome at ended
  generalize (right.after before').1 = rightOutcome at ended
  cases ended with
  | ok agreed => exact .ok agreed
  | error cause => exact .error (reword cause)
  | fault reason => exact .fault reason

/-- Marks of failures are events, and so make no difference. -/
theorem recordError {left : Run ε α} {right : Run ε β} (event event' : ε → Event)
    (related : Related aligned agree left right) :
    Related aligned agree (left.recordError event) (right.recordError event') := by
  intro before before' counters
  obtain ⟨ended, kept⟩ := related before before' counters
  simp only [Run.recordError]
  generalize left.after before = leftEnd at ended kept ⊢
  generalize right.after before' = rightEnd at ended kept ⊢
  obtain ⟨leftOutcome, leftLater⟩ := leftEnd
  obtain ⟨rightOutcome, rightLater⟩ := rightEnd
  cases ended with
  | ok agreed => exact ⟨.ok agreed, kept⟩
  | error cause => exact ⟨.error cause, kept⟩
  | fault reason => exact ⟨.fault reason, kept⟩

end Run.Related

/-- A run that ends in one way, whatever has happened before. -/
def Run.Steady (run : Run ε α) (outcome : Outcome ε α) : Prop :=
  ∀ trace, (run.after trace).1 = outcome

namespace Run.Steady

variable {run other : Run ε α} {outcome : Outcome ε α}

theorem unique {outcome' : Outcome ε α} (steady : run.Steady outcome)
    (steady' : run.Steady outcome') : outcome = outcome' :=
  (steady .empty).symm.trans (steady' .empty)

theorem of_exists (steady : ∃ outcome, run.Steady outcome) :
    run.Steady (run.after .empty).1 := by
  obtain ⟨outcome, ends⟩ := steady
  rwa [ends .empty]

theorem related (steady : run.Steady outcome) (steady' : other.Steady outcome) :
    Run.Related (fun _ _ => True) Eq run other := by
  intro before before' _
  rw [steady before, steady' before']
  exact ⟨.same outcome, trivial⟩

/-- Runs that are related across all traces are steady, and end in the same way. -/
theorem both_of_related (related : Run.Related (fun _ _ => True) Eq run other) :
    ∃ outcome, run.Steady outcome ∧ other.Steady outcome := by
  have same : ∀ before before', (run.after before).1 = (other.after before').1 :=
    fun before before' => Outcome.Related.eq_iff.mp (related before before' trivial).1
  refine ⟨(other.after .empty).1, fun trace => same trace .empty, fun trace => ?_⟩
  rw [← same .empty trace, same .empty .empty]

/-- A run that is related to itself across all traces is steady. -/
theorem of_related (related : Run.Related (fun _ _ => True) Eq run run) :
    ∃ outcome, run.Steady outcome := by
  obtain ⟨outcome, ends, -⟩ := both_of_related related
  exact ⟨outcome, ends⟩

theorem bind {next : α → Run ε β} {change : α → Outcome ε β} (steady : run.Steady outcome)
    (following : ∀ answer, outcome = .ok answer → (next answer).Steady (change answer)) :
    (run >>= next).Steady (outcome >>= change) := by
  intro trace
  rw [after_bind]
  have ended := steady trace
  generalize run.after trace = finish at ended
  obtain ⟨result, later⟩ := finish
  obtain rfl : result = outcome := ended
  cases result with
  | ok answer => exact following answer rfl later
  | error cause => rfl
  | fault reason => rfl

theorem bind_ok {answer : α} {next : α → Run ε β} {outcome' : Outcome ε β}
    (steady : run.Steady (.ok answer)) (following : (next answer).Steady outcome') :
    (run >>= next).Steady outcome' := by
  change (run >>= next).Steady (Outcome.ok answer >>= fun _ => outcome')
  refine steady.bind fun found same => ?_
  cases same
  exact following

theorem recordError (event : ε → Event) (steady : run.Steady outcome) :
    (run.recordError event).Steady outcome := by
  intro trace
  rw [← steady trace]
  simp only [Run.recordError]
  split <;> simp_all

/-- A run that is related to a steady one ends as that one does. -/
theorem of_related_left (related : Run.Related (fun _ _ => True) Eq run other)
    (steady : other.Steady outcome) : run.Steady outcome := by
  intro trace
  rw [← steady .empty]
  exact Outcome.Related.eq_iff.mp (related trace .empty trivial).1

end Run.Steady

end Dataflow

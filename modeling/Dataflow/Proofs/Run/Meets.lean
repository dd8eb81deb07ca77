import Dataflow.Run

/-!
# What runs are allowed to do

A run meets a promise when, after whatever has happened before, its answer and its failure are among
the promised ones, it ends with a fault only where faults are allowed, and it records allowed events
only. Promises pass through every way to combine runs.
-/

namespace Dataflow

variable {ε ε' α β : Type}

/-- What a run may do besides answering and failing. -/
structure Allowance where
  events : Event → Prop
  faults : Prop

/-- Whatever a trace has more than an earlier one is an allowed event. -/
def Trace.Extends (allowed : Event → Prop) (earlier later : Trace) : Prop :=
  ∀ event ∈ later.events, event ∈ earlier.events ∨ allowed event

namespace Trace.Extends

variable {allowed : Event → Prop} {first second third : Trace}

theorem refl (trace : Trace) : trace.Extends allowed trace :=
  fun _ member => .inl member

theorem trans (early : first.Extends allowed second) (late : second.Extends allowed third) :
    first.Extends allowed third := by
  intro event member
  rcases late event member with member | permitted
  · exact early event member
  · exact .inr permitted

theorem record {event : Event} (extended : first.Extends allowed second)
    (permitted : allowed event) : first.Extends allowed (second.record event) := by
  intro other member
  rcases List.mem_cons.mp member with rfl | member
  · exact .inr permitted
  · exact extended other member

end Trace.Extends

/-- An answer, a failure or a fault as promised. -/
def Outcome.Meets (faults : Prop) (failures : ε → Prop) (answers : α → Prop) : Outcome ε α → Prop
  | .ok answer => answers answer
  | .error cause => failures cause
  | .fault _ => faults

theorem Outcome.Meets.bind {faults : Prop} {failures : ε → Prop} {answers : α → Prop}
    {answers' : β → Prop} {outcome : Outcome ε α} {next : α → Outcome ε β}
    (first : outcome.Meets faults failures answers)
    (second : ∀ answer, answers answer → (next answer).Meets faults failures answers') :
    (outcome >>= next).Meets faults failures answers' := by
  cases outcome with
  | ok answer => exact second answer first
  | error cause => exact first
  | fault reason => exact first

theorem Outcome.Meets.weaken {faults : Prop} {failures : ε → Prop} {answers wider : α → Prop}
    {outcome : Outcome ε α} (meets : outcome.Meets faults failures answers)
    (wide : ∀ answer, answers answer → wider answer) : outcome.Meets faults failures wider := by
  cases outcome with
  | ok answer => exact wide answer meets
  | error cause => exact meets
  | fault reason => exact meets

/-- Where nothing is ruled out, every outcome is as promised. -/
theorem Outcome.Meets.trivial (outcome : Outcome ε α) :
    outcome.Meets True (fun _ => True) fun _ => True := by
  cases outcome <;> exact True.intro

theorem Outcome.Meets.faultless {failures : ε → Prop} {answers : α → Prop} {outcome : Outcome ε α}
    (meets : outcome.Meets False failures answers) (reason : DispatchFault) :
    outcome ≠ .fault reason := by
  rintro rfl
  exact meets

/-- Both parts of a run that answers have answered. -/
theorem Run.bind_eq_ok {run : Run ε α} {next : α → Run ε β} {trace later : Trace} {answer : β}
    (ended : (run >>= next).after trace = (.ok answer, later)) :
    ∃ middle between, run.after trace = (.ok middle, between) ∧
      (next middle).after between = (.ok answer, later) := by
  rw [after_bind] at ended
  split at ended
  · rename_i middle between first
    exact ⟨middle, between, first, ended⟩
  · cases ended
  · cases ended

/-- Rewording errors leaves answers as they are. -/
theorem Run.mapError_eq_ok {reword : ε → ε'} {run : Run ε α} {trace later : Trace} {answer : α}
    (ended : (run.mapError reword).after trace = (.ok answer, later)) :
    run.after trace = (.ok answer, later) := by
  simp only [mapError] at ended
  generalize run.after trace = finish at ended ⊢
  obtain ⟨outcome, last⟩ := finish
  cases outcome with
  | ok answer =>
      cases ended
      rfl
  | error cause => cases ended
  | fault reason => cases ended

theorem Run.ofTyping_eq_ok {typing : Run Empty α} {trace later : Trace} {answer : α}
    (ended : (Run.ofTyping typing : Run ε α).after trace = (.ok answer, later)) :
    typing.after trace = (.ok answer, later) :=
  mapError_eq_ok ended

/-- A run that ends as promised after every trace, and records allowed events only. -/
def Run.Meets (allowed : Allowance) (failures : ε → Prop) (answers : α → Prop) (run : Run ε α) :
    Prop :=
  ∀ trace, (run.after trace).1.Meets allowed.faults failures answers ∧
    trace.Extends allowed.events (run.after trace).2

namespace Run.Meets

variable {allowed : Allowance} {failures : ε → Prop} {answers wider : α → Prop} {run : Run ε α}

theorem ofOutcome {outcome : Outcome ε α} (meets : outcome.Meets allowed.faults failures answers) :
    (Run.ofOutcome outcome).Meets allowed failures answers :=
  fun trace => ⟨meets, .refl trace⟩

theorem pure {answer : α} (promised : answers answer) :
    (Pure.pure answer : Run ε α).Meets allowed failures answers :=
  fun trace => ⟨promised, .refl trace⟩

theorem fail {cause : ε} (permitted : failures cause) :
    (Run.fail cause : Run ε α).Meets allowed failures answers :=
  ofOutcome permitted

theorem bind {answers' : β → Prop} {next : α → Run ε β} (first : run.Meets allowed failures answers)
    (second : ∀ answer, answers answer → (next answer).Meets allowed failures answers') :
    (run >>= next).Meets allowed failures answers' := by
  intro trace
  obtain ⟨ended, recorded⟩ := first trace
  rw [after_bind]
  generalize run.after trace = finish at ended recorded ⊢
  obtain ⟨outcome, later⟩ := finish
  cases outcome with
  | ok answer =>
      obtain ⟨ended', recorded'⟩ := second answer ended later
      exact ⟨ended', recorded.trans recorded'⟩
  | error cause => exact ⟨ended, recorded⟩
  | fault reason => exact ⟨ended, recorded⟩

theorem weaken (meets : run.Meets allowed failures answers)
    (wide : ∀ answer, answers answer → wider answer) : run.Meets allowed failures wider :=
  fun trace => ⟨(meets trace).1.weaken wide, (meets trace).2⟩

/-- An answer may be taken to be the answer after some trace. -/
theorem produced (meets : run.Meets allowed failures answers) :
    run.Meets allowed failures
      fun answer => answers answer ∧ ∃ trace, (run.after trace).1 = .ok answer := by
  intro trace
  obtain ⟨ended, recorded⟩ := meets trace
  have here : ∀ answer, (run.after trace).1 = .ok answer →
      ∃ trace, (run.after trace).1 = .ok answer := fun _ ended => ⟨trace, ended⟩
  refine ⟨?_, recorded⟩
  generalize (run.after trace).1 = outcome at ended here ⊢
  cases outcome with
  | ok answer => exact ⟨ended, here answer rfl⟩
  | error cause => exact ended
  | fault reason => exact ended

theorem ofPulling {pulling : Pulling α} (permitted : ∀ access, allowed.events (.pull access))
    (promised : answers pulling.answer) :
    (Run.ofPulling pulling : Run ε α).Meets allowed failures answers := by
  intro trace
  rw [after_ofPulling]
  refine ⟨promised, fun event member => ?_⟩
  rcases List.mem_append.mp member with pulled | earlier
  · obtain ⟨access, -, rfl⟩ := List.mem_map.mp (List.mem_reverse.mp pulled)
    exact .inr (permitted access)
  · exact .inl earlier

theorem read {leaf : Leaf} {failures : EvaluationError → Prop} {answers : Value → Prop}
    (permitted : ∀ answer, allowed.events (.read leaf.serial answer))
    (promised : ∀ events,
      (Outcome.ofExcept (leaf.answer events)).Meets allowed.faults failures answers) :
    leaf.read.Meets allowed failures answers :=
  fun trace => ⟨promised trace.events, .record (.refl trace) (permitted _)⟩

theorem newList {failures : ε → Prop} {answers : Value → Prop} {elementType : ValueType}
    {items : List Value}
    (permitted : ∀ handle, allowed.events (.creation (.ofList handle elementType items)))
    (promised : ∀ handle, answers (.list (.ofList handle elementType items))) :
    (Run.newList elementType items).Meets allowed failures answers := by
  intro trace
  refine ⟨promised trace.handles, fun event member => ?_⟩
  rcases List.mem_cons.mp member with rfl | member
  · exact .inr (permitted trace.handles)
  · exact .inl member

theorem recordError {event : ε → Event}
    (permitted : ∀ cause, failures cause → allowed.events (event cause))
    (meets : run.Meets allowed failures answers) :
    (run.recordError event).Meets allowed failures answers := by
  intro trace
  obtain ⟨ended, recorded⟩ := meets trace
  simp only [Run.recordError]
  generalize run.after trace = finish at ended recorded ⊢
  obtain ⟨outcome, later⟩ := finish
  cases outcome with
  | ok answer => exact ⟨ended, recorded⟩
  | error cause => exact ⟨ended, recorded.record (permitted cause ended)⟩
  | fault reason => exact ⟨ended, recorded⟩

theorem attempt {failures' : ε' → Prop} (meets : run.Meets allowed failures answers) :
    (run.attempt : Run ε' (Except ε α)).Meets allowed failures'
      fun ended => (Outcome.ofExcept ended).Meets allowed.faults failures answers := by
  intro trace
  obtain ⟨ended, recorded⟩ := meets trace
  refine ⟨?_, recorded⟩
  simp only [Run.attempt, Prod.map]
  generalize (run.after trace).1 = outcome at ended
  cases outcome with
  | ok answer => exact ended
  | error cause => exact ended
  | fault reason => exact ended

theorem mapError {failures' : ε' → Prop} {reword : ε → ε'}
    (meets : run.Meets allowed failures answers)
    (reworded : ∀ cause, failures cause → failures' (reword cause)) :
    (run.mapError reword).Meets allowed failures' answers := by
  intro trace
  obtain ⟨ended, recorded⟩ := meets trace
  refine ⟨?_, recorded⟩
  simp only [Run.mapError, Prod.map]
  generalize (run.after trace).1 = outcome at ended
  cases outcome with
  | ok answer => exact ended
  | error cause => exact reworded cause ended
  | fault reason => exact ended

theorem ofTyping {typing : Run Empty α} {failures' : Empty → Prop}
    (meets : typing.Meets allowed failures' answers) :
    (Run.ofTyping typing : Run ε α).Meets allowed failures answers :=
  meets.mapError nofun

end Run.Meets

end Dataflow

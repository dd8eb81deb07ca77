import Dataflow.Value

/-!
# Runs

A run is a computation that can be observed: it reads outside sources of values, pulls elements from
lists and makes lists, and each of these leaves its mark in a trace. Evaluation is a run that may
fail with an evaluation error; typing is a run that never fails, though it may evaluate on the way.
-/

namespace Dataflow

/-- Something that happened during a run. -/
inductive Event where
  /-- An outside source was read. -/
  | read (leaf : Nat) (answer : Except EvaluationError Value)
  /-- An element of a list was pulled. -/
  | pull (access : Pull)
  /-- A list was made. -/
  | creation (view : ListView Value)
  /-- A node of a graph failed. -/
  | failure (operator : String) (cause : EvaluationError)

/-- Everything that has happened so far. -/
structure Trace where
  /-- The events, newest first. -/
  events : List Event
  /-- The number of list handles in use. -/
  handles : Nat

namespace Trace

/-- The trace before anything has happened. -/
def empty : Trace := ⟨[], 0⟩

/-- One more event. -/
def record (trace : Trace) (event : Event) : Trace :=
  { trace with events := event :: trace.events }

/-- A trace after some pulls, oldest first. -/
def pulled (trace : Trace) (pulls : List Pull) : Trace :=
  { trace with events := (pulls.map Event.pull).reverse ++ trace.events }

end Trace

/-- A computation that extends a trace. -/
structure Run (ε α : Type) where
  /-- How the computation ends after what has happened so far, and what has happened then. -/
  after : Trace → Outcome ε α × Trace

namespace Run

variable {ε ε' α β : Type}

@[ext] theorem ext {left right : Run ε α}
    (agree : ∀ trace, left.after trace = right.after trace) : left = right := by
  cases left; cases right; simpa using funext agree

instance : Monad (Run ε) where
  pure answer := ⟨fun trace => (.ok answer, trace)⟩
  bind first next := ⟨fun trace =>
    match first.after trace with
    | (.ok answer, later) => (next answer).after later
    | (.error cause, later) => (.error cause, later)
    | (.fault reason, later) => (.fault reason, later)⟩

@[simp] theorem after_pure (answer : α) (trace : Trace) :
    (pure answer : Run ε α).after trace = (.ok answer, trace) := rfl

theorem after_bind (first : Run ε α) (next : α → Run ε β) (trace : Trace) :
    (first >>= next).after trace =
      match first.after trace with
      | (.ok answer, later) => (next answer).after later
      | (.error cause, later) => (.error cause, later)
      | (.fault reason, later) => (.fault reason, later) := rfl

instance : LawfulMonad (Run ε) :=
  LawfulMonad.mk' (Run ε)
    (by
      intro α run
      refine Run.ext fun trace => ?_
      change (run >>= pure).after trace = run.after trace
      rw [after_bind]
      split <;> simp_all)
    (by intro α β answer next; rfl)
    (by
      intro α β γ run first second
      refine Run.ext fun trace => ?_
      simp only [after_bind]
      rcases run.after trace with ⟨_ | _ | _, later⟩ <;> rfl)

/-- A run that only ends. -/
def ofOutcome (outcome : Outcome ε α) : Run ε α :=
  ⟨fun trace => (outcome, trace)⟩

/-- A run that fails. -/
def fail (cause : ε) : Run ε α :=
  ofOutcome (.error cause)

/-- A run without faults that leaves no mark. -/
def ofExcept (answer : Except ε α) : Run ε α :=
  ofOutcome (.ofExcept answer)

@[simp] theorem after_fail (cause : ε) (trace : Trace) :
    (fail cause : Run ε α).after trace = (.error cause, trace) := rfl

theorem fail_bind (cause : ε) (next : α → Run ε β) : (fail cause >>= next) = fail cause := rfl

@[simp] theorem after_ofExcept (answer : Except ε α) (trace : Trace) :
    (ofExcept answer).after trace = (.ofExcept answer, trace) := rfl

/-- A run that pulls elements from lists. -/
def ofPulling (pulling : Pulling α) : Run ε α :=
  ⟨fun trace => (.ok pulling.answer,
    pulling.pulls.foldl (fun earlier access => earlier.record (.pull access)) trace)⟩

theorem after_ofPulling (pulling : Pulling α) (trace : Trace) :
    (ofPulling pulling : Run ε α).after trace =
      (.ok pulling.answer, trace.pulled pulling.pulls) := by
  rw [ofPulling]
  refine congrArg (Prod.mk _) ?_
  generalize pulling.pulls = pulls
  induction pulls generalizing trace with
  | nil => rfl
  | cons access pulls induction =>
      rw [List.foldl_cons, induction]
      simp [Trace.pulled, Trace.record]

/-- Makes a list of some values, under a handle that is not in use yet. -/
def newList (elementType : ValueType) (items : List Value) : Run ε Value :=
  ⟨fun trace =>
    let view := ListView.ofList trace.handles elementType items
    (.ok (.list view), ⟨.creation view :: trace.events, trace.handles + 1⟩)⟩

/-- Rewords the error of a run. -/
def mapError (reword : ε → ε') (run : Run ε α) : Run ε' α :=
  ⟨fun trace => ((run.after trace).map (·.mapError reword) id)⟩

/-- Turns the error of a run into an answer. Faults pass. -/
def attempt (run : Run ε α) : Run ε' (Except ε α) :=
  ⟨fun trace => ((run.after trace).map (·.attempt) id)⟩

/-- Records the error of a run, and passes it on. -/
def recordError (event : ε → Event) (run : Run ε α) : Run ε α :=
  ⟨fun trace =>
    match run.after trace with
    | (.error cause, later) => (.error cause, later.record (event cause))
    | ended => ended⟩

/-- A run that has no error to end with, as one that might have. -/
def ofTyping (typing : Run Empty α) : Run ε α :=
  typing.mapError nofun

end Run

/-- A run that computes a value, or fails. -/
abbrev Evaluation := Run EvaluationError

/-- A run that computes a type. It has no error to end with. -/
abbrev Typing := Run Empty

/-- Pulls one element. Nothing bounds the index but the view itself. -/
def ListView.get {α : Type} (view : ListView α) (index : Nat) : Evaluation α := do
  Run.ofPulling (Pulling.access view.handle index)
  Run.ofExcept (view.element index)

/-!
## Variables

A variable is a lazy handle to a value: a declared type, known before anything is evaluated unless
typing itself evaluates, and a value that is computed anew on every read. Constants and leaves are
the variables that an expression starts from.
-/

/-- A lazy handle to a value. -/
structure Variable where
  type : Typing ValueType
  value : Evaluation Value

/-- A variable that holds a value. -/
def Variable.constant (value : Value) : Variable where
  type := pure value.type
  value := pure value

/-- An outside source of values. What it answers may depend on all that has happened before. -/
structure Leaf where
  /-- Tells leaves apart in a trace. -/
  serial : Nat
  /-- The declared type, which need not be the type of an answer. -/
  type : ValueType
  answer : List Event → Except EvaluationError Value

namespace Leaf

/-- Reads a leaf once. -/
def read (leaf : Leaf) : Evaluation Value :=
  ⟨fun trace =>
    let answer := leaf.answer trace.events
    (.ofExcept answer, trace.record (.read leaf.serial answer))⟩

/-- A leaf as a variable. -/
def toVariable (leaf : Leaf) : Variable where
  type := pure leaf.type
  value := leaf.read

/-- A leaf that answers every read in the same way. -/
def steady (serial : Nat) (type : ValueType) (answer : Except EvaluationError Value) : Leaf where
  serial := serial
  type := type
  answer _ := answer

/-- What is still to be answered after some events: a read uses up one answer, and the last answer
stays. -/
def remaining (serial : Nat) (last : Except EvaluationError Value) :
    List (Except EvaluationError Value) → List Event → Except EvaluationError Value
  | [], _ => last
  | answer :: _, [] => answer
  | answer :: answers, .read source _ :: events =>
      if source = serial then remaining serial last answers events
      else remaining serial last (answer :: answers) events
  | answer :: answers, _ :: events => remaining serial last (answer :: answers) events

/-- A leaf that answers its reads in turn and then repeats the last answer. -/
def inTurn (serial : Nat) (type : ValueType) (answers : List (Except EvaluationError Value))
    (last : Except EvaluationError Value) : Leaf where
  serial := serial
  type := type
  answer := remaining serial last answers

end Leaf

/-- The number of reads of a leaf among some events. -/
def readsOf (serial : Nat) (events : List Event) : Nat :=
  events.countP fun
    | .read source _ => source == serial
    | _ => false

end Dataflow

import Dataflow.CommandLine
import Dataflow.Proofs.Expression.Checks

/-!
# What a command line comes to

Flags aside, the first two arguments decide on how a command ends. It fails on a key that no
operator has, and on a text that is no expression, cannot be built or cannot be evaluated. An
expression that is evaluated shows its value with the type that has been declared before.
-/

namespace Dataflow

variable {ε α β : Type}

/-- What follows a steady answer starts from some later trace. -/
theorem Run.Steady.exists_after_bind {run : Run ε α} {answer : α}
    (steady : run.Steady (.ok answer)) (next : α → Run ε β) (trace : Trace) :
    ∃ later, (run >>= next).after trace = (next answer).after later := by
  have ended := steady trace
  rw [after_bind]
  generalize run.after trace = finish at ended
  obtain ⟨outcome, later⟩ := finish
  cases ended
  exact ⟨later, rfl⟩

/-- Reads of a graph differ in nothing that is shown of a value. -/
theorem Graph.Sound.value_alike {graph : Graph} {type : ValueType} (sound : graph.Sound type)
    (trace trace' : Trace) :
    Outcome.Related
      (fun left right => left.text.answer = right.text.answer ∧ left.type = right.type)
      (graph.value.after trace).1 (graph.value.after trace').1 := by
  obtain ⟨offset, related⟩ := sound.value_related trace trace'
  generalize (graph.value.after trace).1 = left at related ⊢
  generalize (graph.value.after trace').1 = right at related ⊢
  cases related with
  | ok renamed =>
      exact .ok ⟨renamed.text_eq, (Value.congruence_shifted _).type_eq renamed⟩
  | error cause => exact .error cause
  | fault reason => exact .fault reason

namespace CommandLine

/-- The names of all commands. -/
def names : List String := ["-h", "--help", "help", "list", "describe", "eval"]

/-- The first word is no command. -/
def Unknown (words : List String) : Prop :=
  ∃ name rest, words = name :: rest ∧ name ∉ names

/-- A text that has no value. -/
inductive Rejected (source : String) : Prop
  | malformed : Expression.ofText? source = none → Rejected source
  | unbuilt {expression : Expression} {cause : ExpressionError} :
      Expression.ofText? source = some expression → expression.built .empty = .error cause →
      Rejected source
  | unevaluated {expression : Expression} {graph : Graph} {cause : EvaluationError} :
      Expression.ofText? source = some expression → expression.built .empty = .ok graph →
      (graph.value.after .empty).1 = .error cause → Rejected source

/-- The words ask for an operator that there is not, or for the value of a text that has none. -/
def Fails (words : List String) : Prop :=
  (∃ key rest, words = "describe" :: key :: rest ∧ ∀ operator ∈ Catalogue.builtins,
    operator.header.symbol ≠ key ∧ operator.uniqueName ≠ key) ∨
  ∃ source rest, words = "eval" :: source :: rest ∧ Rejected source

variable {registry : Registry} {rejection : String → String} {json : Bool}
  {name source : String} {rest words : List String}

/-! ## The value of a text -/

theorem evaluation_of_malformed (unread : Expression.ofText? source = none) :
    ((evaluation registry rejection source).after .empty).1 =
      .error (.expression (.malformed (rejection source))) := by
  rw [evaluation, Expression.load, unread]
  rfl

theorem evaluation_of_unbuilt {expression : Expression} {cause : ExpressionError}
    (read : Expression.ofText? source = some expression)
    (unbuilt : expression.built .empty = .error cause) :
    ((evaluation Registry.builtins rejection source).after .empty).1 =
      .error (.expression cause) := by
  have steady := expression.built_steady unbuilt
  rw [evaluation, Expression.load, read]
  exact (steady.mapError CommandError.expression).bind_error .empty

/-- Once an expression is built, typing it does not fail, and its value is read last. -/
theorem exists_evaluation_of_built {expression : Expression} {graph : Graph}
    (read : Expression.ofText? source = some expression)
    (built : expression.built .empty = .ok graph) :
    ∃ later, ((evaluation Registry.builtins rejection source).after .empty).1 =
      (graph.value.after later).1.mapError .evaluation >>= fun value =>
        .ok (graph.declared, value) := by
  have steady := expression.built_steady built
  have sound := steady.promised expression.build_meets
  have loaded : (Run.mapError CommandError.expression
      (expression.build Registry.builtins)).Steady (.ok graph) := steady.mapError _
  rw [evaluation, Expression.load, read]
  obtain ⟨between, first⟩ := loaded.exists_after_bind (fun graph => do
    let declared ← .ofTyping graph.type
    let value ← graph.value.mapError .evaluation
    pure (declared, value)) .empty
  obtain ⟨later, second⟩ := (Graph.Sound.steady sound).exists_after_bind (fun declared => do
    let value ← graph.value.mapError CommandError.evaluation
    pure (declared, value)) between
  refine ⟨later, ?_⟩
  change ((Run.mapError _ (expression.build Registry.builtins) >>= _).after .empty).1 = _
  rw [first, second, Run.after_bind]
  simp only [Run.mapError, Prod.map, id]
  cases (graph.value.after later).1 <;> rfl

theorem valueText_congr {value other : Value} (text : value.text.answer = other.text.answer)
    (type : value.type = other.type) : valueText value json = valueText other json := by
  rw [valueText, valueText, text, type]

/-- A graph that has been built is evaluated as it would be on its own, and its value is printed
with the declared type. -/
theorem evaluate_of_built {expression : Expression} {graph : Graph}
    (read : Expression.ofText? source = some expression)
    (built : expression.built .empty = .ok graph) (rejection : String → String) (json : Bool) :
    match (graph.value.after .empty).1 with
    | .ok value => value.type = graph.declared ∧
        evaluate Registry.builtins rejection source json = printed (valueText value json ++ "\n")
    | .error cause => evaluate Registry.builtins rejection source json = failed (.evaluation cause)
    | .fault _ => False := by
  obtain ⟨type, sound⟩ := (expression.built_steady built).promised expression.build_meets
  obtain ⟨later, ended⟩ := exists_evaluation_of_built read built
  have alike := sound.value_alike later .empty
  have promised : Outcome.Meets False EvaluationError.Residual
      (fun value => value.type = type ∧ value.Plain) (graph.value.after .empty).1 :=
    (sound.typed.fits .empty).1
  rw [evaluate, ended, sound.declared]
  generalize (graph.value.after later).1 = outcome at alike
  generalize (graph.value.after .empty).1 = expected at alike promised
  cases alike with
  | ok shown =>
      exact ⟨promised.1, congrArg (printed <| · ++ "\n") (valueText_congr shown.1 shown.2)⟩
  | error cause => rfl
  | fault reason => exact promised

/-- A text that is not rejected has an expression, a graph and a value. -/
theorem exists_value_of_not_rejected (accepted : ¬ Rejected source) :
    ∃ expression graph value, Expression.ofText? source = some expression ∧
      expression.built .empty = .ok graph ∧ (graph.value.after .empty).1 = .ok value := by
  cases read : Expression.ofText? source with
  | none => exact absurd (.malformed read) accepted
  | some expression =>
      have faultless := expression.built_meets .empty
      cases built : expression.built .empty with
      | error cause => exact absurd (.unbuilt read built) accepted
      | fault reason => exact (built ▸ faultless).elim
      | ok graph =>
          have evaluated := evaluate_of_built read built id false
          cases found : (graph.value.after .empty).1 with
          | error cause => exact absurd (.unevaluated read built found) accepted
          | fault reason => exact (found ▸ evaluated).elim
          | ok value => exact ⟨expression, graph, value, rfl, built, found⟩

theorem evaluate_of_rejected (rejected : Rejected source) (rejection : String → String)
    (json : Bool) : ∃ cause, evaluate Registry.builtins rejection source json = failed cause := by
  cases rejected with
  | malformed unread => exact ⟨_, by rw [evaluate, evaluation_of_malformed unread]⟩
  | unbuilt read unbuilt => exact ⟨_, by rw [evaluate, evaluation_of_unbuilt read unbuilt]⟩
  | unevaluated read built failed =>
      have evaluated := evaluate_of_built read built rejection json
      rw [failed] at evaluated
      exact ⟨_, evaluated⟩

/-! ## The commands -/

theorem command_unknown (unknown : name ∉ names) :
    command registry rejection json (name :: rest) =
      ⟨2, help, "Error: unknown command `" ++ name ++ "`\n"⟩ := by
  simp only [names, List.mem_cons, List.not_mem_nil, or_false, not_or] at unknown
  rw [command] <;> simp [unknown]

@[elab_as_elim]
theorem command_cases {motive : List String → CommandResult → Prop}
    (idle : motive [] (printed help))
    (helping : ∀ name rest, name ∈ ["-h", "--help", "help"] →
      motive (name :: rest) (printed help))
    (listing : ∀ rest, motive ("list" :: rest) (listOperators registry json))
    (bare : ∀ name form, name ∈ ["describe", "eval"] →
      command registry rejection json [name] = usage form → motive [name] (usage form))
    (describing : ∀ key rest, motive ("describe" :: key :: rest) (describe registry key))
    (evaluating : ∀ source rest,
      motive ("eval" :: source :: rest) (evaluate registry rejection source json))
    (unknown : ∀ name rest, name ∉ names →
      motive (name :: rest) ⟨2, help, "Error: unknown command `" ++ name ++ "`\n"⟩) :
    motive words (command registry rejection json words) := by
  fun_cases command registry rejection json words with
  | case1 => exact idle
  | case2 | case3 | case4 => exact helping _ _ (by simp)
  | case5 => exact listing _
  | case6 | case8 => exact bare _ _ (by simp) rfl
  | case7 => exact describing _ _
  | case9 => exact evaluating _ _
  | case10 name arguments =>
      refine unknown _ _ ?_
      cases arguments <;> simp_all [names]

/-- Only two words count. -/
theorem command_take (registry : Registry) (rejection : String → String) (json : Bool)
    (words : List String) :
    command registry rejection json (words.take 2) = command registry rejection json words := by
  refine command_cases (motive := fun words result =>
    command registry rejection json (words.take 2) = result) ?idle ?helping ?listing ?bare
      ?describing ?evaluating ?unknown
  case helping =>
    intro name rest helping
    simp only [List.mem_cons, List.not_mem_nil, or_false] at helping
    rcases helping with rfl | rfl | rfl <;> rfl
  case bare => exact fun name form _ ended => ended
  case unknown => exact fun name rest unknown => command_unknown unknown
  all_goals intros; rfl

/-- The ways in which a command may end. -/
inductive Ends (words : List String) : CommandResult → Prop
  | done {output errors : String} : ¬ Unknown words → ¬ Fails words →
      Ends words ⟨0, output, errors⟩
  | failed {cause : CommandError} : ¬ Unknown words → Fails words → Ends words (failed cause)
  | unknown {output errors : String} : Unknown words → ¬ Fails words →
      Ends words ⟨2, output, errors⟩

@[simp] theorem unknown_nil : ¬ Unknown [] := by simp [Unknown]

@[simp] theorem unknown_cons : Unknown (name :: rest) ↔ name ∉ names := by simp [Unknown]

@[simp] theorem fails_describe {key : String} :
    Fails ("describe" :: key :: rest) ↔ ∀ operator ∈ Catalogue.builtins,
      operator.header.symbol ≠ key ∧ operator.uniqueName ≠ key := by
  simp [Fails]

@[simp] theorem fails_eval : Fails ("eval" :: source :: rest) ↔ Rejected source := by
  simp [Fails]

@[simp] theorem not_fails_nil : ¬ Fails [] := by simp [Fails]

@[simp] theorem not_fails_singleton : ¬ Fails [name] := by simp [Fails]

theorem not_fails_cons (other : name ∉ ["describe", "eval"]) : ¬ Fails (name :: rest) := by
  rintro (⟨key, _, same, -⟩ | ⟨source, _, same, -⟩) <;>
    · obtain ⟨rfl, -⟩ := List.cons.inj same
      simp at other

theorem command_ends (rejection : String → String) (json : Bool) (words : List String) :
    Ends words (command Registry.builtins rejection json words) := by
  refine command_cases ?idle ?helping ?listing ?bare ?describing ?evaluating ?unknown
  case idle => exact .done unknown_nil not_fails_nil
  case helping =>
    intro name rest helping
    simp only [List.mem_cons, List.not_mem_nil, or_false] at helping
    rcases helping with rfl | rfl | rfl <;>
      exact .done (by simp [names]) (not_fails_cons (by simp))
  case listing => exact fun rest => .done (by simp [names]) (not_fails_cons (by simp))
  case bare =>
    intro name form known _
    exact .done (by simp_all [names]) not_fails_singleton
  case describing =>
    intro key rest
    rw [describe]
    cases hit : Registry.builtins.find? key with
    | none =>
        have absent := Registry.builtins_find?_eq_none_iff.mp hit
        exact .failed (by simp [names]) (fails_describe.mpr absent)
    | some operator =>
        refine .done (by simp [names]) fun fails => ?_
        rw [Registry.builtins_find?_eq_none_iff.mpr (fails_describe.mp fails)] at hit
        cases hit
  case evaluating =>
    intro source rest
    by_cases rejected : Rejected source
    · obtain ⟨cause, ended⟩ := evaluate_of_rejected rejected rejection json
      rw [ended]
      exact .failed (by simp [names]) (fails_eval.mpr rejected)
    · obtain ⟨expression, graph, value, read, built, found⟩ := exists_value_of_not_rejected rejected
      have evaluated := evaluate_of_built read built rejection json
      rw [found] at evaluated
      rw [evaluated.2]
      exact .done (by simp [names]) (fails_eval.not.mpr rejected)
  case unknown =>
    intro name rest unknown
    exact .unknown (unknown_cons.mpr unknown) (not_fails_cons (by simp_all [names]))

/-- A log begins with the first operator that is registered. -/
theorem exists_log_cons (rejection : String → String) (name : String) (rest : List String) :
    ∃ later, log Registry.builtins rejection (name :: rest) =
      .registered "&&" "logical.and" :: later := by
  simp only [log, Registry.headers, Registry.builtins_consistent.2]
  exact ⟨_, rfl⟩

/-- Nothing is logged unless it is asked for. -/
theorem logged_eq_empty {wording : Wording} {arguments : List String}
    (quiet : verboseFlag ∉ arguments) : logged wording arguments = "" := by
  rw [logged, if_neg (by simpa using quiet)]

/-- What a command line comes to. Flags aside, the first two arguments decide, as long as nothing is
logged. Unknown commands exit with 2, commands that fail exit with 1 and leave nothing but an error,
after the log if there is one, and all others exit with 0. An expression that is evaluated is shown
with its declared type. -/
theorem run_outcome (wording : Wording) (arguments : List String) :
    (∀ others, verboseFlag ∉ arguments → verboseFlag ∉ others →
      (withoutFlags others).take 2 = (withoutFlags arguments).take 2 →
      (jsonFlag ∈ others ↔ jsonFlag ∈ arguments) → run wording others = run wording arguments) ∧
    ((run wording arguments).exitCode = 2 ↔ Unknown (withoutFlags arguments)) ∧
    ((run wording arguments).exitCode = 1 ↔ Fails (withoutFlags arguments)) ∧
    ((run wording arguments).exitCode = 0 ↔
      ¬ Unknown (withoutFlags arguments) ∧ ¬ Fails (withoutFlags arguments)) ∧
    ((run wording arguments).exitCode = 1 →
      (run wording arguments).output = "" ∧
        (∃ message, (run wording arguments).errors =
          logged wording arguments ++ ("Error: " ++ message)) ∧
        (verboseFlag ∉ arguments → logged wording arguments = "")) ∧
    ∀ source rest, withoutFlags arguments = "eval" :: source :: rest → jsonFlag ∉ arguments →
      (run wording arguments).exitCode = 0 →
      ∃ expression graph value, Expression.ofText? source = some expression ∧
        expression.built .empty = .ok graph ∧ (graph.value.after .empty).1 = .ok value ∧
        (run wording arguments).output =
          value.text.answer ++ " : " ++ graph.declared.id ++ "\n" := by
  have ends := command_ends wording.rejection (arguments.contains jsonFlag) (withoutFlags arguments)
  refine ⟨?same, ?unknown, ?failure, ?success, ?error, ?value⟩
  case same =>
    intro others quiet quiet' words flag
    rw [run, run, logged_eq_empty quiet, logged_eq_empty quiet', ← command_take, words,
      command_take]
    simp [flag]
  case value =>
    intro source rest words plain exited
    have ran : (run wording arguments).exitCode =
        (evaluate Registry.builtins wording.rejection source false).exitCode ∧
      (run wording arguments).output =
        (evaluate Registry.builtins wording.rejection source false).output := by
      rw [run, words, List.contains_eq_mem, decide_eq_false plain]
      exact ⟨rfl, rfl⟩
    have accepted : ¬ Rejected source := by
      intro rejected
      obtain ⟨cause, ended⟩ := evaluate_of_rejected rejected wording.rejection false
      rw [ran.1, ended] at exited
      cases exited
    obtain ⟨expression, graph, value, read, built, found⟩ := exists_value_of_not_rejected accepted
    have evaluated := evaluate_of_built read built wording.rejection false
    rw [found] at evaluated
    refine ⟨expression, graph, value, read, built, found, ?_⟩
    rw [ran.2, evaluated.2, ← evaluated.1]
    rfl
  case error =>
    intro exited
    rw [run] at exited ⊢
    generalize command _ _ _ _ = result at ends exited ⊢
    cases ends with
    | done => cases exited
    | failed =>
        exact ⟨rfl, ⟨_, congrArg (logged wording arguments ++ ·) (String.append_assoc ..)⟩,
          logged_eq_empty⟩
    | unknown => cases exited
  all_goals
    rw [run]
    generalize command _ _ _ _ = result at ends
    cases ends <;> simp_all [failed]

/-- A key that no operator has, between flags. -/
theorem run_describe_nope :
    let arguments := ["--json", "describe", "--json", "nope", "more"]
    (run .plain arguments).exitCode = 1 ∧ (run .plain arguments).output = "" ∧
      run .plain arguments = run .plain ["describe", "nope", "--json"] := by
  intro arguments
  obtain ⟨same, -, failure, -, error, -⟩ := run_outcome .plain arguments
  have exited := failure.mpr (fails_describe.mpr (by decide))
  refine ⟨exited, (error exited).1, (same _ (by decide) (by decide) rfl ?_).symm⟩
  exact iff_of_true (by decide) (by decide)

/-- The log precedes the error. -/
theorem run_verbose_describe_nope :
    (run .plain ["--verbose", "describe", "nope"]).exitCode = 1 ∧
      ¬ ∃ message,
        (run .plain ["--verbose", "describe", "nope"]).errors = "Error: " ++ message := by
  obtain ⟨-, -, failure, -, error, -⟩ := run_outcome .plain ["--verbose", "describe", "nope"]
  have exited := failure.mpr (fails_describe.mpr (by decide))
  refine ⟨exited, ?_⟩
  rintro ⟨message, same⟩
  obtain ⟨-, ⟨message', errors⟩, -⟩ := error exited
  obtain ⟨later, entries⟩ := exists_log_cons Wording.plain.rejection "describe" ["nope"]
  have words : withoutFlags ["--verbose", "describe", "nope"] = ["describe", "nope"] := by decide
  have asked : ["--verbose", "describe", "nope"].contains verboseFlag = true := by decide
  rw [same, logged, if_pos asked, words, entries, logText, List.mapIdx_cons,
    String.join_cons] at errors
  have letters := congrArg (·.toList.head?) errors
  have entry : (Wording.plain.logLine 0 (.registered "&&" "logical.and")).toList.head? =
      some 'r' := by decide
  have prefixed : "Error: ".toList.head? = some 'E' := by decide
  simp only [String.toList_append, List.head?_append, entry, prefixed] at letters
  cases letters

end CommandLine

end Dataflow

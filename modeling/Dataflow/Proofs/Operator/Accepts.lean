import Dataflow.Proofs.Catalogue.Sound
import Dataflow.Proofs.Operator.Refinement

/-!
# What composites leave to their parts

The checks of a composite come down to those of its inner operators: it is they that notice a wrong
number of inputs when it is evaluated, and its own signature rules out no wiring that all of them
accept.
-/

namespace Dataflow

/-!
## The number of inputs comes first

A primitive operator of the catalogue looks at the number of its inputs before it reads any of them.
A composite does not look, but the first thing that it does is to evaluate its first inner operator,
which has the same arity. So a wrong number of inputs is noticed before anything has happened, and
the error names the primitive operator that is reached through first inner operators.
-/

/-- On a wrong number of inputs, all that happens is that the evaluation fails. -/
def Primitive.ChecksArity (definition : Primitive) : Prop :=
  ∀ inputs : List Variable, inputs.length ≠ definition.header.arity →
    definition.evaluate inputs =
      .fail (.wrongArity definition.header.uniqueName definition.header.arity inputs.length)

namespace Catalogue

variable {template : Template} {symbol name : String} {compute : Slots → Evaluation Value}

/-- The number of inputs is checked before the function of an operator runs. -/
theorem safe_checksArity :
    (template.safe symbol name compute).BuiltFrom Primitive.ChecksArity :=
  .primitive fun _ mismatch => Slots.checkArity_bind_of_ne mismatch

/-- A function that receives all inputs checks their number itself. -/
theorem raw_checksArity :
    (template.raw symbol name fun slots => do
      slots.checkArity
      compute slots).BuiltFrom Primitive.ChecksArity :=
  .primitive fun _ mismatch => Slots.checkArity_bind_of_ne mismatch

/-- Every built-in operator is built from parts that check the number of their inputs. -/
theorem builtFrom_checksArity [HostArithmetic] {operator : Operator}
    (member : operator ∈ builtins) :
    operator.BuiltFrom Primitive.ChecksArity := by
  refine builtins_cases member ?conjunction ?disjunction ?negation ?arithmetic ?modulus ?onInteger
    ?onIntegers ?equals ?strictOrder ?stringLength ?concatenation ?displayName ?rounding
    ?listLength ?element ?choice ?identity ?notEquals ?orEqual
  case conjunction => exact raw_checksArity
  case disjunction => exact raw_checksArity
  case choice => exact raw_checksArity
  case notEquals => exact notEquals_builtFrom
  case orEqual => exact fun _ _ _ _ _ => orEqual_builtFrom
  all_goals
    intros
    exact safe_checksArity

end Catalogue

namespace Operator

variable {operator outer : Operator} {inners : List Operator} {header : Header}
  {inputs : List Variable}

/-- The primitive operator that is reached through the first inner operators of composites. -/
inductive StartsWith : Operator → Primitive → Prop
  | primitive (definition : Primitive) : StartsWith (.primitive definition) definition
  | composite {header : Header} {outer first : Operator} {others : List Operator}
      {definition : Primitive} :
      StartsWith first definition →
      StartsWith (.composite header outer (first :: others)) definition

/-- A composite ends with the failure of its first inner operator. -/
theorem composite_evaluate_of_fail {first : Operator} {others : List Operator}
    {cause : EvaluationError} (fails : first.evaluate inputs = .fail cause) :
    (composite header outer (first :: others)).evaluate inputs = .fail cause := by
  rw [evaluate, evaluateAll, fails, Run.fail_bind, Run.fail_bind]

/-- A derived operator that is given a wrong number of inputs fails before anything has happened: no
input is read, and no element is pulled. The error states both numbers, and names the primitive
operator of the catalogue that is reached through first inner operators. -/
theorem Derived.arity_comes_first [HostArithmetic] (derived : operator.Derived)
    (mismatch : inputs.length ≠ operator.arity) :
    ∃ definition, operator.StartsWith definition ∧
      .primitive definition ∈ Catalogue.builtins ∧
      ∀ trace, (operator.evaluate inputs).after trace =
        (.error (.wrongArity definition.header.uniqueName operator.arity inputs.length),
          trace) := by
  have fails : ∃ definition, operator.StartsWith definition ∧
      .primitive definition ∈ Catalogue.builtins ∧
      operator.evaluate inputs =
        .fail (.wrongArity definition.header.uniqueName operator.arity inputs.length) := by
    revert mismatch
    refine derived.inductionOn ?primitive ?composite
    case primitive =>
      intro definition member mismatch
      refine ⟨definition, .primitive definition, member, ?_⟩
      cases Catalogue.builtFrom_checksArity member with
      | primitive checks => exact checks inputs mismatch
    case composite =>
      intro header outer inners composes _ _ _ induction mismatch
      obtain ⟨first, others, rfl⟩ := List.exists_cons_of_ne_nil composes.nonempty
      -- the first inner operator has the arity of the composite, and so the same inputs are wrong
      have arity := composes.arity first List.mem_cons_self
      obtain ⟨definition, starts, member, failed⟩ :=
        induction first List.mem_cons_self (by rwa [arity])
      rw [arity] at failed
      exact ⟨definition, .composite starts, member, composite_evaluate_of_fail failed⟩
  obtain ⟨definition, starts, member, failed⟩ := fails
  exact ⟨definition, starts, member, fun trace => by rw [failed, Run.after_fail]⟩

/-- A variable that would yield a number if it were read. -/
def unaskedNumber : Variable :=
  (Leaf.steady 0 .integer (.ok (.integer 7))).toVariable

theorem greaterOrEqual_arity_comes_first :
    [unaskedNumber].length ≠ Catalogue.greaterOrEqual.arity ∧
      ∃ definition, Catalogue.greaterOrEqual.StartsWith definition ∧
        definition.header.uniqueName = "relational.equals" ∧
        (Catalogue.greaterOrEqual.evaluate [unaskedNumber]).after .empty =
          (.error (.wrongArity "relational.equals" 2 1), .empty) := by
  have mismatch : [unaskedNumber].length ≠ Catalogue.greaterOrEqual.arity := by decide
  have derived : Derived Catalogue.greaterOrEqual :=
    .builtin (by simp [Catalogue.builtins, Catalogue.relational])
  have ended : (Catalogue.greaterOrEqual.evaluate [unaskedNumber]).after .empty =
      (.error (.wrongArity "relational.equals" 2 1), .empty) := rfl
  obtain ⟨definition, starts, -, failed⟩ := derived.arity_comes_first mismatch
  have named := (failed .empty).symm.trans ended
  simp only [Prod.mk.injEq, Outcome.error.injEq, EvaluationError.wrongArity.injEq] at named
  exact ⟨mismatch, definition, starts, named.1.1, ended⟩

end Operator

/-!
## The check of a wiring

A composite accepts a wiring when all its inner operators do. Its own signature rules out nothing
more: each slot declares what some inner operator declares there, and every check of the catalogue
starts with the default one. So the primitive operators decide that are left when composites are
replaced by their inner operators, again and again.
-/

namespace Operator

variable {operator outer : Operator} {inners : List Operator} {header : Header}
  {types : List (Option ValueType)} {definition : Primitive}

mutual

/-- The primitive operators that are left when composites are replaced by their inner operators. -/
def innermost : Operator → List Primitive
  | primitive definition => [definition]
  | composite _ _ inners => innermostAll inners

/-- The primitive operators that are left of several operators, in order. -/
def innermostAll : List Operator → List Primitive
  | [] => []
  | operator :: operators => operator.innermost ++ innermostAll operators

end

theorem mem_innermostAll :
    definition ∈ innermostAll inners ↔ ∃ inner ∈ inners, definition ∈ innermost inner := by
  induction inners with
  | nil => simp [innermostAll]
  | cons inner inners induction => simp [innermostAll, induction]

/-- Whatever passes the check of an operator passes the default check of its signature. -/
def RefinesDefault (operator : Operator) : Prop :=
  ∀ types, operator.checkTypes types = .ok () → TypeCheck.default operator.header types = .ok ()

theorem RefinesDefault.composite : (composite header outer inners).RefinesDefault :=
  fun _ accepted => (composite_checkTypes_eq_ok_iff.mp accepted).1

theorem refinesDefault_of_default {template : Template} {symbol name : String} {body : Body}
    (check : template.check = none) : (template.operator symbol name body).RefinesDefault := by
  intro types accepted
  simp only [checkTypes, Template.operator, Primitive.checkTypes, check] at accepted
  exact accepted

/-- A check that goes on after the default one. -/
theorem refinesDefault_of_more {template : Template} {symbol name : String} {body : Body}
    {more : TypeCheck}
    (check : template.check = some fun header types => do
      TypeCheck.default header types
      more header types) :
    (template.operator symbol name body).RefinesDefault := by
  intro types accepted
  simp only [checkTypes, Template.operator, Primitive.checkTypes, check] at accepted
  exact (TypeCheck.then_eq_ok_iff.mp accepted).1

/-- The check of a built-in operator starts with the default one. -/
theorem refinesDefault_builtin [HostArithmetic] (member : operator ∈ Catalogue.builtins) :
    operator.RefinesDefault := by
  refine Catalogue.builtins_cases member ?conjunction ?disjunction ?negation ?arithmetic ?modulus
    ?onInteger ?onIntegers ?equals ?strictOrder ?stringLength ?concatenation ?displayName ?rounding
    ?listLength ?element ?choice ?identity ?notEquals ?orEqual
  case arithmetic => exact fun _ _ _ _ => refinesDefault_of_more rfl
  case equals => exact refinesDefault_of_more rfl
  case strictOrder => exact fun _ _ _ => refinesDefault_of_more rfl
  case choice => exact refinesDefault_of_more rfl
  case notEquals => exact fun _ _ => .composite
  case orEqual => exact fun _ _ _ _ _ _ _ _ => .composite
  all_goals
    intros
    exact refinesDefault_of_default rfl

theorem Derived.refinesDefault [HostArithmetic] (derived : Derived operator) :
    operator.RefinesDefault := by
  cases derived with
  | builtin member => exact refinesDefault_builtin member
  | composed _ _ composed =>
      obtain ⟨header, rfl, -⟩ := composes_of_compose composed
      exact .composite

/-- The signature of a composite admits what the signatures of all inner operators admit. -/
theorem Composes.default (composes : Composes header outer inners)
    (each : ∀ inner ∈ inners, TypeCheck.default inner.header types = .ok ()) :
    TypeCheck.default header types = .ok () := by
  obtain ⟨first, among⟩ := List.exists_mem_of_ne_nil _ composes.nonempty
  obtain ⟨given, rfl⟩ := TypeCheck.exists_of_default (each first among)
  have admitted : ∀ inner ∈ inners,
      List.Forall₂ (fun slot type => slot.accepts type = true) inner.header.inputs given :=
    fun inner member => TypeCheck.default_eq_ok_iff.mp (each inner member)
  have lengths : header.arity = given.length :=
    (composes.arity first among).symm.trans (admitted first among).length_eq
  rw [TypeCheck.default_eq_ok_iff, List.forall₂_iff_get]
  refine ⟨lengths, fun slot inside within => ?_⟩
  obtain ⟨inner, member, declared⟩ := composes.exists_slot inside
  rw [List.getElem?_eq_getElem inside] at declared
  rcases getElem?_of_forall₂ (admitted inner member) slot with
    ⟨missing, -⟩ | ⟨expected, got, found, present, accepted⟩
  · cases declared.trans missing
  · rw [List.getElem?_eq_getElem within] at present
    cases declared.trans found
    cases present
    exact accepted

theorem composite_checkTypes_iff [HostArithmetic] (composes : Composes header outer inners)
    (derived : ∀ inner ∈ inners, Derived inner) :
    (composite header outer inners).checkTypes types = .ok () ↔
      ∀ inner ∈ inners, checkTypes inner types = .ok () := by
  rw [composite_checkTypes_eq_ok_iff]
  refine ⟨fun accepted => accepted.2, fun each => ⟨composes.default fun inner member => ?_, each⟩⟩
  exact (derived inner member).refinesDefault types (each inner member)

/-- A derived operator accepts what all its innermost operators accept. -/
theorem Derived.checkTypes_eq_ok_iff [HostArithmetic] (derived : Derived operator) :
    operator.checkTypes types = .ok () ↔
      ∀ definition ∈ operator.innermost, definition.checkTypes types = .ok () := by
  refine derived.inductionOn ?primitive ?composite
  case primitive =>
    intro definition _
    rw [innermost, List.forall_mem_singleton, checkTypes]
  case composite =>
    intro header outer inners composes _ innersDerived _ induction
    rw [composite_checkTypes_iff composes innersDerived, innermost]
    simp only [mem_innermostAll, forall_exists_index, and_imp]
    constructor
    · intro each definition inner member among
      exact (induction inner member).mp (each inner member) definition among
    · intro each inner member
      exact (induction inner member).mpr fun definition among => each definition inner member among

theorem Derived.innermost_builtin [HostArithmetic] (derived : Derived operator) :
    ∀ definition ∈ operator.innermost, .primitive definition ∈ Catalogue.builtins := by
  refine derived.inductionOn ?primitive ?composite
  case primitive =>
    intro definition member
    rwa [innermost, List.forall_mem_singleton]
  case composite =>
    intro header outer inners _ _ _ _ induction definition among
    rw [innermost] at among
    obtain ⟨inner, member, within⟩ := mem_innermostAll.mp among
    exact induction inner member definition within

/-- Operators that are asked in turn reject a wiring as the first of them that rejects it. -/
theorem checkAll_eq_error_iff {cause : TypeError} :
    checkAll inners types = .error cause ↔
      ∃ earlier inner later, inners = earlier ++ inner :: later ∧
        (∀ other ∈ earlier, checkTypes other types = .ok ()) ∧
        checkTypes inner types = .error cause := by
  induction inners with
  | nil => simp [checkAll]
  | cons inner inners induction =>
      rw [checkAll, TypeCheck.then_eq_error_iff, induction]
      constructor
      · rintro (rejected | ⟨accepted, earlier, other, later, rfl, each, rejected⟩)
        · exact ⟨[], inner, inners, rfl, List.forall_mem_nil _, rejected⟩
        · exact ⟨inner :: earlier, other, later, rfl,
            List.forall_mem_cons.mpr ⟨accepted, each⟩, rejected⟩
      · rintro ⟨earlier, other, later, split, each, rejected⟩
        cases earlier with
        | nil =>
            cases split
            exact .inl rejected
        | cons first earlier =>
            cases split
            obtain ⟨accepted, each⟩ := List.forall_mem_cons.mp each
            exact .inr ⟨accepted, earlier, other, later, rfl, each, rejected⟩

/-- A composite accepts a wiring exactly when all its innermost operators do, which are primitive
ones of the catalogue. It rejects a wiring as the default check of its signature does or else, if
that one passes, as the first of its inner operators that rejects it. -/
theorem composite_accepts_iff [HostArithmetic] (derived : Derived (composite header outer inners))
    (types : List (Option ValueType)) :
    header.inputs = narrowestSignature inners header.arity ∧
      (∀ definition ∈ (composite header outer inners).innermost,
        .primitive definition ∈ Catalogue.builtins) ∧
      ((composite header outer inners).checkTypes types = .ok () ↔
        ∀ definition ∈ (composite header outer inners).innermost,
          definition.checkTypes types = .ok ()) ∧
      ∀ cause, (composite header outer inners).checkTypes types = .error cause ↔
        TypeCheck.default header types = .error cause ∨
          TypeCheck.default header types = .ok () ∧
            ∃ earlier inner later, inners = earlier ++ inner :: later ∧
              (∀ other ∈ earlier, checkTypes other types = .ok ()) ∧
              checkTypes inner types = .error cause := by
  obtain ⟨composes, -, -⟩ := derived.composite_parts
  refine ⟨composes.inputs, derived.innermost_builtin, derived.checkTypes_eq_ok_iff, fun cause => ?_⟩
  rw [checkTypes, TypeCheck.then_eq_error_iff, checkAll_eq_error_iff]

/-- That one value is greater than another, as a composite of composites. -/
def strictlyGreater : Except CompositionError Operator :=
  Catalogue.conjunction.compose [Catalogue.greaterOrEqual, Catalogue.notEquals] ">!" "greater"
    .between "custom"

/-- Two integers can be compared. An integer and a double cannot, although the signature admits
them. -/
theorem strictlyGreater_accepts :
    ∃ made, strictlyGreater = .ok made ∧
      made.innermost.map (·.header.name) = ["equals", "gt", "equals"] ∧
      made.checkTypes [some .integer, some .integer] = .ok () ∧
      made.checkTypes [some .integer, some .double] =
        .error (.wrongType "relational.equals" .double 1 .integer) := by
  obtain ⟨made, composed⟩ : ∃ made, strictlyGreater = .ok made := ⟨_, rfl⟩
  have conjunctionDerived : Derived Catalogue.conjunction :=
    .builtin (by simp [Catalogue.builtins, Catalogue.logical])
  have innersDerived :
      ∀ inner ∈ [Catalogue.greaterOrEqual, Catalogue.notEquals], Derived inner := by
    intro inner member
    refine .builtin ?_
    rcases List.mem_pair.mp member with rfl | rfl <;>
      simp [Catalogue.builtins, Catalogue.relational]
  have derived : Derived made := .composed conjunctionDerived innersDerived composed
  cases composed
  obtain ⟨-, -, accepts, -⟩ := composite_accepts_iff derived [some .integer, some .integer]
  obtain ⟨-, -, -, rejects⟩ := composite_accepts_iff derived [some .integer, some .double]
  refine ⟨_, rfl, rfl, accepts.mpr ?_, (rejects _).mpr (.inr ?_)⟩
  · exact List.forall_mem_cons.mpr
      ⟨rfl, List.forall_mem_cons.mpr ⟨rfl, List.forall_mem_singleton.mpr rfl⟩⟩
  · exact ⟨rfl, [], Catalogue.greaterOrEqual, [Catalogue.notEquals], rfl,
      List.forall_mem_nil _, rfl⟩

end Operator

end Dataflow

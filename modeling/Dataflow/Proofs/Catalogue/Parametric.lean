import Dataflow.Proofs.Operator.Parametric

/-!
# The built-in operators are parametric

One lemma for each way in which a built-in operator computes; the catalogue is assembled from them.
-/

namespace Dataflow.Catalogue

open Run (Related)

variable [HostArithmetic]

/-- What arithmetic answers agrees with itself. -/
theorem calculate_agrees {agree : Value → Value → Prop} (congruence : Value.Congruence agree)
    {operation : ArithmeticOperation} {left right answer : Value}
    (calculated : Category.number.calculate operation left right = .ok answer) :
    agree answer answer := by
  rcases Category.calculate_cases calculated with ⟨literal, -⟩ | ⟨serial, -, answered⟩
  · refine congruence.literal ?_
    cases answer <;> first | rfl | cases literal
  · exact congruence.calculated _ _ _ _ _ answered

theorem displayName_related {agree : Value → Value → Prop} (congruence : Value.Congruence agree)
    {left right : Value} (agreed : agree left right) :
    Category.named.displayName left = Category.named.displayName right := by
  obtain ⟨-, rfl⟩ | ⟨view, other, rfl, rfl, -⟩ := congruence.view agreed <;> rfl

/-- The slots of arithmetic and of comparisons admit no lists. -/
theorem numbers_parametric {header : Header}
    (slots : header.inputs = [.placeholder .number, .placeholder .number])
    {combine : Value → Value → Evaluation Value}
    (combines : ∀ ⦃aligned agree⦄, Value.Congruence agree → ∀ left right,
      Related aligned agree (combine left right) (combine left right)) :
    Slots.Parametric header (fun slots => do
      let left ← slots.value 0
      let right ← slots.value 1
      combine left right) := by
  intro aligned agree inputs others congruence wired
  refine Related.bind
    (Slots.value_same congruence wired (by exact congrArg (·[0]?) slots) rfl) ?_
  rintro left _ rfl
  refine Related.bind
    (Slots.value_same congruence wired (by exact congrArg (·[1]?) slots) rfl) ?_
  rintro right _ rfl
  exact combines congruence left right

theorem calculated_parametric {header : Header}
    (slots : header.inputs = [.placeholder .number, .placeholder .number])
    (operation : ArithmeticOperation) : Slots.Parametric header (calculated operation) :=
  numbers_parametric slots fun _ _ congruence _ _ =>
    Related.ofOutcome (.refl fun _ calculated => calculate_agrees congruence calculated)

theorem compared_parametric {header : Header}
    (slots : header.inputs = [.placeholder .number, .placeholder .number]) (wanted : Ordering) :
    Slots.Parametric header (compared wanted) := by
  refine numbers_parametric slots fun aligned agree congruence left right => ?_
  refine Related.bind (Related.same _) ?_
  rintro order _ rfl
  exact Related.pure (congruence.literal rfl)

section

variable {header : Header}

/-- Reading one payload that lists do not have, and changing it into a value without elements. -/
theorem read_parametric {α : Type} (expected : ValueType) {payload? : Value → Option α}
    (noList : ∀ view, payload? (.list view) = none) {change : α → Value}
    (plain : ∀ payload, (change payload).list? = none) :
    Slots.Parametric header (fun slots => do
      let payload ← slots.read 0 expected payload?
      pure (change payload)) := by
  intro aligned agree inputs others congruence wired
  refine Related.bind (Slots.read_related congruence wired 0 expected noList) ?_
  rintro payload _ rfl
  exact Related.pure (congruence.literal (plain payload))

/-- Reading two payloads of one kind, and combining them into a value without elements. -/
theorem read_read_parametric {α : Type} (expected : ValueType) {payload? : Value → Option α}
    (noList : ∀ view, payload? (.list view) = none) {combine : α → α → Value}
    (plain : ∀ left right, (combine left right).list? = none) :
    Slots.Parametric header (fun slots => do
      let left ← slots.read 0 expected payload?
      let right ← slots.read 1 expected payload?
      pure (combine left right)) := by
  intro aligned agree inputs others congruence wired
  refine Related.bind (Slots.read_related congruence wired 0 expected noList) ?_
  rintro left _ rfl
  refine Related.bind (Slots.read_related congruence wired 1 expected noList) ?_
  rintro right _ rfl
  exact Related.pure (congruence.literal (plain left right))

theorem modulus_parametric : Slots.Parametric header (fun slots => do
    let divisor ← slots.integer 1
    if divisor = 0 then .fail .divisionByZero
    else if divisor = 1 then pure (.integer 0)
    else do
      let dividend ← slots.integer 0
      pure (.integer (dividend % divisor))) := by
  intro aligned agree inputs others congruence wired
  refine Related.bind (Slots.read_related congruence wired 1 .integer fun _ => rfl) ?_
  rintro divisor _ rfl
  split
  · exact Related.fail _
  split
  · exact Related.pure (congruence.literal rfl)
  · exact read_parametric .integer (fun _ => rfl) (fun _ => rfl) congruence wired

theorem equals_parametric : Slots.Parametric header (fun slots => do
    let left ← slots.value 0
    let right ← slots.value 1
    .boolean <$> Run.ofPulling (left.equal right)) := by
  intro aligned agree inputs others congruence wired
  refine Related.bind (Slots.value_related congruence wired 0) fun lefts => ?_
  refine Related.bind (Slots.value_related congruence wired 1) fun rights => ?_
  simp only [← bind_pure_comp]
  refine Related.bind (Related.ofPulling (congruence.equal lefts rights)) ?_
  rintro truth _ rfl
  exact Related.pure (congruence.literal rfl)

theorem displayName_parametric : Slots.Parametric header (fun slots => do
    let value ← slots.value 0
    .string <$> Run.ofOutcome (Category.named.displayName value)) := by
  intro aligned agree inputs others congruence wired
  refine Related.bind (Slots.value_related congruence wired 0) fun agreed => ?_
  rw [displayName_related congruence agreed]
  simp only [← bind_pure_comp]
  refine Related.bind (Related.same _) ?_
  rintro name _ rfl
  exact Related.pure (congruence.literal rfl)

omit [HostArithmetic] in
theorem elementAt_related {aligned : Nat → Nat → Prop} {agree : Value → Value → Prop}
    {view other : ListView Value} (views : view.Agrees agree other) (index : Int32) :
    Related aligned agree (elementAt view index) (elementAt other index) := by
  simp only [elementAt, ← views.length]
  by_cases inside : 0 ≤ index.toInt ∧ index.toInt < view.length
  · simp only [inside, and_self, if_true]
    have accessed : Related aligned Eq
        (Run.ofPulling (Pulling.access view.handle index.toInt.toNat) : Evaluation Unit)
        (Run.ofPulling (Pulling.access other.handle index.toInt.toNat)) := Related.ofPulling rfl
    refine Related.bind accessed fun _ => ?_
    exact Related.ofOutcome (views.elements _ (by omega))
  · simp only [inside, if_false]
    exact Related.fail _

theorem element_parametric : Slots.Parametric header (fun slots => do
    let view ← slots.list 0
    let index ← slots.integer 1
    elementAt view index) := by
  intro aligned agree inputs others congruence wired
  refine Related.bind (Slots.list_related congruence wired 0) fun views => ?_
  refine Related.bind (Slots.read_related congruence wired 1 .integer fun _ => rfl) ?_
  rintro index _ rfl
  exact elementAt_related views index

theorem listLength_parametric : Slots.Parametric header (fun slots => do
    let view ← slots.list 0
    pure (lengthValue view.length)) := by
  intro aligned agree inputs others congruence wired
  refine Related.bind (Slots.list_related congruence wired 0) fun {view other} views => ?_
  rw [views.length]
  exact Related.pure (congruence.literal rfl)

/-- A condition that chooses between two ways to go on. -/
theorem condition_parametric {yes no : Slots → Evaluation Value}
    (onTrue : Slots.Parametric header yes) (onFalse : Slots.Parametric header no) :
    Slots.Parametric header (fun slots => do
      slots.checkArity
      if ← slots.condition 0 then yes slots else no slots) := by
  intro aligned agree inputs others congruence wired
  refine Related.bind (Slots.checkArity_related wired) fun _ => ?_
  refine Related.bind (Slots.condition_related congruence wired 0) ?_
  rintro truth _ rfl
  cases truth with
  | true => exact onTrue congruence wired
  | false => exact onFalse congruence wired

theorem value_parametric (index : Nat) : Slots.Parametric header (·.value index) := by
  intro aligned agree inputs others congruence wired
  exact Slots.value_related congruence wired index

theorem unchecked_parametric (index : Nat) : Slots.Parametric header (·.unchecked index) := by
  intro aligned agree inputs others _ wired
  exact Slots.unchecked_related wired index

theorem pure_parametric {value : Value} (plain : value.list? = none) :
    Slots.Parametric header (fun _ => pure value) := by
  intro aligned agree inputs others congruence _
  exact Related.pure (congruence.literal plain)

end

theorem operator_parametric {template : Template} {symbol name : String} {body : Body}
    {compute : Slots → Evaluation Value} (runs : body = .raw compute ∨ body = .safe compute)
    (computes : Slots.Parametric (template.operator symbol name body).header compute)
    (rule : ∀ rule, template.outputRule = some rule → rule.Parametric := by nofun) :
    (template.operator symbol name body).BuiltFrom Primitive.Parametric :=
  .primitive (Primitive.parametric runs computes rule)

theorem inputType_rule (slot : Nat) :
    ∀ rule, some (OutputRule.inputType slot) = some rule → rule.Parametric := by
  rintro _ ⟨⟩
  exact OutputRule.inputType_parametric slot

/-- Every built-in operator is built from parametric parts. -/
theorem builtFrom_parametric {operator : Operator} (member : operator ∈ builtins) :
    operator.BuiltFrom Primitive.Parametric := by
  refine builtins_cases member ?conjunction ?disjunction ?negation ?arithmetic ?modulus ?onInteger
    ?onIntegers ?equals ?strictOrder ?stringLength ?concatenation ?displayName ?rounding
    ?listLength ?element ?choice ?identity ?notEquals ?orEqual
  case conjunction =>
    exact operator_parametric (.inl rfl)
      (condition_parametric (unchecked_parametric 1) (pure_parametric rfl))
  case disjunction =>
    exact operator_parametric (.inl rfl)
      (condition_parametric (pure_parametric rfl) (unchecked_parametric 1))
  case negation =>
    exact operator_parametric (.inr rfl) (read_parametric .boolean (fun _ => rfl) fun _ => rfl)
  case arithmetic =>
    intro pattern symbol name operation
    exact operator_parametric (.inr rfl) (calculated_parametric rfl operation) (inputType_rule 0)
  case modulus => exact operator_parametric (.inr rfl) modulus_parametric
  case onInteger =>
    intro kind pattern symbol name function
    exact operator_parametric (.inr rfl) (read_parametric .integer (fun _ => rfl) fun _ => rfl)
  case onIntegers =>
    intro symbol name function
    exact operator_parametric (.inr rfl)
      (read_read_parametric .integer (fun _ => rfl) fun _ _ => rfl)
  case equals => exact operator_parametric (.inr rfl) equals_parametric
  case strictOrder =>
    intro symbol name wanted
    exact operator_parametric (.inr rfl) (compared_parametric rfl wanted)
  case stringLength =>
    exact operator_parametric (.inr rfl) (read_parametric .string (fun _ => rfl) fun _ => rfl)
  case concatenation =>
    exact operator_parametric (.inr rfl)
      (read_read_parametric .string (fun _ => rfl) fun _ _ => rfl)
  case displayName => exact operator_parametric (.inr rfl) displayName_parametric
  case rounding =>
    intro symbol name function
    exact operator_parametric (.inr rfl) (read_parametric .double (fun _ => rfl) fun _ => rfl)
  case listLength => exact operator_parametric (.inr rfl) listLength_parametric
  case element =>
    refine operator_parametric (.inr rfl) element_parametric ?_
    rintro _ ⟨⟩
    exact OutputRule.elementType_parametric
  case choice =>
    exact operator_parametric (.inl rfl)
      (condition_parametric (unchecked_parametric 1) (unchecked_parametric 2))
      (inputType_rule 1)
  case identity =>
    exact operator_parametric (.inr rfl) (value_parametric 0) (inputType_rule 0)
  case notEquals => exact notEquals_builtFrom
  case orEqual => exact fun _ _ _ _ _ => orEqual_builtFrom

end Dataflow.Catalogue

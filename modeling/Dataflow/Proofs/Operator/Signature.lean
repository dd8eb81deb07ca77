import Dataflow.Catalogue
import Mathlib.Data.List.GetD

/-!
# The signature of a composite

The inner operators of a composite share its inputs, and each slot of the composite declares the
narrowest type that one of them declares there. Narrowness is only a rank, which unrelated types may
share. But where one of the declared types is accepted by all of them, this is the type that is
found, whatever the order of the inner operators.
-/

namespace Dataflow

/-!
## What compositions are made of

Operators can be composed when the inner ones are as many as the slots of the outer one, not none,
and of one arity. Each slot of the composite then declares a type that one of the inner operators
declares there.
-/

namespace ValueType

theorem narrower_eq_or (left right : ValueType) :
    left.narrower right = left ∨ left.narrower right = right := by
  rw [narrower]
  split
  · exact .inr rfl
  · exact .inl rfl

theorem foldl_narrower_mem (type : ValueType) (types : List ValueType) :
    types.foldl narrower type ∈ type :: types := by
  induction types generalizing type with
  | nil => exact List.mem_cons_self
  | cons next types induction =>
      rw [List.foldl_cons]
      rcases List.mem_cons.mp (induction (type.narrower next)) with kept | later
      · rw [kept]
        rcases narrower_eq_or type next with left | right
        · rw [left]
          exact List.mem_cons_self
        · rw [right]
          exact List.mem_cons_of_mem _ List.mem_cons_self
      · exact List.mem_cons_of_mem _ (List.mem_cons_of_mem _ later)

/-- The narrowest of some types is one of them. -/
theorem narrowest_mem {types : List ValueType} (nonempty : types ≠ []) :
    narrowest types ∈ types := by
  cases types with
  | nil => exact absurd rfl nonempty
  | cons type types => exact foldl_narrower_mem type types

end ValueType

namespace Operator

variable {header : Header} {outer made : Operator} {inners : List Operator}
  {symbol name kind : String} {pattern : RenderPattern} {slot arity : Nat}

@[simp] theorem length_narrowestSignature :
    (narrowestSignature inners arity).length = arity := by
  simp [narrowestSignature]

theorem getElem?_narrowestSignature (nonempty : inners ≠ []) (inside : slot < arity) :
    ∃ inner ∈ inners, (narrowestSignature inners arity)[slot]? = some (inner.slotType slot) := by
  have declared : inners.map (·.slotType slot) ≠ [] := by simpa using nonempty
  obtain ⟨inner, member, same⟩ := List.mem_map.mp (ValueType.narrowest_mem declared)
  refine ⟨inner, member, ?_⟩
  rw [narrowestSignature, List.getElem?_map, List.getElem?_range inside, same]
  rfl

/-- Inner operators of one signature make a composite of this signature. -/
theorem narrowestSignature_of_forall {signature : List ValueType} (nonempty : inners ≠ [])
    (each : ∀ inner ∈ inners, inner.header.inputs = signature) :
    narrowestSignature inners signature.length = signature := by
  refine List.ext_getElem? fun slot => ?_
  by_cases inside : slot < signature.length
  · obtain ⟨inner, member, same⟩ := getElem?_narrowestSignature nonempty inside
    rw [same, slotType, each inner member, List.getD_eq_getElem _ _ inside,
      List.getElem?_eq_getElem inside]
  · rw [List.getElem?_eq_none (by simpa using inside),
      List.getElem?_eq_none (by simpa using inside)]

/-- When operators can be composed, and into what. -/
theorem compose_eq_ok_iff :
    outer.compose inners symbol name pattern kind = .ok made ↔
      inners.length = outer.arity ∧ inners ≠ [] ∧
        ∃ arity, (∀ inner ∈ inners, inner.arity = arity) ∧
          made = composition outer inners arity symbol name pattern kind := by
  unfold compose
  by_cases count : inners.length = outer.arity
  · cases inners with
    | nil => simp [count]
    | cons first others =>
        simp only [count, ne_eq, not_true_eq_false, if_false, true_and, List.forall_mem_cons]
        split
        · rename_i other found
          have different : other.arity ≠ first.arity := by simpa using List.find?_some found
          constructor
          · rintro ⟨⟩
          · rintro ⟨-, arity, ⟨same, each⟩, -⟩
            exact absurd ((each other (List.mem_of_find?_eq_some found)).trans same.symm) different
        · rename_i missing
          have each : ∀ other ∈ others, other.arity = first.arity := by
            simpa using List.find?_eq_none.mp missing
          constructor
          · rintro ⟨⟩
            exact ⟨List.cons_ne_nil _ _, first.arity, ⟨rfl, each⟩, rfl⟩
          · rintro ⟨-, arity, ⟨rfl, -⟩, rfl⟩
            rfl
  · simp [count]

/-- A header as composing some operators makes it. -/
structure Composes (header : Header) (outer : Operator) (inners : List Operator) : Prop where
  count : inners.length = outer.arity
  nonempty : inners ≠ []
  arity : ∀ inner ∈ inners, inner.arity = header.arity
  inputs : header.inputs = narrowestSignature inners header.arity
  output : header.output = outer.header.output

/-- What a composite declares for a slot, an inner operator declares there. -/
theorem Composes.exists_slot (composes : Composes header outer inners)
    (inside : slot < header.arity) :
    ∃ inner ∈ inners, header.inputs[slot]? = inner.header.inputs[slot]? := by
  obtain ⟨inner, member, declared⟩ := getElem?_narrowestSignature composes.nonempty inside
  have there : slot < inner.header.inputs.length := by
    change slot < inner.arity
    rwa [composes.arity inner member]
  refine ⟨inner, member, ?_⟩
  rw [composes.inputs, declared, slotType, List.getD_eq_getElem _ _ there,
    List.getElem?_eq_getElem there]

theorem composes_of_compose (composed : outer.compose inners symbol name pattern kind = .ok made) :
    ∃ header, made = .composite header outer inners ∧ Composes header outer inners := by
  obtain ⟨count, nonempty, arity, each, rfl⟩ := compose_eq_ok_iff.mp composed
  refine ⟨_, rfl, count, nonempty, ?_, ?_, rfl⟩
  · simpa only [Header.arity, length_narrowestSignature] using each
  · simp only [Header.arity, length_narrowestSignature]

end Operator

/-! ## The narrowest declared type -/

namespace ValueType

variable {slot type least : ValueType} {types : List ValueType}

theorem specificity_le_narrower (left right : ValueType) :
    left.specificity ≤ (left.narrower right).specificity ∧
      right.specificity ≤ (left.narrower right).specificity := by
  rw [narrower]
  split <;> omega

theorem specificity_le_foldl {first : ValueType}
    (bounded : type.specificity ≤ first.specificity ∨ type ∈ types) :
    type.specificity ≤ (types.foldl narrower first).specificity := by
  induction types generalizing first with
  | nil => exact bounded.resolve_right nofun
  | cons next types induction =>
      have rises := specificity_le_narrower first next
      rcases bounded with below | among
      · exact induction (.inl (Nat.le_trans below rises.1))
      · rcases List.mem_cons.mp among with rfl | later
        · exact induction (.inl rises.2)
        · exact induction (.inr later)

/-- The narrowest of some types is as narrow as each of them. -/
theorem specificity_le_narrowest (member : type ∈ types) :
    type.specificity ≤ (narrowest types).specificity := by
  cases types with
  | nil => cases member
  | cons first types =>
      rcases List.mem_cons.mp member with rfl | later
      · exact specificity_le_foldl (.inl (Nat.le_refl _))
      · exact specificity_le_foldl (.inr later)

/-- A slot is less narrow than any other type that it accepts. -/
theorem eq_of_accepts_of_specificity_le (accepted : slot.accepts type = true)
    (narrow : type.specificity ≤ slot.specificity) : slot = type := by
  by_cases concrete : slot.isConcrete = true
  · exact (accepts_of_isConcrete concrete accepted).symm
  cases slot with
  | placeholder category =>
      cases type with
      | placeholder other =>
          by_cases any : category = .any
          · cases other with
            | any => rw [any]
            | _ => simp [any, specificity] at narrow
          · rcases (accepts_placeholder_iff any).mp accepted with same | member
            · exact same.symm
            · cases member
      | _ => cases category <;> simp [specificity] at narrow
  | _ => exact absurd rfl concrete

/-- A type that all of some types accept is the narrowest of them, if it is one of them. -/
theorem narrowest_eq_of_forall_accepts (member : least ∈ types)
    (below : ∀ type ∈ types, type.accepts least = true) : narrowest types = least :=
  eq_of_accepts_of_specificity_le (below _ (narrowest_mem (List.ne_nil_of_mem member)))
    (specificity_le_narrowest member)

end ValueType

namespace Operator

variable {header : Header} {operator outer made : Operator} {inners reordered : List Operator}
  {symbol name kind : String} {pattern : RenderPattern} {slot : Nat} {type least : ValueType}

/-- What an operator declares for a slot that it has. -/
def Declares (operator : Operator) (slot : Nat) (type : ValueType) : Prop :=
  operator.header.inputs[slot]? = some type

/-- The slot is there, and takes a type. -/
def Takes (operator : Operator) (slot : Nat) (actual : ValueType) : Prop :=
  ∃ declared, operator.Declares slot declared ∧ declared.accepts actual = true

theorem Declares.slotType_eq (declares : operator.Declares slot type) :
    operator.slotType slot = type := by
  rw [slotType, List.getD_eq_getElem?_getD, declares, Option.getD_some]

theorem declares_slotType (inside : slot < operator.arity) :
    operator.Declares slot (operator.slotType slot) := by
  rw [Declares, slotType, List.getD_eq_getElem _ _ inside]
  exact List.getElem?_eq_getElem inside

/-- Composing fails when the inner operators are not as many as the slots, or none. -/
theorem compose_eq_innerCount (count : inners = [] ∨ inners.length ≠ outer.arity) :
    outer.compose inners symbol name pattern kind =
      .error (.innerCount (kind ++ "." ++ name) outer.arity inners.length) := by
  unfold compose
  split
  · rfl
  · rename_i same
    obtain rfl := count.resolve_right same
    rfl

/-- Composing fails at the first inner operator whose arity is not that of the first one. -/
theorem compose_eq_innerArity {first other : Operator} {earlier later : List Operator}
    (count : (first :: (earlier ++ other :: later)).length = outer.arity)
    (same : ∀ inner ∈ earlier, inner.arity = first.arity)
    (different : other.arity ≠ first.arity) :
    outer.compose (first :: (earlier ++ other :: later)) symbol name pattern kind =
      .error (.innerArity (kind ++ "." ++ name) first.arity other.arity) := by
  have found : (earlier ++ other :: later).find? (·.arity ≠ first.arity) = some other := by
    rw [List.find?_append, List.find?_eq_none.mpr (by simpa using same), Option.none_or,
      List.find?_cons_of_pos (by simpa using different)]
  unfold compose
  rw [if_neg (by simpa using count)]
  simp only [found]

/-- What a composite declares for a slot. -/
theorem Composes.getElem?_inputs (composes : Composes header outer inners)
    (inside : slot < header.arity) :
    header.inputs[slot]? = some (.narrowest (inners.map (·.slotType slot))) := by
  rw [composes.inputs, narrowestSignature, List.getElem?_map, List.getElem?_range inside]
  rfl

/-- The composite declares what an inner operator declares, if all of them admit that. -/
theorem Composes.getElem?_inputs_of_least (composes : Composes header outer inners)
    (declared : ∃ inner ∈ inners, inner.Declares slot least)
    (below : ∀ inner ∈ inners, inner.Takes slot least) :
    header.inputs[slot]? = some least := by
  obtain ⟨inner, member, declares⟩ := declared
  have inside : slot < header.arity := by
    rw [← composes.arity inner member]
    exact (List.getElem?_eq_some_iff.mp declares).1
  rw [composes.getElem?_inputs inside, ValueType.narrowest_eq_of_forall_accepts]
  · exact List.mem_map.mpr ⟨inner, member, declares.slotType_eq⟩
  · intro type among
    obtain ⟨other, member', rfl⟩ := List.mem_map.mp among
    obtain ⟨expected, declares', accepted⟩ := below other member'
    rwa [declares'.slotType_eq]

theorem exists_compose_iff :
    (∃ made, outer.compose inners symbol name pattern kind = .ok made) ↔
      inners ≠ [] ∧ inners.length = outer.arity ∧
        ∀ inner ∈ inners, ∀ other ∈ inners, inner.arity = other.arity := by
  constructor
  · rintro ⟨made, composed⟩
    obtain ⟨count, nonempty, arity, each, -⟩ := compose_eq_ok_iff.mp composed
    refine ⟨nonempty, count, fun inner member other member' => ?_⟩
    rw [each inner member, each other member']
  · rintro ⟨nonempty, count, same⟩
    obtain ⟨first, among⟩ := List.exists_mem_of_ne_nil _ nonempty
    exact ⟨_, compose_eq_ok_iff.mpr ⟨count, nonempty, first.arity,
      fun inner member => same inner member first among, rfl⟩⟩

/-- Operators that can be composed can be composed in any order, and the order makes no difference
to a slot of which one inner operator declares what all of them admit. -/
theorem exists_compose_of_perm (perm : reordered.Perm inners)
    (composed : outer.compose inners symbol name pattern kind = .ok made)
    (declared : ∃ inner ∈ inners, inner.Declares slot least)
    (below : ∀ inner ∈ inners, inner.Takes slot least) :
    ∃ remade, outer.compose reordered symbol name pattern kind = .ok remade ∧
      remade.Declares slot least := by
  obtain ⟨nonempty, count, same⟩ := exists_compose_iff.mp ⟨made, composed⟩
  have possible : ∃ remade, outer.compose reordered symbol name pattern kind = .ok remade := by
    refine exists_compose_iff.mpr ⟨?_, perm.length_eq.trans count, fun inner member other member' =>
      same inner (perm.mem_iff.mp member) other (perm.mem_iff.mp member')⟩
    rintro rfl
    exact nonempty perm.nil_eq.symm
  obtain ⟨remade, recomposed⟩ := possible
  obtain ⟨header, rfl, composes⟩ := composes_of_compose recomposed
  obtain ⟨inner, member, declares⟩ := declared
  refine ⟨_, recomposed, composes.getElem?_inputs_of_least
    ⟨inner, perm.mem_iff.mpr member, declares⟩ fun other member' => ?_⟩
  exact below other (perm.mem_iff.mp member')

/-- Operators can be composed when there is one inner operator for each slot of the outer one, not
none, and all of them are of one arity; the number is looked at first. The composite has that arity.
Each of its slots declares a type that an inner operator declares there, and admits whatever all of
them admit. If what one of them declares is admitted by all the others, then the composite declares
just this, in whatever order the inner operators are given. -/
theorem compose_signature (outer : Operator) (inners : List Operator) (symbol name : String)
    (pattern : RenderPattern) (kind : String) :
    ((∃ made, outer.compose inners symbol name pattern kind = .ok made) ↔
      inners ≠ [] ∧ inners.length = outer.arity ∧
        ∀ inner ∈ inners, ∀ other ∈ inners, inner.arity = other.arity) ∧
    (inners = [] ∨ inners.length ≠ outer.arity →
      outer.compose inners symbol name pattern kind =
        .error (.innerCount (kind ++ "." ++ name) outer.arity inners.length)) ∧
    (∀ first earlier other later, inners = first :: (earlier ++ other :: later) →
      inners.length = outer.arity → (∀ inner ∈ earlier, inner.arity = first.arity) →
      other.arity ≠ first.arity →
      outer.compose inners symbol name pattern kind =
        .error (.innerArity (kind ++ "." ++ name) first.arity other.arity)) ∧
    ∀ made, outer.compose inners symbol name pattern kind = .ok made →
      (∀ inner ∈ inners, inner.arity = made.arity) ∧
      ∀ slot < made.arity, ∃ type, made.Declares slot type ∧
        (∃ inner ∈ inners, inner.Declares slot type) ∧
        (∀ actual, (∀ inner ∈ inners, inner.Takes slot actual) → made.Takes slot actual) ∧
        ∀ earlier inner later least, inners = earlier ++ inner :: later →
          inner.Declares slot least → (∀ other ∈ earlier ++ later, other.Takes slot least) →
          type = least ∧ ∀ reordered, reordered.Perm inners →
            ∃ remade, outer.compose reordered symbol name pattern kind = .ok remade ∧
              remade.Declares slot least := by
  refine ⟨exists_compose_iff, compose_eq_innerCount, ?_, ?_⟩
  · rintro first earlier other later rfl count same different
    exact compose_eq_innerArity count same different
  · intro made composed
    obtain ⟨header, rfl, composes⟩ := composes_of_compose composed
    refine ⟨composes.arity, fun slot inside => ?_⟩
    obtain ⟨inner, member, declared⟩ := composes.exists_slot inside
    have there : slot < inner.arity := by
      rw [composes.arity inner member]
      exact inside
    have declares := declares_slotType there
    refine ⟨inner.slotType slot, declared.trans declares, ⟨inner, member, declares⟩, ?_, ?_⟩
    · intro actual admitted
      obtain ⟨type, declares', accepted⟩ := admitted inner member
      exact ⟨type, declared.trans declares', accepted⟩
    · rintro earlier lower later least rfl lowest admitted
      have among : lower ∈ earlier ++ lower :: later :=
        List.mem_append_right earlier List.mem_cons_self
      have below : ∀ inner ∈ earlier ++ lower :: later, inner.Takes slot least := by
        simp only [List.forall_mem_append, List.forall_mem_cons] at admitted ⊢
        exact ⟨admitted.1, ⟨least, lowest, least.accepts_refl⟩, admitted.2⟩
      have found := composes.getElem?_inputs_of_least ⟨lower, among, lowest⟩ below
      refine ⟨Option.some.inj ((declared.trans declares).symm.trans found), ?_⟩
      exact fun reordered perm => exists_compose_of_perm perm composed ⟨lower, among, lowest⟩ below

/-- Equality takes any types and the strict order takes numbers, so that their composite takes
numbers. -/
example : (compose Catalogue.disjunction [Catalogue.equals, Catalogue.greaterThan] ">=" "ge"
    .between "relational").map (·.header.inputs) =
      .ok [.placeholder .number, .placeholder .number] := rfl

end Operator

end Dataflow

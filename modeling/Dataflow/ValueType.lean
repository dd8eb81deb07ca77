/-!
# Value types

A type is either concrete, so that values carry it, or the placeholder of a category, which appears
in signatures only and admits every member of its category. Hosts declare concrete types of their
own. Two types are the same when they are the same declaration: the id shown to users may repeat.

The central relation is `ValueType.accepts`: which types a slot admits.
-/

namespace Dataflow

/-!
## Categories

A category groups value types that share operations: every type is in `any`, the numeric ones are in
`number`, and host objects with a display name are in `named`.
-/

/-- A group of value types that share operations. -/
inductive Category where
  /-- Every value type. -/
  | any
  /-- Types with arithmetic. -/
  | number
  /-- Host types whose objects have a display name. -/
  | named
deriving DecidableEq

namespace Category

/-- The name of a category, which is also the id of its placeholder type. -/
def name : Category → String
  | any => "any"
  | number => "number"
  | named => "named"

/-- All categories, widest first. -/
def all : List Category := [any, number, named]

end Category

/-! ## Types -/

/-- The arithmetic that a numeric type is declared with. -/
inductive Arithmetic where
  /-- Words of 32 bits that wrap around. -/
  | integer
  /-- Floating-point numbers of 64 bits. -/
  | double
  /-- What a host makes of numbers of its own. Its arithmetic is known by a serial number, as its
  types are, and several of these may share it. -/
  | host (serial : Nat)
deriving DecidableEq

/-- What a host says of a type that it declares. -/
inductive HostKind where
  /-- Members of the given categories, without arithmetic. -/
  | plain (categories : List Category)
  /-- A member of `number` with the given arithmetic. -/
  | numeric (arithmetic : Arithmetic)
deriving DecidableEq

/-- A type declared by a host. The serial number tells apart declarations that share an id. -/
structure HostType where
  serial : Nat
  id : String
  kind : HostKind
deriving DecidableEq

/-- The kind of a value, or of the values that a slot admits. -/
inductive ValueType where
  | boolean
  | integer
  | double
  | string
  | list
  /-- Stands for every member of a category. -/
  | placeholder (category : Category)
  /-- Declared by a host. -/
  | host (declaration : HostType)
deriving DecidableEq

namespace ValueType

/-- The identity shown to users. Distinct types may share it. -/
def id : ValueType → String
  | boolean => "boolean"
  | integer => "integer"
  | double => "double"
  | string => "string"
  | list => "list"
  | placeholder category => category.name
  | host declaration => declaration.id

/-- The key under which a user interface finds the display name of a type. -/
def localizationKey (type : ValueType) : String :=
  "valuetype." ++ type.id

/-- The categories that a type is declared with, besides `any`. -/
def categories : ValueType → List Category
  | integer | double => [.number]
  | boolean | string | list | placeholder _ => []
  | host declaration =>
      match declaration.kind with
      | .plain categories => categories
      | .numeric _ => [.number]

/-- The arithmetic that a type is declared with. -/
def arithmetic? : ValueType → Option Arithmetic
  | integer => some .integer
  | double => some .double
  | boolean | string | list | placeholder _ => none
  | host declaration =>
      match declaration.kind with
      | .plain _ => none
      | .numeric arithmetic => some arithmetic

/-- A type whose arithmetic, if it has any, is that of integers or of doubles. -/
def Conventional (type : ValueType) : Prop :=
  ∀ serial, type.arithmetic? ≠ some (.host serial)

/-- The category that a placeholder stands for. -/
def placeholder? : ValueType → Option Category
  | placeholder category => some category
  | boolean | integer | double | string | list | host _ => none

/-- Whether values can carry the type. -/
def isConcrete (type : ValueType) : Bool :=
  type.placeholder?.isNone

/-- Whether a type belongs to a category. -/
def isMember (type : ValueType) (category : Category) : Bool :=
  category == .any || type.categories.contains category

/-- Whether a slot of type `slot` admits `actual`: a concrete slot admits its own type only, a
placeholder itself and the members of its category. -/
def accepts (slot actual : ValueType) : Bool :=
  match slot with
  | placeholder .any => true
  | placeholder category => slot == actual || actual.isMember category
  | boolean | integer | double | string | list | host _ => slot == actual

/-- How narrow a slot is: concrete types above categories, categories above `any`. -/
def specificity : ValueType → Nat
  | placeholder .any => 0
  | placeholder _ => 1
  | boolean | integer | double | string | list | host _ => 2

/-- The form of a type in diagnostics. -/
def debugText (type : ValueType) : String :=
  "ValueType(" ++ type.id ++ ")"

/-- The types that no host declares, concrete ones first. -/
def builtins : List ValueType :=
  [boolean, integer, double, string, list] ++ Category.all.map placeholder

/-- The built-in type with the given id. -/
def lookup? (id : String) : Option ValueType :=
  builtins.find? (·.id == id)

@[simp] theorem accepts_refl (type : ValueType) : type.accepts type = true := by
  cases type with
  | placeholder category => cases category <;> simp [accepts]
  | _ => simp [accepts]

@[simp] theorem any_accepts (actual : ValueType) :
    (placeholder .any).accepts actual = true := rfl

end ValueType

/-!
## Acceptance as an order

A slot accepts what any type accepts that it accepts itself.
-/

namespace ValueType

variable {slot type actual : ValueType}

theorem accepts_of_isConcrete (concrete : slot.isConcrete = true)
    (accepted : slot.accepts actual = true) : actual = slot := by
  cases slot with
  | placeholder category => cases concrete
  | _ => exact (of_decide_eq_true accepted).symm

theorem accepts_placeholder_iff {category : Category} (narrow : category ≠ .any) :
    (placeholder category).accepts actual = true ↔
      actual = placeholder category ∨ actual.categories.contains category = true := by
  cases category with
  | any => exact absurd rfl narrow
  | _ =>
      simp only [accepts, isMember, Bool.or_eq_true, beq_iff_eq, reduceCtorEq, false_or]
      exact or_congr_left eq_comm

/-- Acceptance is transitive, whatever categories the types belong to. -/
theorem accepts_trans (outer : slot.accepts type = true) (inner : type.accepts actual = true) :
    slot.accepts actual = true := by
  by_cases concrete : type.isConcrete = true
  · rwa [accepts_of_isConcrete concrete inner]
  cases type with
  | placeholder category =>
      cases slot with
      | placeholder wider =>
          by_cases any : wider = .any
          · rw [any]
            exact any_accepts actual
          · rcases (accepts_placeholder_iff any).mp outer with same | member
            · rwa [← same]
            · cases member
      | _ => exact absurd (accepts_of_isConcrete rfl outer) nofun
  | _ => exact absurd rfl concrete

end ValueType

end Dataflow

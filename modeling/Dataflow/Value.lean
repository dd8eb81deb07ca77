import Dataflow.Decimal
import Dataflow.Outcome
import Dataflow.Text

/-!
# Values

A value is an immutable payload with a type. Lists are views: they report their length and produce
elements on demand, and an element may fail to be produced. A list is known by its handle, so that
two views with the same elements can still be told apart.
-/

namespace Dataflow

/-- An object supplied by a host, known by its type and its display name. -/
structure HostObject where
  type : ValueType
  name : String
  /-- The host's own equality, asked with the type and the name of the other object. -/
  equality : Option (ValueType → String → Bool) := none

/-- Whether a host object equals another one: the host's own equality decides if there is one, and
otherwise type and name do. -/
def HostObject.sameAs (left right : HostObject) : Bool :=
  match left.equality with
  | some equality => equality right.type right.name
  | none => left.type == right.type && left.name == right.name

/-- A view of a sequence whose elements are produced on demand. -/
structure ListView (α : Type) where
  handle : Nat
  elementType : ValueType
  length : Nat
  element : Nat → Except EvaluationError α

/-- The form of a view in diagnostics. -/
def ListView.debugText {α : Type} (view : ListView α) : String :=
  "ValueList \x7b element_type: " ++ view.elementType.debugText ++ ", len: " ++
    toString view.length ++ " \x7d"

/-- The error index of an access, which is reported as a signed word of 64 bits. -/
def reportedIndex (index : Nat) : Int :=
  (index : Int).bmod UInt64.size

/-- The view of a sequence in memory. -/
def ListView.ofList {α : Type} (handle : Nat) (elementType : ValueType) (items : List α) :
    ListView α :=
  let stored := items.toArray
  { handle, elementType
    length := stored.size
    element := fun index =>
      match stored[index]? with
      | some item => .ok item
      | none => .error (.indexOutOfBounds (reportedIndex index) stored.size) }

/-- An immutable typed payload. -/
inductive Value where
  | boolean (truth : Bool)
  /-- A word of 32 bits with wrapping arithmetic. -/
  | integer (number : Int32)
  | double (number : Float)
  | string (text : String)
  | list (view : ListView Value)
  | object (host : HostObject)

namespace Value

/-- The type that a value carries. -/
def type : Value → ValueType
  | boolean _ => .boolean
  | integer _ => .integer
  | double _ => .double
  | string _ => .string
  | list _ => .list
  | object host => host.type

/-- The truth value that a value carries, if it does. -/
def boolean? : Value → Option Bool
  | boolean truth => some truth
  | _ => none

/-- The integer that a value carries, if it does. -/
def integer? : Value → Option Int32
  | integer number => some number
  | _ => none

/-- The double that a value carries, if it does. -/
def double? : Value → Option Float
  | double number => some number
  | _ => none

/-- The string that a value carries, if it does. -/
def string? : Value → Option String
  | string text => some text
  | _ => none

/-- The list that a value carries, if it does. -/
def list? : Value → Option (ListView Value)
  | list view => some view
  | _ => none

end Value

/-!
## Pulling elements from lists

Producing an element of a list can be observed by the host behind the list. A `Pulling` computation
answers and says which elements it pulled, in order.
-/

/-- One access to an element of a list. -/
structure Pull where
  handle : Nat
  index : Nat
deriving DecidableEq

/-- An answer together with the accesses made for it, oldest first. -/
structure Pulling (α : Type) where
  answer : α
  pulls : List Pull

namespace Pulling

variable {α β ε : Type}

instance : Monad Pulling where
  map change pulling := ⟨change pulling.answer, pulling.pulls⟩
  pure answer := ⟨answer, []⟩
  bind first next :=
    let second := next first.answer
    ⟨second.answer, first.pulls ++ second.pulls⟩

@[simp] theorem answer_pure (answer : α) : (pure answer : Pulling α).answer = answer := rfl

@[simp] theorem pulls_pure (answer : α) : (pure answer : Pulling α).pulls = [] := rfl

@[simp] theorem answer_map (change : α → β) (pulling : Pulling α) :
    (change <$> pulling).answer = change pulling.answer := rfl

@[simp] theorem pulls_map (change : α → β) (pulling : Pulling α) :
    (change <$> pulling).pulls = pulling.pulls := rfl

@[simp] theorem answer_bind (first : Pulling α) (next : α → Pulling β) :
    (first >>= next).answer = (next first.answer).answer := rfl

@[simp] theorem pulls_bind (first : Pulling α) (next : α → Pulling β) :
    (first >>= next).pulls = first.pulls ++ (next first.answer).pulls := rfl

@[ext] theorem ext {left right : Pulling α} (answers : left.answer = right.answer)
    (accesses : left.pulls = right.pulls) : left = right := by
  cases left; cases right; simp_all

instance : LawfulMonad Pulling where
  map_const := rfl
  id_map _ := rfl
  seqLeft_eq _ _ := by apply Pulling.ext <;> simp [SeqLeft.seqLeft, Seq.seq]
  seqRight_eq _ _ := by apply Pulling.ext <;> simp [SeqRight.seqRight, Seq.seq]
  pure_seq _ _ := by apply Pulling.ext <;> simp [Seq.seq]
  bind_pure_comp _ _ := by apply Pulling.ext <;> simp
  bind_map _ _ := rfl
  pure_bind _ _ := by apply Pulling.ext <;> simp
  bind_assoc _ _ _ := by apply Pulling.ext <;> simp

/-- One access. -/
def access (handle index : Nat) : Pulling Unit :=
  ⟨(), [⟨handle, index⟩]⟩

/-- The elements from `start` on, `count` of them, or the first failure. -/
def elements (handle : Nat) (element : Nat → Except ε α) :
    (start count : Nat) → Pulling (Except ε (List α))
  | _, 0 => pure (.ok [])
  | start, count + 1 => do
      access handle start
      match element start with
      | .error cause => pure (.error cause)
      | .ok item => (·.map (item :: ·)) <$> elements handle element (start + 1) count

/-- Whether a test holds from `start` on, `count` times. It stops at the first failure. -/
def holds (test : Nat → Pulling Bool) : (start count : Nat) → Pulling Bool
  | _, 0 => pure true
  | start, count + 1 => do
      if ← test start then holds test (start + 1) count else pure false

/-- The answers from `start` on, `count` of them. -/
def collect (answer : Nat → Pulling α) : (start count : Nat) → Pulling (List α)
  | _, 0 => pure []
  | start, count + 1 => do
      let first ← answer start
      (first :: ·) <$> collect answer (start + 1) count

end Pulling

namespace ListView

/-- All elements of a view, or the first failure. -/
def items {α : Type} (view : ListView α) : Pulling (Except EvaluationError (List α)) :=
  Pulling.elements view.handle view.element 0 view.length

end ListView

/-!
## Equality of values

Values of different kinds are never equal. Lists with one handle are equal without a look at their
elements. Other lists are equal when they agree in element type and length, all their elements can
be produced, and the elements are pairwise equal; the elements of both are pulled before any two of
them are compared, those of the right list even if one on the left has failed.
-/

mutual

/-- Whether two values are equal. -/
def Value.equal : Value → Value → Pulling Bool
  | .boolean left, .boolean right => pure (left == right)
  | .integer left, .integer right => pure (left == right)
  | .double left, .double right => pure (left == right)
  | .string left, .string right => pure (left == right)
  | .list ⟨handle, elementType, length, element⟩, .list right =>
      if handle = right.handle then pure true
      else if elementType ≠ right.elementType ∨ length ≠ right.length then pure false
      else do
        let produced ← Pulling.elements handle element 0 length
        let others ← right.items
        if produced.isOk && others.isOk then
          Pulling.holds (fun index => elementEqual (element index) (right.element index)) 0 length
        else pure false
  | .object left, .object right => pure (left.sameAs right)
  | _, _ => pure false

/-- Whether two elements are produced and equal. -/
def elementEqual :
    Except EvaluationError Value → Except EvaluationError Value → Pulling Bool
  | .ok left, .ok right => left.equal right
  | _, _ => pure false

end

/-!
## The text of values

Every value has a text. The text of a list shows each element and so pulls each of them once;
elements that cannot be produced do not make it fail.
-/

/-- Stands for an element that cannot be produced. -/
def missingElement : String := "<error>"

mutual

/-- The text of a value. Strings stand in quotes as they are. -/
def Value.text : Value → Pulling String
  | .boolean truth => pure (if truth then "true" else "false")
  | .integer number => pure (toString number.toInt)
  | .double number => pure (Decimal.text number)
  | .string text => pure ("\"" ++ text ++ "\"")
  | .list ⟨handle, _, length, element⟩ => do
      let parts ← Pulling.collect (fun index => do
        Pulling.access handle index
        elementText (element index)) 0 length
      pure ("[" ++ ", ".intercalate parts ++ "]")
  | .object host => pure host.name

/-- The text of an element. -/
def elementText : Except EvaluationError Value → Pulling String
  | .ok value => value.text
  | .error _ => pure missingElement

end

/-- The form of a value in diagnostics. It shows no element of a list. -/
def Value.debugText : Value → String
  | boolean truth => "Boolean(" ++ (if truth then "true" else "false") ++ ")"
  | integer number => "Integer(" ++ toString number.toInt ++ ")"
  | double number => "Double(" ++ Decimal.text number ++ ")"
  | string text => "String(" ++ Text.quoted text ++ ")"
  | list view => "List(" ++ view.debugText ++ ")"
  | object host => "Object(" ++ host.name ++ ")"

end Dataflow

import Dataflow.Expression
import Dataflow.Proofs.Json.Reading

/-!
# Spellings of expressions

An expression without doubles may be written in several ways: an application is an object whose
members come in either order, or an array, and the JSON value that is chosen has many spellings of
its own. As long as arrays and objects are not nested too deeply, the expression is read back from
all of them, and so no two expressions share one.
-/

namespace Dataflow

open Json (Tree)

/-! ## Integers -/

namespace Decimal

theorem ofDigits_toDigits (number : Nat) :
    ofDigits ((Nat.toDigits 10 number).map Json.digitValue) = number := by
  have value := Nat.ofDigitChars_toDigits (b := 10) (n := number) (by omega) (by omega)
  rw [Nat.ofDigitChars_eq_foldl] at value
  simpa only [ofDigits, List.foldl_map, Json.digitValue, Nat.mul_comm] using value

theorem Numeral.integer?_plain (number : Int) : (Numeral.plain number).integer? = some number := by
  rw [integer?, plain]
  by_cases negative : number < 0
  · have nonzero : number.natAbs ≠ 0 := by omega
    simp only [ofDigits_toDigits, decide_eq_true negative, if_neg nonzero]
    exact congrArg some (by omega)
  · simp only [ofDigits_toDigits, decide_eq_false negative]
    exact congrArg some (Int.natAbs_of_nonneg (by omega))

end Decimal

namespace Expression

theorem word?_toInt (number : Int32) : word? number.toInt = some number := by
  have least := number.minValue_le_toInt
  have greatest : number.toInt ≤ Int32.maxValue.toInt := Int.le_of_lt_add_one number.toInt_lt
  rw [word?, if_pos ⟨least, greatest⟩, Int32.ofInt_toInt]

/-! ## The format -/

/-- The JSON values that stand for an expression: an object with one member, named for the kind of
the expression. Doubles have none. -/
inductive HasForm : Expression → Tree → Prop
  | boolean (truth : Bool) : HasForm (boolean truth) (.object [(some "boolean", .boolean truth)])
  | integer (number : Int32) :
      HasForm (integer number) (.object [(some "integer", .number (.plain number.toInt))])
  | string (text : String) : HasForm (string text) (.object [(some "string", .string (some text))])
  | list {items : List Expression} {trees : List Tree} : List.Forall₂ HasForm items trees →
      HasForm (list items) (.object [(some "list", .array trees)])
  | operatorFirst {key : String} {arguments : List Expression} {trees : List Tree} :
      List.Forall₂ HasForm arguments trees →
      HasForm (apply key arguments) (.object [(some "apply",
        .object [(some "op", .string (some key)), (some "args", .array trees)])])
  | argumentsFirst {key : String} {arguments : List Expression} {trees : List Tree} :
      List.Forall₂ HasForm arguments trees →
      HasForm (apply key arguments) (.object [(some "apply",
        .object [(some "args", .array trees), (some "op", .string (some key))])])
  | pair {key : String} {arguments : List Expression} {trees : List Tree} :
      List.Forall₂ HasForm arguments trees →
      HasForm (apply key arguments) (.object [(some "apply",
        .array [.string (some key), .array trees])])

/-- The texts in which an expression may be written: spellings of one of its forms, in which fewer
than 128 arrays and objects are nested. -/
def Written (expression : Expression) (text : String) : Prop :=
  ∃ tree, expression.HasForm tree ∧ tree.depth < 128 ∧ tree.Written text

/-! ## Reading -/

theorem ofArray?_of_items {items : List Expression} {trees : List Tree} {depth : Nat}
    (shallow : Tree.depthOfItems trees < depth)
    (read : ∀ depth, Tree.depthOfItems trees ≤ depth → ofItems? depth trees = some items) :
    ofArray? depth (.array trees) = some items := by
  obtain _ | depth := depth
  · omega
  · exact read depth (by omega)

mutual

theorem ofTree?_of_form : ∀ {expression : Expression} {tree : Tree} {depth : Nat},
    expression.HasForm tree → tree.depth ≤ depth → ofTree? depth tree = some expression
  | expression, tree, 0, form, shallow => by
      cases form <;> simp [Tree.depth] at shallow
  | boolean truth, _, depth + 1, form, _ => by
      cases form
      simp [ofTree?, literal?]
  | integer number, _, depth + 1, form, _ => by
      cases form
      simp [ofTree?, literal?, Decimal.Numeral.integer?_plain, word?_toInt]
  | double number, _, depth + 1, form, _ => nomatch form
  | string text, _, depth + 1, form, _ => by
      cases form
      simp [ofTree?, literal?]
  | list items, _, depth + 1, form, shallow => by
      cases form with
      | @list _ trees forms =>
          simp only [Tree.depth, Tree.depthOfMembers] at shallow
          have read : ofArray? depth (.array trees) = some items :=
            ofArray?_of_items (by omega) fun _ => ofItems?_of_forms forms
          simp [ofTree?, read]
  | apply key arguments, _, depth + 2, form, shallow => by
      cases form with
      | @operatorFirst _ _ trees forms =>
          simp only [Tree.depth, Tree.depthOfMembers] at shallow
          have read : ofArray? depth (.array trees) = some arguments :=
            ofArray?_of_items (by omega) fun _ => ofItems?_of_forms forms
          simp [ofTree?, ofApplication?, ofMembers?, read]
      | @argumentsFirst _ _ trees forms =>
          simp only [Tree.depth, Tree.depthOfMembers] at shallow
          have read : ofArray? depth (.array trees) = some arguments :=
            ofArray?_of_items (by omega) fun _ => ofItems?_of_forms forms
          simp [ofTree?, ofApplication?, ofMembers?, read]
      | @pair _ _ trees forms =>
          simp only [Tree.depth, Tree.depthOfMembers, Tree.depthOfItems] at shallow
          have read : ofArray? depth (.array trees) = some arguments :=
            ofArray?_of_items (by omega) fun _ => ofItems?_of_forms forms
          simp [ofTree?, ofApplication?, read]
  | apply key arguments, _, 1, form, shallow => by
      cases form <;> simp [Tree.depth, Tree.depthOfMembers, Tree.depthOfItems] at shallow

theorem ofItems?_of_forms : ∀ {expressions : List Expression} {trees : List Tree} {depth : Nat},
    List.Forall₂ HasForm expressions trees → Tree.depthOfItems trees ≤ depth →
    ofItems? depth trees = some expressions
  | [], _, depth, forms, _ => by
      cases forms
      rfl
  | expression :: expressions, _, depth, forms, shallow => by
      obtain _ | ⟨form, forms⟩ := forms
      rw [Tree.depthOfItems, max_le_iff] at shallow
      rw [ofItems?, ofTree?_of_form form shallow.1, ofItems?_of_forms forms shallow.2]
      rfl

end

/-! ## Writing -/

mutual

/-- Whether no double occurs in an expression. -/
def withoutDoubles : Expression → Bool
  | boolean _ | integer _ | string _ => true
  | double _ => false
  | list items => allWithoutDoubles items
  | apply _ arguments => allWithoutDoubles arguments

/-- Whether no double occurs in several expressions. -/
def allWithoutDoubles : List Expression → Bool
  | [] => true
  | expression :: expressions => expression.withoutDoubles && allWithoutDoubles expressions

end

mutual

theorem exists_form : ∀ {expression : Expression}, expression.withoutDoubles = true →
    ∃ tree, expression.HasForm tree
  | boolean truth, _ => ⟨_, .boolean truth⟩
  | integer number, _ => ⟨_, .integer number⟩
  | string text, _ => ⟨_, .string text⟩
  | list _, free => (exists_forms free).elim fun _ forms => ⟨_, .list forms⟩
  | apply _ _, free => (exists_forms free).elim fun _ forms => ⟨_, .operatorFirst forms⟩

theorem exists_forms : ∀ {expressions : List Expression}, allWithoutDoubles expressions = true →
    ∃ trees, List.Forall₂ HasForm expressions trees
  | [], _ => ⟨[], .nil⟩
  | expression :: expressions, free => by
      rw [allWithoutDoubles, Bool.and_eq_true] at free
      obtain ⟨tree, form⟩ := exists_form free.1
      obtain ⟨trees, forms⟩ := exists_forms free.2
      exact ⟨tree :: trees, .cons form forms⟩

end

theorem spellable_member (kind : String) {content : Tree} (spellable : content.Spellable) :
    (Tree.object [(some kind, content)]).Spellable :=
  Tree.spellable_object [(kind, content)] (List.forall_mem_singleton.mpr spellable)

mutual

/-- All forms of an expression can be written down. -/
theorem spellable_of_form : ∀ {expression : Expression} {tree : Tree},
    expression.HasForm tree → tree.Spellable
  | boolean true, _, .boolean _ => spellable_member _ (Tree.spellable_scalar rfl ⟨_, .yes⟩)
  | boolean false, _, .boolean _ => spellable_member _ (Tree.spellable_scalar rfl ⟨_, .no⟩)
  | integer number, _, .integer _ =>
      spellable_member _ (Tree.spellable_scalar rfl ⟨_, .integer number.toInt⟩)
  | string text, _, .string _ => spellable_member _ (Tree.spellable_string text)
  | list items, _, .list forms =>
      spellable_member _ (Tree.spellable_array (spellable_of_forms forms))
  | apply key arguments, _, .operatorFirst forms => by
      refine spellable_member _ (Tree.spellable_object [("op", _), ("args", _)] ?_)
      rw [List.forall_mem_cons, List.forall_mem_singleton]
      exact ⟨Tree.spellable_string key, Tree.spellable_array (spellable_of_forms forms)⟩
  | apply key arguments, _, .argumentsFirst forms => by
      refine spellable_member _ (Tree.spellable_object [("args", _), ("op", _)] ?_)
      rw [List.forall_mem_cons, List.forall_mem_singleton]
      exact ⟨Tree.spellable_array (spellable_of_forms forms), Tree.spellable_string key⟩
  | apply key arguments, _, .pair forms => by
      refine spellable_member _ (Tree.spellable_array ?_)
      rw [List.forall_mem_cons, List.forall_mem_singleton]
      exact ⟨Tree.spellable_string key, Tree.spellable_array (spellable_of_forms forms)⟩

theorem spellable_of_forms : ∀ {expressions : List Expression} {trees : List Tree},
    List.Forall₂ HasForm expressions trees → ∀ tree ∈ trees, tree.Spellable
  | [], _, forms => by
      cases forms
      exact List.forall_mem_nil _
  | expression :: expressions, _, forms => by
      obtain _ | ⟨form, forms⟩ := forms
      exact List.forall_mem_cons.mpr ⟨spellable_of_form form, spellable_of_forms forms⟩

end

/-- The format loses nothing. An expression is read back from all texts in which it may be written,
so that no other expression may be written in them. Without doubles there is a form of it, and each
form has a spelling. -/
theorem written_determines (expression : Expression) :
    (∀ text, expression.Written text → ofText? text = some expression ∧
      ∀ other : Expression, other.Written text → other = expression) ∧
    (expression.withoutDoubles = true → ∃ tree, expression.HasForm tree) ∧
    ∀ tree, expression.HasForm tree → ∃ text, tree.Written text := by
  have read : ∀ {expression : Expression} {text : String}, expression.Written text →
      ofText? text = some expression := by
    rintro expression text ⟨tree, form, shallow, written⟩
    rw [ofText?, Tree.ofText?_of_written written]
    exact ofTree?_of_form form (Nat.le_of_lt_succ shallow)
  refine ⟨fun text written => ⟨read written, fun other written' => ?_⟩, exists_form, ?_⟩
  · exact Option.some.inj ((read written').symm.trans (read written))
  · exact fun tree form => (spellable_of_form form).exists_written

/-- An array for the application, blanks, an escape and a sign. -/
theorem written_determines_escaped :
    ofText? "\x7b \"apply\" : [\"\\u002B\",[\x7b\"integer\":-7\x7d]]\n\x7d" =
      some (apply "+" [integer (-7)]) := by
  refine ((written_determines _).1 _ ⟨_, .pair (.cons (.integer (-7)) .nil), by decide, ?_⟩).1
  have plus : Json.SpellsCharacter '+' ['\\', 'u', '0', '0', '2', 'B'] :=
    .unit (by decide)
      (.cons (.inl rfl) (.cons (.inl rfl) (.cons (.inl rfl) (.cons (.inr rfl) .nil))))
  have none : Json.Gap [] := nofun
  have blank : ∀ character ∈ [' ', '\n'], Json.Gap [character] := by simp [Json.Gap]
  have spelled : Json.Spells [.openBrace, .string (some "apply"), .colon, .openBracket,
      .string (some "+"), .comma, .openBracket, .openBrace, .string (some "integer"), .colon,
      .number (.plain (-7)), .closeBrace, .closeBracket, .closeBracket, .closeBrace] _ :=
    .cons none (.mark rfl) <|
    .cons (blank ' ' (by simp)) (.string (.plain (by decide))) <|
    .cons (blank ' ' (by simp)) (.mark rfl) <|
    .cons (blank ' ' (by simp)) (.mark rfl) <|
    .cons none (.string (.cons plus .nil)) <|
    .cons none (.mark rfl) <|
    .cons none (.mark rfl) <|
    .cons none (.mark rfl) <|
    .cons none (.string (.plain (by decide))) <|
    .cons none (.mark rfl) <|
    .cons none (.integer (-7)) <|
    .cons none (.mark rfl) <|
    .cons none (.mark rfl) <|
    .cons none (.mark rfl) <|
    .cons (blank '\n' (by simp)) (.mark rfl) <|
    .nil none
  exact spelled

end Expression

end Dataflow

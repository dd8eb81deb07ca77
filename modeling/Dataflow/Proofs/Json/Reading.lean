import Dataflow.Proofs.Json.Spelling

/-!
# Reading JSON values

A JSON value is read back from its tokens, whatever is still open when it begins. Together with the
spellings of tokens this says that every way to write a value down denotes this very value.
-/

namespace Dataflow.Json

namespace Tree

mutual

/-- The tokens of a JSON value. -/
def tokens : Tree → List Token
  | null => [.null]
  | boolean truth => [.boolean truth]
  | number numeral => [.number numeral]
  | string text => [.string text]
  | array [] => [.openBracket, .closeBracket]
  | array (item :: items) => .openBracket :: (item.tokens ++ itemTokens items)
  | object [] => [.openBrace, .closeBrace]
  | object ((key, content) :: members) =>
      .openBrace :: .string key :: .colon :: (content.tokens ++ memberTokens members)

/-- The tokens of the items that follow in an array, up to its end. -/
def itemTokens : List Tree → List Token
  | [] => [.closeBracket]
  | item :: items => .comma :: (item.tokens ++ itemTokens items)

/-- The tokens of the members that follow in an object, up to its end. -/
def memberTokens : List (Option String × Tree) → List Token
  | [] => [.closeBrace]
  | (key, content) :: members =>
      .comma :: .string key :: .colon :: (content.tokens ++ memberTokens members)

end

mutual

/-- How many arrays and objects are nested in a JSON value. -/
def depth : Tree → Nat
  | null | boolean _ | number _ | string _ => 0
  | array items => depthOfItems items + 1
  | object members => depthOfMembers members + 1

/-- The greatest depth among items. -/
def depthOfItems : List Tree → Nat
  | [] => 0
  | item :: items => max item.depth (depthOfItems items)

/-- The greatest depth among the contents of members. -/
def depthOfMembers : List (Option String × Tree) → Nat
  | [] => 0
  | (_, content) :: members => max content.depth (depthOfMembers members)

end

/-- The spellings of a JSON value, which may leave blanks between and around its tokens. -/
def Written (tree : Tree) (text : String) : Prop :=
  Spells tree.tokens text.toList

/-! ## Tokens are separated -/

theorem separated_cons {token : Token} {rest : List Token} (mark : token.mark?.isSome)
    (separated : Separated rest) : Separated (token :: rest) := by
  cases rest with
  | nil => exact .singleton token
  | cons next rest => exact .cons_cons (.inl mark) separated

theorem separated_before {token : Token} {rest : List Token}
    (mark : ∀ next ∈ rest.head?, next.mark?.isSome) (separated : Separated rest) :
    Separated (token :: rest) := by
  cases rest with
  | nil => exact .singleton token
  | cons next rest => exact .cons_cons (.inr (mark next rfl)) separated

theorem itemTokens_head (items : List Tree) (rest : List Token) :
    ∀ next ∈ (itemTokens items ++ rest).head?, next.mark?.isSome := by
  cases items <;> · rintro _ ⟨⟩; rfl

theorem memberTokens_head (members : List (Option String × Tree)) (rest : List Token) :
    ∀ next ∈ (memberTokens members ++ rest).head?, next.mark?.isSome := by
  rcases members with _ | ⟨⟨_, _⟩, _⟩ <;> · rintro _ ⟨⟩; rfl

mutual

theorem tokens_separated : ∀ (tree : Tree) {rest : List Token},
    (∀ next ∈ rest.head?, next.mark?.isSome) → Separated rest → Separated (tree.tokens ++ rest)
  | null, _, mark, separated | boolean _, _, mark, separated | number _, _, mark, separated
  | string _, _, mark, separated => separated_before mark separated
  | array [], _, _, separated | object [], _, _, separated =>
      separated_cons rfl (separated_cons rfl separated)
  | array (item :: items), rest, _, separated => by
      rw [tokens, List.cons_append, List.append_assoc]
      exact separated_cons rfl (tokens_separated item (itemTokens_head items rest)
        (itemTokens_separated items separated))
  | object ((key, content) :: members), rest, _, separated => by
      rw [tokens, List.cons_append, List.cons_append, List.cons_append, List.append_assoc]
      refine separated_cons rfl (separated_before (by simp [Token.mark?]) (separated_cons rfl ?_))
      exact tokens_separated content (memberTokens_head members rest)
        (memberTokens_separated members separated)

theorem itemTokens_separated : ∀ (items : List Tree) {rest : List Token},
    Separated rest → Separated (itemTokens items ++ rest)
  | [], _, separated => separated_cons rfl separated
  | item :: items, rest, separated => by
      rw [itemTokens, List.cons_append, List.append_assoc]
      exact separated_cons rfl (tokens_separated item (itemTokens_head items rest)
        (itemTokens_separated items separated))

theorem memberTokens_separated : ∀ (members : List (Option String × Tree)) {rest : List Token},
    Separated rest → Separated (memberTokens members ++ rest)
  | [], _, separated => separated_cons rfl separated
  | (key, content) :: members, rest, separated => by
      rw [memberTokens, List.cons_append, List.cons_append, List.cons_append, List.append_assoc]
      refine separated_cons rfl (separated_before (by simp [Token.mark?]) (separated_cons rfl ?_))
      exact tokens_separated content (memberTokens_head members rest)
        (memberTokens_separated members separated)

end

/-! ## Tokens are read back -/

/-- An item may come first in an array or after others. -/
theorem fold_opened (item : Tree) (stack : List Frame) :
    item.tokens.foldlM Machine.step (.opened stack) =
      item.tokens.foldlM Machine.step (.value (.array [] :: stack)) := by
  cases item with
  | array items => cases items <;> rfl
  | object members => rcases members with _ | ⟨⟨_, _⟩, _⟩ <;> rfl
  | _ => rfl

mutual

theorem fold_tokens : ∀ (tree : Tree) (stack : List Frame),
    tree.tokens.foldlM Machine.step (.value stack) = some (.done tree stack)
  | null, _ | boolean _, _ | number _, _ | string _, _ | array [], _ | object [], _ => rfl
  | array (item :: items), stack => by
      rw [tokens]
      change (item.tokens ++ itemTokens items).foldlM Machine.step (.opened stack) = _
      rw [List.foldlM_append, fold_opened, ← List.foldlM_append,
        foldlM_append_of_eq (fold_tokens item _), fold_itemTokens items]
      rfl
  | object ((key, content) :: members), stack => by
      rw [tokens]
      change (content.tokens ++ memberTokens members).foldlM Machine.step
        (.value (.object [] key :: stack)) = _
      rw [foldlM_append_of_eq (fold_tokens content _), fold_memberTokens members]
      rfl

theorem fold_itemTokens : ∀ (items earlier : List Tree) (item : Tree) (stack : List Frame),
    (itemTokens items).foldlM Machine.step (.done item (.array earlier :: stack)) =
      some (.done (.array (earlier.reverse ++ item :: items)) stack)
  | [], earlier, item, stack => by
      rw [itemTokens]
      change some (Machine.done (.array (item :: earlier).reverse) stack) = _
      rw [List.reverse_cons]
  | next :: items, earlier, item, stack => by
      rw [itemTokens]
      change (next.tokens ++ itemTokens items).foldlM Machine.step
        (.value (.array (item :: earlier) :: stack)) = _
      rw [foldlM_append_of_eq (fold_tokens next _), fold_itemTokens items, List.reverse_cons,
        List.append_assoc]
      rfl

theorem fold_memberTokens : ∀ (members earlier : List (Option String × Tree))
    (key : Option String) (content : Tree) (stack : List Frame),
    (memberTokens members).foldlM Machine.step (.done content (.object earlier key :: stack)) =
      some (.done (.object (earlier.reverse ++ (key, content) :: members)) stack)
  | [], earlier, key, content, stack => by
      rw [memberTokens]
      change some (Machine.done (.object ((key, content) :: earlier).reverse) stack) = _
      rw [List.reverse_cons]
  | (next, inner) :: members, earlier, key, content, stack => by
      rw [memberTokens]
      change (inner.tokens ++ memberTokens members).foldlM Machine.step
        (.value (.object ((key, content) :: earlier) next :: stack)) = _
      rw [foldlM_append_of_eq (fold_tokens inner _), fold_memberTokens members, List.reverse_cons,
        List.append_assoc]
      rfl

end

theorem ofTokens?_tokens (tree : Tree) : ofTokens? tree.tokens = some tree := by
  rw [ofTokens?, fold_tokens tree []]
  rfl

/-- A JSON value is read back from each of its spellings. -/
theorem ofText?_of_written {tree : Tree} {text : String} (written : tree.Written text) :
    ofText? text = some tree := by
  have separated := tree.tokens_separated (by simp) (.nil : Separated [])
  rw [List.append_nil] at separated
  rw [ofText?, tokens?_of_spells written separated]
  exact ofTokens?_tokens tree

/-! ## Spellings exist -/

/-- JSON values that can be written down. -/
def Spellable (tree : Tree) : Prop :=
  ∀ token ∈ tree.tokens, token.Spellable

theorem Spellable.exists_written {tree : Tree} (spellable : tree.Spellable) :
    ∃ text, tree.Written text := by
  obtain ⟨text, spelled⟩ := exists_spells spellable
  exact ⟨String.ofList text, by rwa [Written, String.toList_ofList]⟩

theorem spellable_scalar {token : Token} {tree : Tree} (single : tree.tokens = [token])
    (spellable : token.Spellable) : tree.Spellable := by
  rw [Spellable, single]
  exact List.forall_mem_singleton.mpr spellable

theorem spellable_string (text : String) : (string (some text)).Spellable :=
  spellable_scalar rfl (.string text)

theorem spellable_array {items : List Tree} (each : ∀ item ∈ items, item.Spellable) :
    (array items).Spellable := by
  have following : ∀ items : List Tree, (∀ item ∈ items, item.Spellable) →
      ∀ token ∈ itemTokens items, token.Spellable := by
    intro items each
    induction items with
    | nil => exact List.forall_mem_singleton.mpr (.mark rfl)
    | cons item items induction =>
        obtain ⟨first, rest⟩ := List.forall_mem_cons.mp each
        rw [itemTokens, List.forall_mem_cons, List.forall_mem_append]
        exact ⟨.mark rfl, first, induction rest⟩
  cases items with
  | nil =>
      rw [Spellable, tokens, List.forall_mem_cons, List.forall_mem_singleton]
      exact ⟨.mark rfl, .mark rfl⟩
  | cons item items =>
      obtain ⟨first, rest⟩ := List.forall_mem_cons.mp each
      rw [Spellable, tokens, List.forall_mem_cons, List.forall_mem_append]
      exact ⟨.mark rfl, first, following items rest⟩

theorem spellable_object (members : List (String × Tree))
    (each : ∀ member ∈ members, member.2.Spellable) :
    (object (members.map fun member => (some member.1, member.2))).Spellable := by
  have following : ∀ members : List (String × Tree), (∀ member ∈ members, member.2.Spellable) →
      ∀ token ∈ memberTokens (members.map fun member => (some member.1, member.2)),
        token.Spellable := by
    intro members each
    induction members with
    | nil => exact List.forall_mem_singleton.mpr (.mark rfl)
    | cons member members induction =>
        obtain ⟨first, rest⟩ := List.forall_mem_cons.mp each
        simp only [List.map_cons, memberTokens, List.forall_mem_cons, List.forall_mem_append]
        exact ⟨.mark rfl, .string _, .mark rfl, first, induction rest⟩
  cases members with
  | nil =>
      rw [Spellable, List.map_nil, tokens, List.forall_mem_cons, List.forall_mem_singleton]
      exact ⟨.mark rfl, .mark rfl⟩
  | cons member members =>
      obtain ⟨first, rest⟩ := List.forall_mem_cons.mp each
      simp only [Spellable, List.map_cons, tokens, List.forall_mem_cons, List.forall_mem_append]
      exact ⟨.mark rfl, .string _, .mark rfl, first, following members rest⟩

end Tree

end Dataflow.Json

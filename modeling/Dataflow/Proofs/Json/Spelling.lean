import Dataflow.Json
import Mathlib.Data.List.Chain
import Mathlib.Data.List.Forall2
import Mathlib.Data.List.TakeWhile
import Mathlib.Tactic.IntervalCases

/-!
# Spellings of tokens

A text spells a row of tokens when these stand in it one after the other, with blank characters
between and around them. A string has many spellings, since each of its characters may be written
plainly or by an escape; integers are spelled in decimal only. As long as no two words meet, each
spelling of a row of tokens is split into these tokens again.
-/

namespace Dataflow

/-- The numeral of an integer in plain decimal. -/
def Decimal.Numeral.plain (number : Int) : Numeral where
  negative := decide (number < 0)
  whole := (Nat.toDigits 10 number.natAbs).map Json.digitValue
  fraction := []
  exponent := none

namespace Json

/-! ## What is a spelling -/

/-- A hexadecimal digit, in either case. -/
def HexadecimalDigit (value : Nat) (digit : Char) : Prop :=
  digit = value.digitChar ∨ digit = value.digitChar.toUpper

/-- The four hexadecimal digits of a code unit. -/
def CodeUnit (code : Nat) (digits : List Char) : Prop :=
  List.Forall₂ HexadecimalDigit
    [code / 0x1000, code / 0x100 % 0x10, code / 0x10 % 0x10, code % 0x10] digits

/-- Characters, each with the letter that stands for it after a backslash. -/
def shortEscapes : List (Char × Char) :=
  [('"', '"'), ('\\', '\\'), ('/', '/'), ('\x08', 'b'), ('\x0c', 'f'), ('\n', 'n'), ('\r', 'r'),
    ('\t', 't')]

/-- The spellings of a character inside a string. -/
inductive SpellsCharacter (character : Char) : List Char → Prop
  | plain : ' ' ≤ character → character ≠ '"' → character ≠ '\\' →
      SpellsCharacter character [character]
  | short {letter : Char} : (character, letter) ∈ shortEscapes →
      SpellsCharacter character ['\\', letter]
  | unit {digits : List Char} : character.toNat < 0x10000 → CodeUnit character.toNat digits →
      SpellsCharacter character ('\\' :: 'u' :: digits)
  /-- A pair of surrogates. -/
  | pair {high low : List Char} : 0x10000 ≤ character.toNat →
      CodeUnit (0xd800 + (character.toNat - 0x10000) / 0x400) high →
      CodeUnit (0xdc00 + (character.toNat - 0x10000) % 0x400) low →
      SpellsCharacter character ('\\' :: 'u' :: (high ++ '\\' :: 'u' :: low))

/-- The spellings of a text between its quotes. -/
inductive SpellsText : List Char → List Char → Prop
  | nil : SpellsText [] []
  | cons {character : Char} {text first rest : List Char} : SpellsCharacter character first →
      SpellsText text rest → SpellsText (character :: text) (first ++ rest)

/-- The character of a token that is a mark. -/
def Token.mark? : Token → Option Char
  | openBrace => some '\x7b'
  | closeBrace => some '\x7d'
  | openBracket => some '['
  | closeBracket => some ']'
  | comma => some ','
  | colon => some ':'
  | null | boolean _ | number _ | string _ => none

/-- The spellings of a token. -/
inductive SpellsToken : Token → List Char → Prop
  | mark {token : Token} {character : Char} : token.mark? = some character →
      SpellsToken token [character]
  | yes : SpellsToken (.boolean true) ['t', 'r', 'u', 'e']
  | no : SpellsToken (.boolean false) ['f', 'a', 'l', 's', 'e']
  | integer (number : Int) : SpellsToken (.number (.plain number)) (toString number).toList
  | string {text : String} {inside : List Char} : SpellsText text.toList inside →
      SpellsToken (.string (some text)) ('"' :: (inside ++ ['"']))

/-- Blank characters. -/
def Gap (text : List Char) : Prop :=
  ∀ character ∈ text, character ∈ [' ', '\n', '\r', '\t']

/-- The spellings of a row of tokens. -/
inductive Spells : List Token → List Char → Prop
  | nil {gap : List Char} : Gap gap → Spells [] gap
  | cons {token : Token} {tokens : List Token} {gap word rest : List Char} : Gap gap →
      SpellsToken token word → Spells tokens rest → Spells (token :: tokens) (gap ++ (word ++ rest))

/-- Of two tokens in a row, one is a mark. -/
def Separated : List Token → Prop :=
  List.IsChain fun left right => left.mark?.isSome ∨ right.mark?.isSome

theorem foldlM_append_of_eq {σ τ : Type} {step : σ → τ → Option σ} {state later : σ}
    {first second : List τ} (folded : first.foldlM step state = some later) :
    (first ++ second).foldlM step state = second.foldlM step later := by
  rw [List.foldlM_append, folded]
  rfl

variable {character : Char} {text inside word rest digits : List Char} {code : Nat}
  {earlier tokens : List Token} {pieces : List Piece}

open Lexer

/-! ## Strings -/

/-- A text spells itself, unless it has characters that must be escaped. -/
theorem SpellsText.plain (visible : text.all fun character =>
    ' ' ≤ character ∧ character ≠ '"' ∧ character ≠ '\\') : SpellsText text text := by
  induction text with
  | nil => exact .nil
  | cons character text induction =>
      rw [List.all_cons, Bool.and_eq_true, decide_eq_true_eq] at visible
      obtain ⟨⟨printable, noQuote, noBackslash⟩, rest⟩ := visible
      exact .cons (.plain printable noQuote noBackslash) (induction rest)

theorem hexadecimalValue?_of_digit {value : Nat} {digit : Char} (small : value < 0x10)
    (spelled : HexadecimalDigit value digit) : hexadecimalValue? digit = some value := by
  rcases spelled with rfl | rfl <;> interval_cases value <;> rfl

theorem fold_code (small : code < 0x10000) (spelled : CodeUnit code digits) :
    digits.foldlM step ⟨earlier, .code pieces []⟩ =
      some ⟨earlier, .string (.unit code :: pieces)⟩ := by
  obtain _ | ⟨first, _ | ⟨second, _ | ⟨third, _ | ⟨fourth, _ | _⟩⟩⟩⟩ := spelled
  have first := hexadecimalValue?_of_digit (by omega) first
  have second := hexadecimalValue?_of_digit (by omega) second
  have third := hexadecimalValue?_of_digit (by omega) third
  have fourth := hexadecimalValue?_of_digit (by omega) fourth
  have whole : ((code / 0x1000 * 16 + code / 0x100 % 0x10) * 16 + code / 0x10 % 0x10) * 16 +
      code % 0x10 = code := by omega
  simp [step, first, second, third, fourth, whole]

/-- A code unit of a character is no half of a surrogate pair. -/
theorem decode_unit {rest : List Piece} (small : character.toNat < 0x10000) :
    Piece.decode (.unit character.toNat :: rest) = (character :: ·) <$> Piece.decode rest := by
  have noSurrogate : character.toNat < 0xd800 ∨ 0xdfff < character.toNat := by
    rcases character.valid with low | ⟨high, -⟩
    · exact .inl low
    · exact .inr high
  have noHigh : isHighSurrogate character.toNat = false := by
    simp only [isHighSurrogate, decide_eq_false_iff_not]
    omega
  have noLow : isLowSurrogate character.toNat = false := by
    simp only [isLowSurrogate, decide_eq_false_iff_not]
    omega
  rcases rest with _ | ⟨_ | low, rest⟩ <;>
    simp [Piece.decode, noHigh, noLow, Char.ofNat_toNat]

theorem toNat_lt (character : Char) : character.toNat < 0x110000 := by
  rcases character.valid with low | ⟨-, high⟩
  · exact low.trans (by decide)
  · exact high

theorem decode_pair {rest : List Piece} (large : 0x10000 ≤ character.toNat) :
    Piece.decode (.unit (0xd800 + (character.toNat - 0x10000) / 0x400) ::
      .unit (0xdc00 + (character.toNat - 0x10000) % 0x400) :: rest) =
        (character :: ·) <$> Piece.decode rest := by
  have bound := toNat_lt character
  generalize code : character.toNat = number at large bound ⊢
  have high : isHighSurrogate (0xd800 + (number - 0x10000) / 0x400) = true := by
    simp only [isHighSurrogate, decide_eq_true_eq]
    omega
  have low : isLowSurrogate (0xdc00 + (number - 0x10000) % 0x400) = true := by
    simp only [isLowSurrogate, decide_eq_true_eq]
    omega
  have paired : pairedCharacter (0xd800 + (number - 0x10000) / 0x400)
      (0xdc00 + (number - 0x10000) % 0x400) = character := by
    have whole : 0x10000 + (0xd800 + (number - 0x10000) / 0x400 - 0xd800) * 0x400 +
        (0xdc00 + (number - 0x10000) % 0x400 - 0xdc00) = number := by omega
    rw [pairedCharacter, whole, ← code, Char.ofNat_toNat]
  rw [Piece.decode, high, low, paired]
  rfl

/-- A character that is read inside a string leaves pieces that decode to it. -/
theorem fold_character (spelled : SpellsCharacter character word) :
    ∃ added : List Piece,
      (∀ earlier pieces, word.foldlM step ⟨earlier, .string pieces⟩ =
        some ⟨earlier, .string (added.reverse ++ pieces)⟩) ∧
      ∀ rest, Piece.decode (added ++ rest) = (character :: ·) <$> Piece.decode rest := by
  cases spelled with
  | plain visible noQuote noBackslash =>
      refine ⟨[.character character], fun earlier pieces => ?_, fun rest => rfl⟩
      have printable : ¬ character < ' ' := Char.not_lt.mpr visible
      simp [step, noQuote, noBackslash, printable]
  | @short letter escaped =>
      refine ⟨[.character character], fun earlier pieces => ?_, fun rest => rfl⟩
      simp only [shortEscapes, List.mem_cons, List.not_mem_nil, or_false, Prod.mk.injEq] at escaped
      rcases escaped with ⟨rfl, rfl⟩ | ⟨rfl, rfl⟩ | ⟨rfl, rfl⟩ | ⟨rfl, rfl⟩ | ⟨rfl, rfl⟩ |
        ⟨rfl, rfl⟩ | ⟨rfl, rfl⟩ | ⟨rfl, rfl⟩ <;> rfl
  | unit small digits =>
      refine ⟨[.unit character.toNat], fun earlier pieces => ?_, fun rest => decode_unit small⟩
      exact fold_code small digits
  | @pair high low large first second =>
      refine ⟨[.unit _, .unit _], fun earlier pieces => ?_, fun rest => decode_pair large⟩
      have bound := toNat_lt character
      change (high ++ '\\' :: 'u' :: low).foldlM step ⟨earlier, .code pieces []⟩ = _
      rw [foldlM_append_of_eq (fold_code (by omega) first)]
      change low.foldlM step ⟨earlier, .code (.unit _ :: pieces) []⟩ = _
      rw [fold_code (by omega) second]
      rfl

theorem fold_text (spelled : SpellsText text inside) :
    ∃ added : List Piece,
      (∀ earlier pieces, inside.foldlM step ⟨earlier, .string pieces⟩ =
        some ⟨earlier, .string (added.reverse ++ pieces)⟩) ∧
      Piece.decode added = some text := by
  induction spelled with
  | nil => exact ⟨[], fun _ _ => rfl, rfl⟩
  | @cons character text first rest head _ induction =>
      obtain ⟨here, folded, decoded⟩ := fold_character head
      obtain ⟨added, folded', decoded'⟩ := induction
      refine ⟨here ++ added, fun earlier pieces => ?_, ?_⟩
      · rw [foldlM_append_of_eq (folded _ _), folded', List.reverse_append, List.append_assoc]
      · rw [decoded, decoded']
        rfl

/-! ## Numbers -/

theorem toList_toString (number : Int) :
    (toString number).toList =
      if number < 0 then '-' :: Nat.toDigits 10 number.natAbs
      else Nat.toDigits 10 number.natAbs := by
  cases number with
  | ofNat natural =>
      rw [if_neg (by simp)]
      change (Nat.repr natural).toList = _
      rw [Nat.repr_eq_ofList_toDigits, String.toList_ofList]
      rfl
  | negSucc below =>
      rw [if_pos (Int.negSucc_lt_zero below)]
      change ("-" ++ Nat.repr (below + 1)).toList = _
      have sign : "-".toList = ['-'] := rfl
      rw [String.toList_append, sign, Nat.repr_eq_ofList_toDigits, String.toList_ofList]
      rfl

/-- A number in decimal starts with a zero only if it is zero. -/
theorem head_toDigits {number : Nat} (positive : 0 < number) :
    (Nat.toDigits 10 number).head? ≠ some '0' := by
  induction number using Nat.strong_induction_on with
  | _ number induction =>
      by_cases small : number < 10
      · rw [Nat.toDigits_of_lt_base small]
        interval_cases number <;> decide
      · rw [Nat.toDigits_of_base_le (by omega) (by omega)]
        have shorter := induction (number / 10) (by omega) (by omega)
        cases row : Nat.toDigits 10 (number / 10) with
        | nil => exact absurd row Nat.toDigits_ne_nil
        | cons first others =>
            rw [row] at shorter
            exact shorter

theorem digits_toDigits (number : Nat) :
    Json.digits (Nat.toDigits 10 number) = ((Nat.toDigits 10 number).map digitValue, []) := by
  have all : ∀ digit ∈ Nat.toDigits 10 number, digit.isDigit = true :=
    fun digit member => Nat.isDigit_of_mem_toDigits (by omega) (by omega) member
  rw [Json.digits, List.takeWhile_eq_self_iff.mpr all, List.dropWhile_eq_nil_iff.mpr all]

theorem digitValue_eq_zero {digit : Char} (isDigit : digit.isDigit = true)
    (zero : digitValue digit = 0) : digit = '0' := by
  have least : '0'.toNat ≤ digit.toNat := by
    simp only [Char.isDigit, Bool.and_eq_true, decide_eq_true_eq] at isDigit
    exact isDigit.1
  rw [digitValue] at zero
  exact Char.toNat_inj.mp (by omega)

/-- A numeral without a sign is read to its end. -/
theorem unsigned?_toDigits (negative : Bool) (number : Nat) :
    unsigned? negative (Nat.toDigits 10 number) =
      some ⟨negative, (Nat.toDigits 10 number).map digitValue, [], none⟩ := by
  have leading : ∀ first second others, Nat.toDigits 10 number = first :: second :: others →
      digitValue first ≠ 0 := by
    intro first second others row zero
    have isDigit : first.isDigit = true :=
      Nat.isDigit_of_mem_toDigits (by omega) (by omega) (row ▸ List.mem_cons_self)
    have positive : 0 < number := by
      by_contra none
      obtain rfl : number = 0 := by omega
      cases row
    exact head_toDigits positive (by rw [row, digitValue_eq_zero isDigit zero]; rfl)
  rw [unsigned?, digits_toDigits]
  rcases row : Nat.toDigits 10 number with _ | ⟨first, _ | ⟨second, others⟩⟩
  · exact absurd row Nat.toDigits_ne_nil
  · rw [List.map_cons, List.map_nil]
    cases digitValue first <;> rfl
  · obtain ⟨value, nonzero⟩ := Nat.exists_eq_succ_of_ne_zero (leading first second others row)
    simp only [List.map_cons, nonzero]
    rfl

theorem numeral?_toString (number : Int) :
    numeral? (toString number).toList = some (.plain number) := by
  rw [toList_toString, Decimal.Numeral.plain]
  split
  · rename_i negative
    rw [numeral?, unsigned?_toDigits, decide_eq_true negative]
  · rename_i natural
    rw [decide_eq_false natural, ← unsigned?_toDigits]
    rcases row : Nat.toDigits 10 number.natAbs with _ | ⟨first, others⟩
    · exact absurd row Nat.toDigits_ne_nil
    · have isDigit : first.isDigit = true :=
        Nat.isDigit_of_mem_toDigits (by omega) (by omega) (row ▸ List.mem_cons_self)
      rw [numeral?]
      rintro rest ⟨⟩
      exact absurd isDigit (by decide)

/-- The characters of an integer in decimal. -/
def integerCharacters : List Char :=
  ['-', '0', '1', '2', '3', '4', '5', '6', '7', '8', '9']

theorem mem_integerCharacters {number : Int} (member : character ∈ (toString number).toList) :
    character ∈ integerCharacters := by
  have digit : ∀ natural, character ∈ Nat.toDigits 10 natural → character ∈ integerCharacters := by
    intro natural among
    have isDigit : character.isDigit = true :=
      Nat.isDigit_of_mem_toDigits (by omega) (by omega) among
    simp only [Char.isDigit, Bool.and_eq_true, decide_eq_true_eq] at isDigit
    obtain ⟨least, greatest⟩ : 48 ≤ character.toNat ∧ character.toNat ≤ 57 := isDigit
    rw [← Char.ofNat_toNat character]
    generalize character.toNat = code at least greatest ⊢
    interval_cases code <;> decide
  rw [toList_toString] at member
  split at member
  · rcases List.mem_cons.mp member with rfl | among
    · exact List.mem_cons_self
    · exact digit _ among
  · exact digit _ member

theorem begin_number (member : character ∈ integerCharacters) :
    begin earlier character = some ⟨earlier, .number [character]⟩ := by
  simp only [integerCharacters, List.mem_cons, List.not_mem_nil, or_false] at member
  rcases member with rfl | rfl | rfl | rfl | rfl | rfl | rfl | rfl | rfl | rfl | rfl <;> rfl

theorem isNumeric_of_mem : ∀ character ∈ integerCharacters, isNumeric character = true :=
  List.all_eq_true.mp (by decide)

theorem fold_number {characters : List Char}
    (all : ∀ character ∈ word, character ∈ integerCharacters) :
    word.foldlM step ⟨earlier, .number characters⟩ =
      some ⟨earlier, .number (word.reverse ++ characters)⟩ := by
  induction word generalizing characters with
  | nil => rfl
  | cons character word induction =>
      obtain ⟨member, rest⟩ := List.forall_mem_cons.mp all
      have stepped : step ⟨earlier, .number characters⟩ character =
          some ⟨earlier, .number (character :: characters)⟩ := by
        simp only [step, isNumeric_of_mem character member, if_true]
      rw [List.foldlM_cons, stepped, Option.bind_eq_bind, Option.bind_some, induction rest,
        List.reverse_cons, List.append_assoc]
      rfl

theorem fold_toString (number : Int) :
    (toString number).toList.foldlM step ⟨earlier, .between⟩ =
      some ⟨earlier, .number (toString number).toList.reverse⟩ := by
  have all : ∀ character ∈ (toString number).toList, character ∈ integerCharacters :=
    fun character => mem_integerCharacters
  cases spelled : (toString number).toList with
  | nil =>
      have read := numeral?_toString number
      rw [spelled] at read
      cases read
  | cons character word =>
      rw [spelled] at all
      obtain ⟨member, rest⟩ := List.forall_mem_cons.mp all
      have begun : step ⟨earlier, .between⟩ character = some ⟨earlier, .number [character]⟩ :=
        begin_number member
      rw [List.foldlM_cons, begun, Option.bind_eq_bind, Option.bind_some, fold_number rest,
        List.reverse_cons]

/-! ## Rows of tokens -/

/-- The characters that end a word: blank ones and marks. -/
def breaks : List Char :=
  [' ', '\n', '\r', '\t', '\x7b', '\x7d', '[', ']', ',', ':']

theorem not_word_of_break (ends : character ∈ breaks) :
    isLetter character = false ∧ isNumeric character = false := by
  simp only [breaks, List.mem_cons, List.not_mem_nil, or_false] at ends
  rcases ends with rfl | rfl | rfl | rfl | rfl | rfl | rfl | rfl | rfl | rfl <;> decide

/-- A state that stands for some tokens: the last of them is complete as soon as the text ends or a
break follows. -/
structure Complete (state : State) (tokens : List Token) : Prop where
  finish : Lexer.finish state = some tokens.reverse
  step : ∀ character ∈ breaks, Lexer.step state character = begin tokens character

theorem fold_gap (gap : Gap text) : text.foldlM step ⟨earlier, .between⟩ =
    some ⟨earlier, .between⟩ := by
  induction text with
  | nil => rfl
  | cons character text induction =>
      obtain ⟨blank, rest⟩ := List.forall_mem_cons.mp gap
      have skipped : step ⟨earlier, .between⟩ character = some ⟨earlier, .between⟩ := by
        simp only [List.mem_cons, List.not_mem_nil, or_false] at blank
        rcases blank with rfl | rfl | rfl | rfl <;> rfl
      rw [List.foldlM_cons, skipped]
      exact induction rest

theorem fold_string (spelled : SpellsText text inside) :
    ('"' :: (inside ++ ['"'])).foldlM step ⟨earlier, .between⟩ =
      some ⟨.string (some (String.ofList text)) :: earlier, .between⟩ := by
  obtain ⟨added, folded, decoded⟩ := fold_text spelled
  change (inside ++ ['"']).foldlM step ⟨earlier, .string []⟩ = _
  rw [foldlM_append_of_eq (folded _ _)]
  change some (State.mk (stringToken (added.reverse ++ []) :: earlier) .between) = _
  rw [stringToken, List.append_nil, List.reverse_reverse, decoded]
  rfl

/-- After a word that has been read, a break ends it. -/
theorem fold_token {token : Token} (spelled : SpellsToken token word) (earlier : List Token) :
    ∃ state, word.foldlM step ⟨earlier, .between⟩ = some state ∧
      Complete state (token :: earlier) ∧
      (token.mark?.isSome → state = ⟨token :: earlier, .between⟩) := by
  have between : Complete ⟨token :: earlier, .between⟩ (token :: earlier) := ⟨rfl, fun _ _ => rfl⟩
  cases spelled with
  | @mark token character mark =>
      refine ⟨_, ?_, between, fun _ => rfl⟩
      cases token <;> cases mark <;> rfl
  | yes =>
      refine ⟨⟨earlier, .literal ['e', 'u', 'r', 't']⟩, rfl, ⟨rfl, fun character ends => ?_⟩, nofun⟩
      simp only [step, not_word_of_break ends]
      rfl
  | no =>
      refine ⟨⟨earlier, .literal ['e', 's', 'l', 'a', 'f']⟩, rfl,
        ⟨rfl, fun character ends => ?_⟩, nofun⟩
      simp only [step, not_word_of_break ends]
      rfl
  | integer number =>
      refine ⟨_, fold_toString number, ⟨?_, fun character ends => ?_⟩, nofun⟩
      · simp only [finish, List.reverse_reverse, numeral?_toString]
        rfl
      · simp only [step, not_word_of_break ends, List.reverse_reverse, numeral?_toString]
        rfl
  | @string text inside spelled =>
      refine ⟨_, ?_, between, fun _ => rfl⟩
      rw [fold_string spelled, String.ofList_toList]

/-- The tokens of a text that goes on from some state. -/
def tokensFrom? (state : State) (text : List Char) : Option (List Token) := do
  let state ← text.foldlM step state
  finish state

theorem tokensFrom?_append {state later : State} (folded : word.foldlM step state = some later) :
    tokensFrom? state (word ++ rest) = tokensFrom? later rest := by
  rw [tokensFrom?, foldlM_append_of_eq folded]
  rfl

/-- A state that stands for some tokens may be replaced by the one in which they are complete. -/
theorem Complete.tokensFrom?_eq {state : State} (complete : Complete state tokens)
    (starts : ∀ character ∈ rest.head?, character ∈ breaks) :
    tokensFrom? state rest = tokensFrom? ⟨tokens, .between⟩ rest := by
  cases rest with
  | nil => exact complete.finish
  | cons character rest =>
      rw [tokensFrom?, List.foldlM_cons, complete.step character (starts character rfl)]
      rfl

theorem mem_breaks_of_gap (gap : Gap text) : ∀ character ∈ text, character ∈ breaks := by
  intro character member
  have blank := gap character member
  simp only [List.mem_cons, List.not_mem_nil, or_false] at blank
  rcases blank with rfl | rfl | rfl | rfl <;> decide

/-- A text begins with a break if its first token is a mark, or if it has no token. -/
theorem Spells.starts (spelled : Spells tokens text)
    (mark : ∀ token ∈ tokens.head?, token.mark?.isSome) :
    ∀ character ∈ text.head?, character ∈ breaks := by
  cases spelled with
  | nil gap => exact fun character first => mem_breaks_of_gap gap _ (List.mem_of_head? first)
  | @cons token tokens gap word rest blank head tail =>
      cases gap with
      | cons first gap =>
          rintro _ ⟨⟩
          exact mem_breaks_of_gap blank first List.mem_cons_self
      | nil =>
          have isMark := mark token rfl
          cases head with
          | mark spelled =>
              rintro _ ⟨⟩
              cases token <;> cases spelled <;> decide
          | _ => cases isMark

theorem tokensFrom?_of_spells (spelled : Spells tokens text) (separated : Separated tokens)
    (earlier : List Token) :
    tokensFrom? ⟨earlier, .between⟩ text = some (earlier.reverse ++ tokens) := by
  induction spelled generalizing earlier with
  | nil gap =>
      rw [tokensFrom?, fold_gap gap, List.append_nil]
      rfl
  | @cons token tokens gap word rest blank head tail induction =>
      obtain ⟨state, folded, complete, mark⟩ := fold_token head earlier
      have continued : tokensFrom? state rest = tokensFrom? ⟨token :: earlier, .between⟩ rest := by
        by_cases isMark : token.mark?.isSome
        · rw [mark isMark]
        · refine complete.tokensFrom?_eq (tail.starts fun next first => ?_)
          obtain ⟨others, rfl⟩ := List.head?_eq_some_iff.mp first
          exact (List.isChain_cons_cons.mp separated).1.resolve_left isMark
      rw [tokensFrom?_append (fold_gap blank), tokensFrom?_append folded, continued,
        induction separated.tail, List.reverse_cons, List.append_assoc]
      rfl

/-- A row of tokens is read back from each of its spellings. -/
theorem tokens?_of_spells (spelled : Spells tokens text) (separated : Separated tokens) :
    tokens? text = some tokens :=
  tokensFrom?_of_spells spelled separated []

/-! ## Spellings exist -/

/-- Tokens that can be spelled. -/
def Token.Spellable (token : Token) : Prop :=
  ∃ word, SpellsToken token word

theorem exists_codeUnit (code : Nat) : ∃ digits, CodeUnit code digits :=
  ⟨_, .cons (.inl rfl) (.cons (.inl rfl) (.cons (.inl rfl) (.cons (.inl rfl) .nil)))⟩

/-- Every character has an escape. -/
theorem exists_spellsCharacter (character : Char) : ∃ word, SpellsCharacter character word := by
  by_cases small : character.toNat < 0x10000
  · obtain ⟨digits, spelled⟩ := exists_codeUnit character.toNat
    exact ⟨_, .unit small spelled⟩
  · obtain ⟨high, first⟩ := exists_codeUnit (0xd800 + (character.toNat - 0x10000) / 0x400)
    obtain ⟨low, second⟩ := exists_codeUnit (0xdc00 + (character.toNat - 0x10000) % 0x400)
    exact ⟨_, .pair (not_lt.mp small) first second⟩

theorem exists_spellsText (text : List Char) : ∃ inside, SpellsText text inside := by
  induction text with
  | nil => exact ⟨[], .nil⟩
  | cons character text induction =>
      obtain ⟨first, head⟩ := exists_spellsCharacter character
      obtain ⟨rest, tail⟩ := induction
      exact ⟨first ++ rest, .cons head tail⟩

theorem Token.Spellable.mark {token : Token} {character : Char}
    (mark : token.mark? = some character) : token.Spellable :=
  ⟨_, .mark mark⟩

theorem Token.Spellable.string (text : String) : (Token.string (some text)).Spellable := by
  obtain ⟨inside, spelled⟩ := exists_spellsText text.toList
  exact ⟨_, .string spelled⟩

theorem exists_spells (each : ∀ token ∈ tokens, token.Spellable) : ∃ text, Spells tokens text := by
  induction tokens with
  | nil => exact ⟨[], .nil nofun⟩
  | cons token tokens induction =>
      obtain ⟨⟨word, head⟩, rest⟩ := List.forall_mem_cons.mp each
      obtain ⟨text, tail⟩ := induction rest
      exact ⟨_, .cons (show Gap [] from nofun) head tail⟩

end Json

end Dataflow

import Dataflow.Decimal

/-!
# JSON

A text is split into tokens, and a row of tokens denotes a value. Documents go the other way, from
members in a given order to a text.
-/

namespace Dataflow.Json

/-!
## Tokens

The words of a JSON text. A text is split character by character: a number or a literal ends where
the next character can no longer belong to it. Strings are decoded; one that holds half of a
surrogate pair is still a token, but has no text.
-/

/-- A word of a JSON text. -/
inductive Token where
  | openBrace
  | closeBrace
  | openBracket
  | closeBracket
  | comma
  | colon
  | null
  | boolean (truth : Bool)
  | number (numeral : Decimal.Numeral)
  /-- A string, with no text if its escapes do not make one. -/
  | string (text : Option String)
deriving DecidableEq

/-- What stands for one unit of text inside a string. -/
inductive Piece where
  | character (plain : Char)
  /-- A code unit given by its number. -/
  | unit (code : Nat)
deriving DecidableEq

/-- Whether a code unit is the first half of a surrogate pair. -/
def isHighSurrogate (code : Nat) : Bool :=
  0xd800 ≤ code ∧ code < 0xdc00

/-- Whether a code unit is the second half of a surrogate pair. -/
def isLowSurrogate (code : Nat) : Bool :=
  0xdc00 ≤ code ∧ code < 0xe000

/-- The character that a surrogate pair stands for. -/
def pairedCharacter (high low : Nat) : Char :=
  Char.ofNat (0x10000 + (high - 0xd800) * 0x400 + (low - 0xdc00))

/-- The text of a string, unless half of a surrogate pair is missing. -/
def Piece.decode : List Piece → Option (List Char)
  | [] => some []
  | .character plain :: pieces => (plain :: ·) <$> decode pieces
  | .unit high :: .unit low :: pieces =>
      if isHighSurrogate high && isLowSurrogate low then
        (pairedCharacter high low :: ·) <$> decode pieces
      else if isHighSurrogate high || isLowSurrogate high then none
      else (Char.ofNat high :: ·) <$> decode (.unit low :: pieces)
  | .unit code :: pieces =>
      if isHighSurrogate code || isLowSurrogate code then none
      else (Char.ofNat code :: ·) <$> decode pieces

/-- Characters without meaning between tokens. -/
def isBlank (character : Char) : Bool :=
  character == ' ' || character == '\n' || character == '\r' || character == '\t'

/-- Characters of literals. -/
def isLetter (character : Char) : Bool :=
  'a' ≤ character && character ≤ 'z'

/-- Characters of numbers. -/
def isNumeric (character : Char) : Bool :=
  character.isDigit || character == '-' || character == '+' || character == '.' ||
    character == 'e' || character == 'E'

/-- The token that a character forms alone. -/
def punctuation? : Char → Option Token
  | '\x7b' => some .openBrace
  | '\x7d' => some .closeBrace
  | '[' => some .openBracket
  | ']' => some .closeBracket
  | ',' => some .comma
  | ':' => some .colon
  | _ => none

/-- The token that some letters form. -/
def literal? (letters : List Char) : Option Token :=
  if letters = ['n', 'u', 'l', 'l'] then some .null
  else if letters = ['t', 'r', 'u', 'e'] then some (.boolean true)
  else if letters = ['f', 'a', 'l', 's', 'e'] then some (.boolean false)
  else none

/-- The number that a digit stands for. -/
def digitValue (digit : Char) : Nat :=
  digit.toNat - '0'.toNat

/-- A row of digits, and what follows it. -/
def digits (characters : List Char) : List Nat × List Char :=
  ((characters.takeWhile Char.isDigit).map digitValue, characters.dropWhile Char.isDigit)

/-- The exponent of a numeral, to the end of the text. -/
def exponent? (characters : List Char) : Option Decimal.Exponent :=
  let (negative, characters) := match characters with
    | '-' :: rest => (true, rest)
    | '+' :: rest => (false, rest)
    | _ => (false, characters)
  match digits characters with
  | (digit :: row, []) => some ⟨negative, digit :: row⟩
  | _ => none

/-- A numeral after its fraction, to the end of the text. -/
def withExponent? (negative : Bool) (whole fraction : List Nat) :
    List Char → Option Decimal.Numeral
  | [] => some ⟨negative, whole, fraction, none⟩
  | mark :: rest =>
      if mark = 'e' ∨ mark = 'E' then
        (fun exponent => ⟨negative, whole, fraction, some exponent⟩) <$> exponent? rest
      else none

/-- A numeral after its whole part, to the end of the text. -/
def withFraction? (negative : Bool) (whole : List Nat) : List Char → Option Decimal.Numeral
  | '.' :: rest =>
      match digits rest with
      | ([], _) => none
      | (fraction, rest) => withExponent? negative whole fraction rest
  | characters => withExponent? negative whole [] characters

/-- A numeral without its sign. A whole part of several digits does not start with a zero. -/
def unsigned? (negative : Bool) (characters : List Char) : Option Decimal.Numeral :=
  match digits characters with
  | ([], _) => none
  | (0 :: _ :: _, _) => none
  | (whole, rest) => withFraction? negative whole rest

/-- The numeral that some characters form. -/
def numeral? : List Char → Option Decimal.Numeral
  | '-' :: rest => unsigned? true rest
  | characters => unsigned? false characters

/-- The number of a hexadecimal digit of either case. -/
def hexadecimalValue? (digit : Char) : Option Nat :=
  if digit.isDigit then some (digit.toNat - '0'.toNat)
  else if 'a' ≤ digit && digit ≤ 'f' then some (digit.toNat - 'a'.toNat + 10)
  else if 'A' ≤ digit && digit ≤ 'F' then some (digit.toNat - 'A'.toNat + 10)
  else none

/-- The character that a letter after a backslash stands for. -/
def escapedCharacter? : Char → Option Char
  | '"' => some '"'
  | '\\' => some '\\'
  | '/' => some '/'
  | 'b' => some '\x08'
  | 'f' => some '\x0c'
  | 'n' => some '\n'
  | 'r' => some '\r'
  | 't' => some '\t'
  | _ => none

namespace Lexer

/-- What the characters since the last token have begun. All rows are reversed. -/
inductive Mode where
  | between
  | literal (letters : List Char)
  | number (characters : List Char)
  | string (pieces : List Piece)
  /-- After a backslash. -/
  | escape (pieces : List Piece)
  /-- Amid the four digits of a code unit. -/
  | code (pieces : List Piece) (digits : List Nat)

/-- The tokens so far, newest first, and what is begun. -/
structure State where
  tokens : List Token
  mode : Mode

/-- Nothing read yet. -/
def start : State := ⟨[], .between⟩

/-- Begins a token, or forms one of a single character. -/
def begin (tokens : List Token) (character : Char) : Option State :=
  if isBlank character then some ⟨tokens, .between⟩
  else
    match punctuation? character with
    | some token => some ⟨token :: tokens, .between⟩
    | none =>
        if character = '"' then some ⟨tokens, .string []⟩
        else if isLetter character then some ⟨tokens, .literal [character]⟩
        else if isNumeric character then some ⟨tokens, .number [character]⟩
        else none

/-- The token of a finished string. -/
def stringToken (pieces : List Piece) : Token :=
  .string (String.ofList <$> Piece.decode pieces.reverse)

/-- One more character. -/
def step (state : State) (character : Char) : Option State :=
  let tokens := state.tokens
  match state.mode with
  | .between => begin tokens character
  | .literal letters =>
      if isLetter character then some ⟨tokens, .literal (character :: letters)⟩
      else do
        let token ← literal? letters.reverse
        begin (token :: tokens) character
  | .number characters =>
      if isNumeric character then some ⟨tokens, .number (character :: characters)⟩
      else do
        let numeral ← numeral? characters.reverse
        begin (.number numeral :: tokens) character
  | .string pieces =>
      if character = '"' then some ⟨stringToken pieces :: tokens, .between⟩
      else if character = '\\' then some ⟨tokens, .escape pieces⟩
      else if character < ' ' then none
      else some ⟨tokens, .string (.character character :: pieces)⟩
  | .escape pieces =>
      if character = 'u' then some ⟨tokens, .code pieces []⟩
      else do
        let escaped ← escapedCharacter? character
        some ⟨tokens, .string (.character escaped :: pieces)⟩
  | .code pieces digits => do
      let digit ← hexadecimalValue? character
      match digits with
      | [third, second, first] =>
          let code := ((first * 16 + second) * 16 + third) * 16 + digit
          some ⟨tokens, .string (.unit code :: pieces)⟩
      | _ => some ⟨tokens, .code pieces (digit :: digits)⟩

/-- All tokens, if the last one is complete. -/
def finish (state : State) : Option (List Token) :=
  match state.mode with
  | .between => some state.tokens.reverse
  | .literal letters => do
      let token ← literal? letters.reverse
      some (token :: state.tokens).reverse
  | .number characters => do
      let numeral ← numeral? characters.reverse
      some (.number numeral :: state.tokens).reverse
  | .string _ | .escape _ | .code _ _ => none

end Lexer

/-- The tokens of a text. -/
def tokens? (text : List Char) : Option (List Token) := do
  let state ← text.foldlM Lexer.step Lexer.start
  Lexer.finish state

/-!
## Values

The value that a row of tokens denotes. The tokens are read one at a time by a machine that keeps
the arrays and objects that are still open on a stack, so that values may nest to any depth.
-/

/-- A JSON value. Objects keep their members in order, repeated ones too. -/
inductive Tree where
  | null
  | boolean (truth : Bool)
  | number (numeral : Decimal.Numeral)
  | string (text : Option String)
  | array (items : List Tree)
  | object (members : List (Option String × Tree))

namespace Tree

/-- An array or object that is still open. Its parts are newest first. -/
inductive Frame where
  | array (items : List Tree)
  | object (members : List (Option String × Tree)) (key : Option String)

/-- What has been read, and so what may come next. -/
inductive Machine where
  /-- A value has to come. -/
  | value (stack : List Frame)
  /-- An array has been opened. -/
  | opened (stack : List Frame)
  /-- An object has been opened. -/
  | firstKey (stack : List Frame)
  /-- A key has to come. -/
  | key (members : List (Option String × Tree)) (stack : List Frame)
  /-- A colon has to come. -/
  | colon (members : List (Option String × Tree)) (key : Option String) (stack : List Frame)
  /-- A value is complete. -/
  | done (tree : Tree) (stack : List Frame)

/-- The value that a token forms alone. -/
def scalar? : Token → Option Tree
  | .null => some null
  | .boolean truth => some (boolean truth)
  | .number numeral => some (number numeral)
  | .string text => some (string text)
  | _ => none

namespace Machine

/-- Begins a value. -/
def beginValue (stack : List Frame) : Token → Option Machine
  | .openBracket => some (opened stack)
  | .openBrace => some (firstKey stack)
  | token => (done · stack) <$> scalar? token

/-- Adds a complete value to what is open. -/
def continueWith (tree : Tree) : List Frame → Token → Option Machine
  | .array items :: stack, .comma => some (value (.array (tree :: items) :: stack))
  | .array items :: stack, .closeBracket => some (done (.array (tree :: items).reverse) stack)
  | .object members name :: stack, .comma => some (key ((name, tree) :: members) stack)
  | .object members name :: stack, .closeBrace =>
      some (done (.object ((name, tree) :: members).reverse) stack)
  | _, _ => none

/-- One more token. -/
def step (machine : Machine) (token : Token) : Option Machine :=
  match machine with
  | value stack => beginValue stack token
  | opened stack =>
      if token = .closeBracket then some (done (.array []) stack)
      else beginValue (.array [] :: stack) token
  | firstKey stack =>
      match token with
      | .closeBrace => some (done (.object []) stack)
      | .string name => some (colon [] name stack)
      | _ => none
  | key members stack =>
      match token with
      | .string name => some (colon members name stack)
      | _ => none
  | colon members name stack =>
      if token = .colon then some (value (.object members name :: stack)) else none
  | done tree stack => continueWith tree stack token

/-- The value that has been read, if nothing is open. -/
def finish : Machine → Option Tree
  | done tree [] => some tree
  | _ => none

end Machine

/-- The value that some tokens denote. -/
def ofTokens? (tokens : List Token) : Option Tree := do
  let machine ← tokens.foldlM Machine.step (.value [])
  machine.finish

/-- The value that a text denotes. -/
def ofText? (text : String) : Option Tree := do
  ofTokens? (← tokens? text.toList)

end Tree

/-!
## Documents

Documents with members in a given order, written without any blanks or with one item per line.
-/

/-- A JSON document to be written. -/
inductive Document where
  | number (count : Nat)
  | string (text : String)
  | array (items : List Document)
  | object (members : List (String × Document))

namespace Document

/-- A character inside a JSON string. -/
def escaped (character : Char) : List Char :=
  match character with
  | '"' => ['\\', '"']
  | '\\' => ['\\', '\\']
  | '\x08' => ['\\', 'b']
  | '\x0c' => ['\\', 'f']
  | '\n' => ['\\', 'n']
  | '\r' => ['\\', 'r']
  | '\t' => ['\\', 't']
  | _ =>
      let code := character.toNat
      if code < 0x20 then
        ['\\', 'u', '0', '0', (code / 16).digitChar, (code % 16).digitChar]
      else [character]

/-- A JSON string. -/
def quoted (text : String) : String :=
  "\"" ++ String.ofList (text.toList.flatMap escaped) ++ "\""

mutual

/-- A document without blanks. -/
def compact : Document → String
  | number count => toString count
  | string text => quoted text
  | array items => "[" ++ ",".intercalate (compactItems items) ++ "]"
  | object members => "\x7b" ++ ",".intercalate (compactMembers members) ++ "\x7d"

/-- The items of an array, without blanks. -/
def compactItems : List Document → List String
  | [] => []
  | item :: items => item.compact :: compactItems items

/-- The members of an object, without blanks. -/
def compactMembers : List (String × Document) → List String
  | [] => []
  | (key, item) :: members => (quoted key ++ ":" ++ item.compact) :: compactMembers members

end

/-- Lines between brackets, indented one step further than the brackets themselves. -/
def bracketed (opening closing : String) (depth : Nat) (lines : List String) : String :=
  if lines.isEmpty then opening ++ closing
  else
    let indentation (depth : Nat) := "\n" ++ String.ofList (List.replicate (2 * depth) ' ')
    opening ++ indentation (depth + 1) ++
      ("," ++ indentation (depth + 1)).intercalate lines ++ indentation depth ++ closing

mutual

/-- A document with one item per line. The first line is not indented. -/
def indented (depth : Nat) : Document → String
  | number count => toString count
  | string text => quoted text
  | array items => bracketed "[" "]" depth (indentedItems (depth + 1) items)
  | object members => bracketed "\x7b" "\x7d" depth (indentedMembers (depth + 1) members)

/-- The items of an array, with one item per line. -/
def indentedItems (depth : Nat) : List Document → List String
  | [] => []
  | item :: items => item.indented depth :: indentedItems depth items

/-- The members of an object, with one item per line. -/
def indentedMembers (depth : Nat) : List (String × Document) → List String
  | [] => []
  | (key, item) :: members =>
      (quoted key ++ ": " ++ item.indented depth) :: indentedMembers depth members

end

/-- A document with one item per line. -/
def pretty (document : Document) : String :=
  document.indented 0

end Document

end Dataflow.Json

import FieldMachine.Json

/-!
# Tokens of JSON

A text of the format is a row of marks, quoted texts and words, with blanks in
between that mean nothing.  The row is found character by character: a `Scanner`
holds the tokens found so far and what it is in the middle of.  A word is a run
of characters up to a blank, a mark or a quote; it has to be one of three names
or a numeral.
-/

namespace FieldMachine.Json

set_option autoImplicit false

/-- The marks between values. -/
inductive Mark
  | openBrace
  | closeBrace
  | openBracket
  | closeBracket
  | colon
  | comma
deriving DecidableEq

/-- A token: a mark, or a value that has no parts. -/
inductive Token
  | mark (mark : Mark)
  | null
  | bool (value : Bool)
  | number (numeral : String)
  | string (spelling : String)
deriving DecidableEq

/-- The mark that a character is. -/
def Mark.ofChar? (char : Char) : Option Mark :=
  if char.toNat = 0x7B then some .openBrace
  else if char.toNat = 0x7D then some .closeBrace
  else if char = '[' then some .openBracket
  else if char = ']' then some .closeBracket
  else if char = ':' then some .colon
  else if char = ',' then some .comma
  else none

/-- Whether a character means nothing between tokens. -/
def isSpace (char : Char) : Bool :=
  char = ' ' || char = '\n' || char = '\t' || char = '\r'

/-! ## Numerals -/

/-- Whether digits stand in front, and what follows them. -/
def digitsThen (chars : List Char) : Option (List Char) :=
  match chars with
  | char :: rest => if char.isDigit then some (rest.dropWhile Char.isDigit) else none
  | [] => none

/-- What follows the whole part of a numeral: a single zero, or digits that begin with another. -/
def wholeThen : List Char → Option (List Char)
  | '0' :: rest => some rest
  | chars => digitsThen chars

/-- What follows the places behind the point, if there are any. -/
def fractionThen : List Char → Option (List Char)
  | '.' :: rest => digitsThen rest
  | chars => some chars

/-- What follows the exponent, if there is one. -/
def exponentThen : List Char → Option (List Char)
  | 'e' :: rest | 'E' :: rest =>
      match rest with
      | '+' :: digits | '-' :: digits => digitsThen digits
      | digits => digitsThen digits
  | chars => some chars

/-- Whether characters are a numeral. -/
def isNumeral (chars : List Char) : Bool :=
  let unsigned := match chars with
    | '-' :: rest => rest
    | rest => rest
  ((wholeThen unsigned).bind fractionThen).bind exponentThen = some []

/-- The token that a word is. -/
def Token.ofWord? (word : List Char) : Option Token :=
  if word = "null".toList then some .null
  else if word = "true".toList then some (.bool true)
  else if word = "false".toList then some (.bool false)
  else if isNumeral word then some (.number (String.ofList word))
  else none

/-! ## Scanning -/

/-- What is needed to complete an escape inside a quoted text. -/
inductive Escape
  | none
  /-- The character behind the backslash. -/
  | letter
  /-- So many hexadecimal digits. -/
  | digits (count : Nat)
deriving DecidableEq

/-- What a scanner is in the middle of; characters are held in reverse. -/
inductive Scanning
  | between
  | word (chars : List Char)
  | quoted (chars : List Char) (escape : Escape)
deriving DecidableEq

/-- A scanner with the tokens found so far, the latest one first. -/
structure Scanner where
  tokens : List Token := []
  scanning : Scanning := .between
deriving DecidableEq

namespace Scanner

/-- Takes the next character outside words and texts. -/
def begin (tokens : List Token) (char : Char) : Scanner :=
  match Mark.ofChar? char with
  | some mark => { tokens := .mark mark :: tokens }
  | none =>
      if isSpace char then { tokens }
      else if char = '"' then { tokens, scanning := .quoted [] .none }
      else { tokens, scanning := .word [char] }

/-- Whether a character ends a word. -/
def endsWord (char : Char) : Bool :=
  (Mark.ofChar? char).isSome || isSpace char || char = '"'

/-- Takes the next character inside a quoted text. -/
def quote (tokens : List Token) (chars : List Char) (char : Char) : Escape → Option Scanner
  | .none =>
      if char = '"' then some { tokens := .string (String.ofList chars.reverse) :: tokens }
      else if char = '\\' then some { tokens, scanning := .quoted (char :: chars) .letter }
      else if char.toNat < 0x20 then none
      else some { tokens, scanning := .quoted (char :: chars) .none }
  | .letter =>
      if char = 'u' then some { tokens, scanning := .quoted (char :: chars) (.digits 4) }
      else if (escaped? char).isSome then some { tokens, scanning := .quoted (char :: chars) .none }
      else none
  | .digits count =>
      if (Numeral.digitOf? 16 char).isNone then none
      else
        let escape := if count ≤ 1 then .none else .digits (count - 1)
        some { tokens, scanning := .quoted (char :: chars) escape }

/-- Takes the next character. -/
def step (scanner : Scanner) (char : Char) : Option Scanner :=
  match scanner.scanning with
  | .between => some (begin scanner.tokens char)
  | .word chars =>
      if endsWord char then do
        let token ← Token.ofWord? chars.reverse
        return begin (token :: scanner.tokens) char
      else some { scanner with scanning := .word (char :: chars) }
  | .quoted chars escape => quote scanner.tokens chars char escape

/-- The tokens found when the text is over. -/
def finish (scanner : Scanner) : Option (List Token) :=
  match scanner.scanning with
  | .between => some scanner.tokens.reverse
  | .word chars => do return ((← Token.ofWord? chars.reverse) :: scanner.tokens).reverse
  | .quoted .. => none

end Scanner

/-- The tokens of a text. -/
def scan (text : String) : Option (List Token) := do
  (← text.toList.foldlM Scanner.step {}).finish

end FieldMachine.Json

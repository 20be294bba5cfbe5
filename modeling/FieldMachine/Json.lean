import FieldMachine.Text.Numeral

/-!
# JSON values

The values of the text format that settings are stored in.  Scalars stay as they
are spelled: a number keeps its numeral and a text its characters between the
quotes, so that every value has exactly one written form.  `Json.text?` takes
the spelling of a text apart, and `Json.ofText` makes it.
-/

namespace FieldMachine

set_option autoImplicit false

/-- A value with its scalars as they are spelled. -/
inductive Json
  | null
  | bool (value : Bool)
  | number (numeral : String)
  /-- A text, as it stands between its quotes. -/
  | string (spelling : String)
  | array (items : List Json)
  /-- The members in their order; a name may stand more than once. -/
  | object (members : List (String × Json))

namespace Json

/-! ## Spelling of texts -/

/-- The number of four hexadecimal digits. -/
def hex4? (a b c d : Char) : Option Nat := Numeral.ofDigits? 16 [a, b, c, d]

/-- Whether a number is the first half of a pair that names one character. -/
def isHighHalf (code : Nat) : Bool := 0xD800 ≤ code && code ≤ 0xDBFF

/-- Whether a number is the second half of a pair that names one character. -/
def isLowHalf (code : Nat) : Bool := 0xDC00 ≤ code && code ≤ 0xDFFF

/-- The character that two halves name. -/
def joinHalves (high low : Nat) : Char :=
  Char.ofNat (0x10000 + (high - 0xD800) * 0x400 + (low - 0xDC00))

/-- The character behind a backslash, apart from numbered ones. -/
def escaped? : Char → Option Char
  | '"' => some '"'
  | '\\' => some '\\'
  | '/' => some '/'
  | 'b' => some '\x08'
  | 'f' => some '\x0c'
  | 'n' => some '\n'
  | 'r' => some '\r'
  | 't' => some '\t'
  | _ => none

/-- The characters that a spelling stands for; a half that is not part of a pair stands for none. -/
def unescape? : List Char → Option (List Char)
  | [] => some []
  | '\\' :: 'u' :: a :: b :: c :: d :: '\\' :: 'u' :: e :: f :: g :: h :: rest => do
      let first ← hex4? a b c d
      if isHighHalf first then
        let second ← hex4? e f g h
        if isLowHalf second then return joinHalves first second :: (← unescape? rest) else none
      else if isLowHalf first then none
      else return Char.ofNat first :: (← unescape? ('\\' :: 'u' :: e :: f :: g :: h :: rest))
  | '\\' :: 'u' :: a :: b :: c :: d :: rest => do
      let code ← hex4? a b c d
      if isHighHalf code || isLowHalf code then none
      else return Char.ofNat code :: (← unescape? rest)
  | '\\' :: char :: rest => do return (← escaped? char) :: (← unescape? rest)
  | char :: rest => do return char :: (← unescape? rest)

/-- The spelling of a character. -/
def escape (char : Char) : List Char :=
  if char = '"' then ['\\', '"']
  else if char = '\\' then ['\\', '\\']
  else if char = '\x08' then ['\\', 'b']
  else if char = '\x0c' then ['\\', 'f']
  else if char = '\n' then ['\\', 'n']
  else if char = '\r' then ['\\', 'r']
  else if char = '\t' then ['\\', 't']
  else if char.toNat < 0x20 then "\\u".toList ++ (Numeral.hexLower 4 char.toNat).toList
  else [char]

/-- The value of a text. -/
def ofText (text : String) : Json := .string (String.ofList (text.toList.flatMap escape))

/-- The value of a number. -/
def ofNat (number : Nat) : Json := .number (toString number)

/-- The text that a spelling stands for. -/
def spelled? (spelling : String) : Option String :=
  (unescape? spelling.toList).map String.ofList

/-- The text of a value that is one. -/
def text? : Json → Option String
  | .string spelling => spelled? spelling
  | _ => none

/-- The number of a value that is a whole number below a limit. -/
def nat? (limit : Nat) : Json → Option Nat
  | .number numeral => Numeral.below? limit 10 numeral.toList
  | _ => none

/-- The items of a value that is an array. -/
def items? : Json → Option (List Json)
  | .array items => some items
  | _ => none

/-! ## Writing -/

/-- The beginning of a line at a depth. -/
def margin (depth : Nat) : String := String.ofList (List.replicate (2 * depth) ' ')

/-- Lines between brackets, each at one depth more than the brackets. -/
def bracket (opening closing : String) (depth : Nat) (lines : List String) : String :=
  if lines.isEmpty then opening ++ closing
  else
    opening ++ "\n" ++ ",\n".intercalate (lines.map (margin (depth + 1) ++ ·)) ++ "\n"
      ++ margin depth ++ closing

mutual

/-- The written form of a value that stands at a depth, every item and member on a line of its own. -/
def write (depth : Nat) : Json → String
  | .null => "null"
  | .bool value => if value then "true" else "false"
  | .number numeral => numeral
  | .string spelling => "\"" ++ spelling ++ "\""
  | .array items => bracket "[" "]" depth (writeItems (depth + 1) items)
  | .object members => bracket "\x7b" "\x7d" depth (writeMembers (depth + 1) members)

/-- The written forms of items. -/
def writeItems (depth : Nat) : List Json → List String
  | [] => []
  | item :: rest => write depth item :: writeItems depth rest

/-- The written forms of members. -/
def writeMembers (depth : Nat) : List (String × Json) → List String
  | [] => []
  | (name, value) :: rest =>
      ("\"" ++ name ++ "\": " ++ write depth value) :: writeMembers depth rest

end

/-- The written form of a value. -/
def pretty (json : Json) : String := write 0 json

end Json

end FieldMachine

import FieldMachine.Yaml.Plain

/-!
# Scalars of YAML

A text is written in the first of four styles that can hold it.  A text of
several lines is a literal block; any other one is plain, if that leaves no
doubt about its bounds and its meaning, and otherwise stands between single
quotes.  What neither can hold, a character that cannot be shown or blanks at
the end of a line, stands between double quotes, where everything can be
escaped.
-/

namespace FieldMachine.Yaml

set_option autoImplicit false

/-! ## Characters -/

/-- Whether a character breaks a line. -/
def isBreak (char : Char) : Bool :=
  char = '\n' || char = '\r' || char.toNat = 0x85 || char.toNat = 0x2028 || char.toNat = 0x2029

/-- Whether a character separates a mark from what is beside it, as the end of the text does. -/
def separates (char? : Option Char) : Bool :=
  match char? with
  | none => true
  | some char => char = ' ' || char = '\t' || isBreak char || char.toNat = 0

/-- Whether a character can stand unescaped. -/
def isPrintable (char : Char) : Bool :=
  let code := char.toNat
  code = 0x0A || (0x20 ≤ code && code ≤ 0x7E) || (0xA0 ≤ code && code ≤ 0xD7FF)
    || (0xE000 ≤ code && code ≤ 0xFFFD && code ≠ 0xFEFF) || 0x10000 ≤ code

/-! ## Marks -/

/-- The characters that cannot begin a plain scalar. -/
def openingMarks : List Char := "#,[]&*!|>'\"%@".toList ++ [0x60, 0x7B, 0x7D].map Char.ofNat

/-- Whether the first character of a text is a mark. -/
def beginsWithMark : List Char → Bool
  | [] => false
  | first :: rest =>
      openingMarks.contains first
        || ((first = '?' || first = ':' || first = '-') && separates rest.head?)

/-- Whether some later character is a mark, given the one before it. -/
def holdsMark (before : Char) : List Char → Bool
  | [] => false
  | char :: rest =>
      (char = ':' && separates rest.head?) || (char = '#' && separates (some before))
        || holdsMark char rest

/-- Whether a text begins like a mark between documents. -/
def beginsWithRule (chars : List Char) : Bool :=
  chars.take 3 = ['-', '-', '-'] || chars.take 3 = ['.', '.', '.']

/-- Whether something in a text would be taken for a mark. -/
def hasMark (chars : List Char) : Bool :=
  beginsWithRule chars || beginsWithMark chars
    || match chars with
      | [] => false
      | first :: rest => holdsMark first rest

/-! ## Blanks and breaks -/

/-- Whether two characters of two kinds stand side by side. -/
def adjacent (left right : Char → Bool) : List Char → Bool
  | first :: second :: rest => (left first && right second) || adjacent left right (second :: rest)
  | _ => false

/-- Whether a character is the blank that ends of lines cannot hold. -/
def isGap (char : Char) : Bool := char = ' '

/-- Whether a text has a blank or a break at one of its ends. -/
def hasLooseEnd (chars : List Char) : Bool :=
  [chars.head?, chars.getLast?].any fun char? =>
    char?.any fun char => isGap char || isBreak char

/-- Whether a text can be held only between double quotes, whatever is done about its lines. -/
def needsEscapes (chars : List Char) : Bool :=
  !chars.all isPrintable || adjacent isGap isBreak chars

/-! ## Styles -/

/-- How a text is written. -/
inductive Style
  | plain
  | singleQuoted
  | doubleQuoted
  | literal
deriving DecidableEq

/-- The style for the lines of a text of several lines. -/
def literalStyle (chars : List Char) : Style :=
  if needsEscapes chars || chars.getLast?.any isGap then .doubleQuoted else .literal

/-- The style for a text that is to be quoted. -/
def quotedStyle (chars : List Char) : Style :=
  if needsEscapes chars || adjacent isBreak isGap chars then .doubleQuoted else .singleQuoted

/-- The style of a text. -/
def styleOf (text : String) : Style :=
  let chars := text.toList
  if chars.contains '\n' then literalStyle chars
  else if hasMeaning text || hasMark chars || hasLooseEnd chars || chars.any isBreak
      || needsEscapes chars then quotedStyle chars
  else .plain

/-! ## Writing -/

/-- The blanks in front of a line. -/
def margin (width : Nat) : List Char := List.replicate width ' '

/-- The lines of a text, each behind its margin; empty lines have none. -/
def writeLines (indent : Nat) : Bool → List Char → List Char
  | _, [] => []
  | fresh, char :: rest =>
      if isBreak char then char :: writeLines indent true rest
      else (if fresh then margin indent else []) ++ char :: writeLines indent false rest

/-- What the head of a literal block tells about its margin and its end. -/
def literalHead (chars : List Char) : List Char :=
  let first := match chars.head? with
    | some char => if isGap char || isBreak char then ['2'] else []
    | none => []
  let last := match chars.reverse with
    | [] => ['-']
    | [_] => if chars.any isBreak then ['+'] else ['-']
    | final :: previous :: _ =>
        if !isBreak final then ['-'] else if isBreak previous then ['+'] else []
  '|' :: first ++ last

/-- A text as a literal block. -/
def writeLiteral (indent : Nat) (chars : List Char) : List Char :=
  literalHead chars ++ '\n' :: writeLines indent true chars

/-- What stands between single quotes: a quote is written twice, and a line begins behind its
margin. -/
def singleBody (indent : Nat) : Bool → List Char → List Char
  | fresh, [] => if fresh then margin indent else []
  | fresh, char :: rest =>
      if isBreak char then char :: singleBody indent true rest
      else
        (if fresh then margin indent else [])
          ++ (if char = '\'' then ['\'', '\''] else [char]) ++ singleBody indent false rest

/-- The escape of a character with a name of its own. -/
def namedEscape? (code : Nat) : Option Char :=
  [(0x00, '0'), (0x07, 'a'), (0x08, 'b'), (0x09, 't'), (0x0A, 'n'), (0x0B, 'v'), (0x0C, 'f'),
    (0x0D, 'r'), (0x1B, 'e'), (0x22, '"'), (0x5C, '\\'), (0x85, 'N'), (0xA0, '_'),
    (0x2028, 'L'), (0x2029, 'P')].lookup code

/-- The escape of a character. -/
def escapeChar (char : Char) : List Char :=
  let code := char.toNat
  match namedEscape? code with
  | some name => ['\\', name]
  | none =>
      if code ≤ 0xFF then "\\x".toList ++ (Numeral.hexUpper 2 code).toList
      else if code ≤ 0xFFFF then "\\u".toList ++ (Numeral.hexUpper 4 code).toList
      else "\\U".toList ++ (Numeral.hexUpper 8 code).toList

/-- A character between double quotes. -/
def doubleChar (char : Char) : List Char :=
  if !isPrintable char || isBreak char || char = '"' || char = '\\' then escapeChar char
  else [char]

/-- A text in a style, with its lines behind a margin. -/
def writeStyled (indent : Nat) (chars : List Char) : Style → List Char
  | .plain => chars
  | .singleQuoted => '\'' :: singleBody indent false chars ++ ['\'']
  | .doubleQuoted => '"' :: chars.flatMap doubleChar ++ ['"']
  | .literal => writeLiteral indent chars

/-- A text as a scalar whose lines stand behind a margin. -/
def writeScalar (indent : Nat) (text : String) : String :=
  String.ofList (writeStyled indent text.toList (styleOf text))

end FieldMachine.Yaml

/-!
# Lossy reading of encoded text

Text is read from bytes without ever failing: a run of bytes that encodes no
character is replaced by the replacement character.  Such a run is the longest
one that could still have begun a character, and at least one byte, so that the
next character is found again.
-/

namespace FieldMachine.Utf8

set_option autoImplicit false

/-- The character that stands for bytes that encode none. -/
def replacement : Char := Char.ofNat 0xFFFD

/-- The number of bytes that follow a leading byte, and the range of the first of them. -/
def lead? (byte : UInt8) : Option (Nat × UInt8 × UInt8) :=
  if 0xC2 ≤ byte && byte ≤ 0xDF then some (1, 0x80, 0xBF)
  else if byte = 0xE0 then some (2, 0xA0, 0xBF)
  else if byte = 0xED then some (2, 0x80, 0x9F)
  else if 0xE1 ≤ byte && byte ≤ 0xEF then some (2, 0x80, 0xBF)
  else if byte = 0xF0 then some (3, 0x90, 0xBF)
  else if byte = 0xF4 then some (3, 0x80, 0x8F)
  else if 0xF1 ≤ byte && byte ≤ 0xF3 then some (3, 0x80, 0xBF)
  else none

/-- The continuation bytes in front, at most `count` of them; the first one has a range of its own. -/
def continuations (count : Nat) (least most : UInt8) (bytes : List UInt8) : List UInt8 :=
  match count, bytes with
  | 0, _ => []
  | _, [] => []
  | more + 1, byte :: rest =>
      if least ≤ byte && byte ≤ most then byte :: continuations more 0x80 0xBF rest else []

/-- The code point of a character of several bytes. -/
def codePoint (count : Nat) (first : UInt8) (following : List UInt8) : Nat :=
  following.foldl (fun value byte => value * 64 + byte.toNat % 64)
    (first.toNat % Nat.pow 2 (6 - count))

/-- The character that starts with a byte, and the number of further bytes taken up. -/
def character (first : UInt8) (rest : List UInt8) : Char × Nat :=
  if first < 0x80 then (Char.ofNat first.toNat, 0)
  else match lead? first with
    | none => (replacement, 0)
    | some (count, least, most) =>
        let following := continuations count least most rest
        if following.length = count then
          (Char.ofNat (codePoint count first following), count)
        else (replacement, following.length)

/-- The characters that bytes stand for. -/
def decode : List UInt8 → List Char
  | [] => []
  | first :: rest =>
      let (char, used) := character first rest
      char :: decode (rest.drop used)
termination_by bytes => bytes.length
decreasing_by simp only [List.length_drop, List.length_cons]; omega

/-- The text that bytes stand for. -/
def decodeString (bytes : List UInt8) : String := String.ofList (decode bytes)

end FieldMachine.Utf8

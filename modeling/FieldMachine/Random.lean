/-!
# Random numbers

The generator behind scripts that draw a number: xoshiro256++, whose four words
are filled from one seed by eight steps of a permuted congruential generator.
-/

namespace FieldMachine

set_option autoImplicit false

/-- The four words of the generator. -/
structure Random where
  word0 : UInt64
  word1 : UInt64
  word2 : UInt64
  word3 : UInt64
deriving DecidableEq

namespace Random

/-- Rotates the bits of a word to the left. -/
def rotateLeft64 (word : UInt64) (count : UInt64) : UInt64 :=
  (word <<< count) ||| (word >>> (64 - count))

/-- Rotates the bits of a half word to the right; the count is below 32. -/
def rotateRight32 (word : UInt32) (count : UInt32) : UInt32 :=
  (word >>> count) ||| (word <<< ((32 - count) % 32))

/-- One step of the generator that expands a seed: its next state and its output. -/
def expand (state : UInt64) : UInt64 × UInt32 :=
  let next := state * 6364136223846793005 + 11634580027462260723
  let mixed := (((next >>> 18) ^^^ next) >>> 27).toUInt32
  (next, rotateRight32 mixed (next >>> 59).toUInt32)

/-- Two outputs of the expansion as one word, the earlier one in the low half. -/
def expandWord (state : UInt64) : UInt64 × UInt64 :=
  let (middle, low) := expand state
  let (next, high) := expand middle
  (next, low.toUInt64 ||| (high.toUInt64 <<< 32))

/-- The generator grown from a seed. -/
def ofSeed (seed : UInt64) : Random :=
  let (state, word0) := expandWord seed
  let (state, word1) := expandWord state
  let (state, word2) := expandWord state
  let (_, word3) := expandWord state
  { word0, word1, word2, word3 }

/-- The generator after one draw, and the word drawn. -/
def next (random : Random) : Random × UInt64 :=
  let drawn := rotateLeft64 (random.word0 + random.word3) 23 + random.word0
  let shifted := random.word1 <<< 17
  let word2 := random.word2 ^^^ random.word0
  let word3 := random.word3 ^^^ random.word1
  let word1 := random.word1 ^^^ word2
  let word0 := random.word0 ^^^ word3
  ({ word0, word1, word2 := word2 ^^^ shifted, word3 := rotateLeft64 word3 45 }, drawn)

/-- Draws a byte: the low byte of the upper half of a drawn word. -/
def nextByte (random : Random) : Random × UInt8 :=
  let (after, drawn) := random.next
  (after, (drawn >>> 32).toUInt8)

end Random

end FieldMachine

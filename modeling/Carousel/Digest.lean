/-
# Digests

A script body is known to a store by its digest: the SHA-1 digest of its UTF-8
bytes, as forty lowercase hexadecimal digits.

The message is padded to whole blocks of sixteen words. Each block is stirred
into a state of five words by eighty rounds, and the words of the rounds form
one sliding window of sixteen: a round uses the first word of the window, drops
it, and appends the word that the recurrence derives from the sixteen.
-/

namespace Carousel

namespace Digest

/-- The bits of a word moved `count` places to the left, those shifted out
coming back in on the right. -/
def rotate (word : UInt32) (count : UInt32) : UInt32 :=
  (word <<< count) ||| (word >>> (32 - count))

/-- The five words into which blocks are stirred. -/
structure State where
  a : UInt32
  b : UInt32
  c : UInt32
  d : UInt32
  e : UInt32

namespace State

/-- The state before the first block. -/
def initial : State :=
  ⟨0x67452301, 0xefcdab89, 0x98badcfe, 0x10325476, 0xc3d2e1f0⟩

/-- Add two states word by word. -/
def add (first second : State) : State :=
  ⟨first.a + second.a, first.b + second.b, first.c + second.c,
    first.d + second.d, first.e + second.e⟩

/-- The words in order. -/
def words (state : State) : List UInt32 :=
  [state.a, state.b, state.c, state.d, state.e]

/-- The mixing function and the constant of a round. Both change every twenty
rounds. -/
def mix (state : State) (round : Nat) : UInt32 × UInt32 :=
  let parity := state.b ^^^ state.c ^^^ state.d
  if round < 20 then
    ((state.b &&& state.c) ||| (~~~state.b &&& state.d), 0x5a827999)
  else if round < 40 then (parity, 0x6ed9eba1)
  else if round < 60 then
    ((state.b &&& state.c) ||| (state.b &&& state.d) ||| (state.c &&& state.d),
      0x8f1bbcdc)
  else (parity, 0xca62c1d6)

/-- One round on one word of the window. -/
def turn (state : State) (round : Nat) (word : UInt32) : State :=
  let (mixed, constant) := state.mix round
  ⟨rotate state.a 5 + mixed + state.e + constant + word, state.a,
    rotate state.b 30, state.c, state.d⟩

end State

/-- The window of the next round. -/
def slide (window : List UInt32) : List UInt32 :=
  let next :=
    window.getD 13 0 ^^^ window.getD 8 0 ^^^ window.getD 2 0 ^^^ window.getD 0 0
  window.drop 1 ++ [rotate next 1]

/-- The remaining rounds of a block, of which there are `count`. -/
def rounds : (count : Nat) → State → List UInt32 → State
  | 0, state, _ => state
  | count + 1, state, window =>
    rounds count (state.turn (79 - count) (window.getD 0 0)) (slide window)

/-- Stir one block of sixteen words into the state. -/
def absorb (state : State) (block : List UInt32) : State :=
  state.add (rounds 80 state block)

/-- The number made of big-endian bytes. -/
def bigEndian (bytes : List UInt8) : UInt32 :=
  bytes.foldl (fun word byte => (word <<< 8) ||| byte.toUInt32) 0

/-- The `count` lowest bytes of a number, highest byte first. -/
def bigEndianBytes (count number : Nat) : List UInt8 :=
  (List.range count).map fun place =>
    UInt8.ofNat (number >>> (8 * (count - 1 - place)))

/-- A message padded to whole blocks: a one bit, zeros, and the length of the
message in bits. -/
def pad (message : List UInt8) : List UInt8 :=
  let zeros := (119 - message.length % 64) % 64
  message ++ 0x80 :: List.replicate zeros 0 ++
    bigEndianBytes 8 (8 * message.length)

/-- Cut a list into `count` pieces of `size`. -/
def pieces {α : Type} (size : Nat) : (count : Nat) → List α → List (List α)
  | 0, _ => []
  | count + 1, items => items.take size :: pieces size count (items.drop size)

/-- The blocks of a padded message. -/
def blocks (padded : List UInt8) : List (List UInt32) :=
  (pieces 64 (padded.length / 64) padded).map fun block =>
    (pieces 4 16 block).map bigEndian

/-- The digest of a message as five words. -/
def words (message : List UInt8) : List UInt32 :=
  ((blocks (pad message)).foldl absorb State.initial).words

/-- The eight hexadecimal digits of a word. -/
def hexWord (word : UInt32) : List Char :=
  let digits := Nat.toDigits 16 word.toNat
  List.replicate (8 - digits.length) '0' ++ digits

/-- The digest by which a store knows a script body. -/
def ofBody (body : String) : String :=
  String.ofList ((words body.toUTF8.data.toList).flatMap hexWord)

end Digest

end Carousel

import Criteria.Number.Power

/-!
# SHA-1

The digest that spreads keys over buckets.  A message is padded to whole
blocks of 64 bytes, and every block is mixed into five words in eighty rounds;
the sixteen most recent words of the schedule travel along as a window.
-/

namespace Criteria.Sha1

/-- Five words of 32 bits. -/
structure Words where
  a : UInt32
  b : UInt32
  c : UInt32
  d : UInt32
  e : UInt32
  deriving DecidableEq

/-- The words before the first block. -/
def initial : Words :=
  ⟨0x67452301, 0xEFCDAB89, 0x98BADCFE, 0x10325476, 0xC3D2E1F0⟩

/-- A word rotated to the left. -/
def rotate (count word : UInt32) : UInt32 :=
  (word <<< count) ||| (word >>> (32 - count))

/-- The word that four bytes make, the first byte highest. -/
def wordOfBytes (first second third fourth : UInt8) : UInt32 :=
  (first.toUInt32 <<< 24) ||| (second.toUInt32 <<< 16) |||
    (third.toUInt32 <<< 8) ||| fourth.toUInt32

/-- The four bytes of a word, the highest first. -/
def bytesOfWord (word : UInt32) : List UInt8 :=
  [(word >>> 24).toUInt8, (word >>> 16).toUInt8, (word >>> 8).toUInt8,
    word.toUInt8]

/-- The words that bytes make four by four. -/
def wordsOfBytes : List UInt8 → List UInt32
  | first :: second :: third :: fourth :: rest =>
      wordOfBytes first second third fourth :: wordsOfBytes rest
  | _ => []

/-- A number as eight bytes, the highest first. -/
def lengthBytes (length : Nat) : List UInt8 :=
  (List.range 8).map fun index => UInt8.ofNat (length / 256 ^ (7 - index))

/--
A message, a one bit, zeros up to eight bytes below a whole block, and the
length in bits.
-/
def pad (message : List UInt8) : List UInt8 :=
  message ++ 0x80 :: (List.replicate ((119 - message.length % 64) % 64) 0 ++
    lengthBytes (8 * message.length))

/-- The mixing function and the constant of a round. -/
def roundTerms (round : Nat) (words : Words) : UInt32 × UInt32 :=
  if round < 20 then
    ((words.b &&& words.c) ||| (~~~words.b &&& words.d), 0x5A827999)
  else if round < 40 then (words.b ^^^ words.c ^^^ words.d, 0x6ED9EBA1)
  else if round < 60 then
    ((words.b &&& words.c) ||| (words.b &&& words.d) ||| (words.c &&& words.d),
      0x8F1BBCDC)
  else (words.b ^^^ words.c ^^^ words.d, 0xCA62C1D6)

/-- The word that follows a window of sixteen words of the schedule. -/
def nextWord (window : List UInt32) : UInt32 :=
  rotate 1
    (window.getD 13 0 ^^^ window.getD 8 0 ^^^ window.getD 2 0 ^^^
      window.getD 0 0)

/-- One round: the window moves on by one word. -/
def step (state : Words × List UInt32) (round : Nat) : Words × List UInt32 :=
  let (words, window) := state
  let (mixed, constant) := roundTerms round words
  let first := rotate 5 words.a + mixed + words.e + constant + window.headD 0
  (⟨first, words.a, rotate 30 words.b, words.c, words.d⟩,
    window.tail ++ [nextWord window])

/-- The sum of words one by one. -/
def Words.add (left right : Words) : Words :=
  ⟨left.a + right.a, left.b + right.b, left.c + right.c, left.d + right.d,
    left.e + right.e⟩

/-- Mixes a block of sixteen words into the words so far. -/
def mixBlock (words : Words) (block : List UInt32) : Words :=
  words.add ((List.range 80).foldl step (words, block)).1

/-- Mixes the first blocks of a list of words, as many as are asked for. -/
def mixBlocks (words : Words) (schedule : List UInt32) : (blocks : Nat) → Words
  | 0 => words
  | blocks + 1 =>
      mixBlocks (mixBlock words (schedule.take 16)) (schedule.drop 16) blocks

/-- The twenty bytes of the digest of a message. -/
def digest (message : List UInt8) : List UInt8 :=
  let schedule := wordsOfBytes (pad message)
  let words := mixBlocks initial schedule (schedule.length / 16)
  [words.a, words.b, words.c, words.d, words.e].flatMap bytesOfWord

end Criteria.Sha1

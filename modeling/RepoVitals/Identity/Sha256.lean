/-!
SHA-256: the 256-bit digest of a list of bytes.

Owns the padding, the message schedule and the compression of the standard, on 32-bit words.
-/

namespace RepoVitals.Identity.Sha256

/-- The first 32 bits of the fractional parts of the cube roots of the first 64 primes. -/
def roundConstants : List UInt32 :=
  [0x428a2f98, 0x71374491, 0xb5c0fbcf, 0xe9b5dba5, 0x3956c25b, 0x59f111f1, 0x923f82a4, 0xab1c5ed5,
    0xd807aa98, 0x12835b01, 0x243185be, 0x550c7dc3, 0x72be5d74, 0x80deb1fe, 0x9bdc06a7, 0xc19bf174,
    0xe49b69c1, 0xefbe4786, 0x0fc19dc6, 0x240ca1cc, 0x2de92c6f, 0x4a7484aa, 0x5cb0a9dc, 0x76f988da,
    0x983e5152, 0xa831c66d, 0xb00327c8, 0xbf597fc7, 0xc6e00bf3, 0xd5a79147, 0x06ca6351, 0x14292967,
    0x27b70a85, 0x2e1b2138, 0x4d2c6dfc, 0x53380d13, 0x650a7354, 0x766a0abb, 0x81c2c92e, 0x92722c85,
    0xa2bfe8a1, 0xa81a664b, 0xc24b8b70, 0xc76c51a3, 0xd192e819, 0xd6990624, 0xf40e3585, 0x106aa070,
    0x19a4c116, 0x1e376c08, 0x2748774c, 0x34b0bcb5, 0x391c0cb3, 0x4ed8aa4a, 0x5b9cca4f, 0x682e6ff3,
    0x748f82ee, 0x78a5636f, 0x84c87814, 0x8cc70208, 0x90befffa, 0xa4506ceb, 0xbef9a3f7, 0xc67178f2]

/-- The eight working words. -/
structure Words where
  a : UInt32
  b : UInt32
  c : UInt32
  d : UInt32
  e : UInt32
  f : UInt32
  g : UInt32
  h : UInt32
  deriving DecidableEq

/-- The first 32 bits of the fractional parts of the square roots of the first eight primes. -/
def start : Words :=
  ⟨0x6a09e667, 0xbb67ae85, 0x3c6ef372, 0xa54ff53a, 0x510e527f, 0x9b05688c, 0x1f83d9ab, 0x5be0cd19⟩

/-- Turn a word to the right by fewer than 32 bits. -/
def rotateRight (word amount : UInt32) : UInt32 :=
  (word >>> amount) ||| (word <<< (32 - amount))

/-- One round: a word of the schedule and a constant go in. -/
def round (words : Words) (input : UInt32 × UInt32) : Words :=
  let sumE := rotateRight words.e 6 ^^^ rotateRight words.e 11 ^^^ rotateRight words.e 25
  let choice := (words.e &&& words.f) ^^^ (~~~words.e &&& words.g)
  let first := words.h + sumE + choice + input.2 + input.1
  let sumA := rotateRight words.a 2 ^^^ rotateRight words.a 13 ^^^ rotateRight words.a 22
  let majority := (words.a &&& words.b) ^^^ (words.a &&& words.c) ^^^ (words.b &&& words.c)
  { a := first + (sumA + majority)
    b := words.a
    c := words.b
    d := words.c
    e := words.d + first
    f := words.e
    g := words.f
    h := words.g }

/-- The word that follows a schedule, given last word first. -/
def nextWord (reversed : List UInt32) : UInt32 :=
  let early := reversed.getD 14 0
  let late := reversed.getD 1 0
  let mixedEarly := rotateRight early 7 ^^^ rotateRight early 18 ^^^ (early >>> 3)
  let mixedLate := rotateRight late 17 ^^^ rotateRight late 19 ^^^ (late >>> 10)
  mixedLate + reversed.getD 6 0 + mixedEarly + reversed.getD 15 0

/-- A schedule, last word first, grown by this many words. -/
def extendSchedule : Nat → List UInt32 → List UInt32
  | 0, reversed => reversed
  | count + 1, reversed => extendSchedule count (nextWord reversed :: reversed)

/-- Word by word sum. -/
def Words.add (first second : Words) : Words :=
  { a := first.a + second.a
    b := first.b + second.b
    c := first.c + second.c
    d := first.d + second.d
    e := first.e + second.e
    f := first.f + second.f
    g := first.g + second.g
    h := first.h + second.h }

/-- Take a block of sixteen words into the digest. -/
def compress (words : Words) (block : List UInt32) : Words :=
  let schedule := (extendSchedule 48 block.reverse).reverse
  words.add ((schedule.zip roundConstants).foldl round words)

/-- The big-endian words of bytes, four at a time. -/
def wordsOfBytes : List UInt8 → List UInt32
  | first :: second :: third :: fourth :: rest =>
    (first.toUInt32 <<< 24 ||| second.toUInt32 <<< 16 ||| third.toUInt32 <<< 8 |||
      fourth.toUInt32) :: wordsOfBytes rest
  | _ => []

/-- The big-endian bytes of a word. -/
def bytesOfWord (word : UInt32) : List UInt8 :=
  [(word >>> 24).toUInt8, (word >>> 16).toUInt8, (word >>> 8).toUInt8, word.toUInt8]

/-- The big-endian bytes of a number below `2 ^ 64`. -/
def bytesOfLength (value : Nat) : List UInt8 :=
  [56, 48, 40, 32, 24, 16, 8, 0].map (fun shift => UInt8.ofNat (value >>> shift))

/-- The message, a one bit, zeros, and the length of the message in bits, up to a multiple of 64
bytes. -/
def pad (message : List UInt8) : List UInt8 :=
  let filled := (message.length + 9) % 64
  let zeros := if filled = 0 then 0 else 64 - filled
  message ++ 0x80 :: List.replicate zeros 0 ++ bytesOfLength (8 * message.length)

/-- Take this many blocks into the digest. -/
def compressBlocks : Nat → Words → List UInt32 → Words
  | 0, words, _ => words
  | count + 1, words, schedule =>
    compressBlocks count (compress words (schedule.take 16)) (schedule.drop 16)

/-- The 32 bytes of the digest. -/
def digest (message : List UInt8) : List UInt8 :=
  let words := wordsOfBytes (pad message)
  let final := compressBlocks (words.length / 16) start words
  [final.a, final.b, final.c, final.d, final.e, final.f, final.g, final.h].flatMap bytesOfWord

end RepoVitals.Identity.Sha256

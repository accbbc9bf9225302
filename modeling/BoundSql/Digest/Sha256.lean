import BoundSql.Text.Hex

/-!
# SHA-256

The message is padded to whole blocks of 64 bytes: a byte `0x80`, zeros, and the length in bits
as eight bytes.  Each block is spread to 64 words and mixed into a state of eight words, one
round for each word.
-/

namespace BoundSql.Sha256

/-! ## Words -/

/-- Rotate right. -/
def rotate (x n : UInt32) : UInt32 := (x >>> n) ||| (x <<< (32 - n))

/-- The four bytes of a word, high byte first. -/
def bytesOfWord (x : UInt32) : List UInt8 :=
  [(x >>> 24).toUInt8, (x >>> 16).toUInt8, (x >>> 8).toUInt8, x.toUInt8]

/-- The words that four bytes each make; fewer than four bytes at the end make none. -/
def wordsOfBytes : List UInt8 → List UInt32
  | a :: b :: c :: d :: rest =>
    (a.toUInt32 <<< 24 ||| b.toUInt32 <<< 16 ||| c.toUInt32 <<< 8 ||| d.toUInt32) ::
      wordsOfBytes rest
  | _ => []

/-! ## State -/

/-- The eight words carried from block to block. -/
structure State where
  a : UInt32
  b : UInt32
  c : UInt32
  d : UInt32
  e : UInt32
  f : UInt32
  g : UInt32
  h : UInt32

/-- The state before the first block. -/
def State.start : State :=
  ⟨0x6a09e667, 0xbb67ae85, 0x3c6ef372, 0xa54ff53a, 0x510e527f, 0x9b05688c, 0x1f83d9ab, 0x5be0cd19⟩

/-- Word by word sum. -/
def State.add (s t : State) : State :=
  ⟨s.a + t.a, s.b + t.b, s.c + t.c, s.d + t.d, s.e + t.e, s.f + t.f, s.g + t.g, s.h + t.h⟩

/-- The bytes of all eight words. -/
def State.bytes (s : State) : List UInt8 :=
  [s.a, s.b, s.c, s.d, s.e, s.f, s.g, s.h].flatMap bytesOfWord

/-- One constant for each of the 64 rounds. -/
def roundConstants : List UInt32 :=
  [0x428a2f98, 0x71374491, 0xb5c0fbcf, 0xe9b5dba5, 0x3956c25b, 0x59f111f1, 0x923f82a4, 0xab1c5ed5,
   0xd807aa98, 0x12835b01, 0x243185be, 0x550c7dc3, 0x72be5d74, 0x80deb1fe, 0x9bdc06a7, 0xc19bf174,
   0xe49b69c1, 0xefbe4786, 0x0fc19dc6, 0x240ca1cc, 0x2de92c6f, 0x4a7484aa, 0x5cb0a9dc, 0x76f988da,
   0x983e5152, 0xa831c66d, 0xb00327c8, 0xbf597fc7, 0xc6e00bf3, 0xd5a79147, 0x06ca6351, 0x14292967,
   0x27b70a85, 0x2e1b2138, 0x4d2c6dfc, 0x53380d13, 0x650a7354, 0x766a0abb, 0x81c2c92e, 0x92722c85,
   0xa2bfe8a1, 0xa81a664b, 0xc24b8b70, 0xc76c51a3, 0xd192e819, 0xd6990624, 0xf40e3585, 0x106aa070,
   0x19a4c116, 0x1e376c08, 0x2748774c, 0x34b0bcb5, 0x391c0cb3, 0x4ed8aa4a, 0x5b9cca4f, 0x682e6ff3,
   0x748f82ee, 0x78a5636f, 0x84c87814, 0x8cc70208, 0x90befffa, 0xa4506ceb, 0xbef9a3f7, 0xc67178f2]

/-! ## Blocks -/

/-- The word that follows sixteen words of the schedule. -/
def nextWord (window : Array UInt32) : UInt32 :=
  let w (i : Nat) := window.getD i 0
  let s0 := rotate (w 1) 7 ^^^ rotate (w 1) 18 ^^^ (w 1 >>> 3)
  let s1 := rotate (w 14) 17 ^^^ rotate (w 14) 19 ^^^ (w 14 >>> 10)
  s1 + w 9 + s0 + w 0

/-- Spread a block to `16 + n` words: the window holds the last sixteen. -/
def schedule : Nat → Array UInt32 → List UInt32
  | 0, window => window.toList
  | n + 1, window =>
    window.getD 0 0 :: schedule n ((window.extract 1 16).push (nextWord window))

/-- One round, with the sum of its constant and its word. -/
def round (s : State) (kw : UInt32) : State :=
  let s1 := rotate s.e 6 ^^^ rotate s.e 11 ^^^ rotate s.e 25
  let choice := (s.e &&& s.f) ^^^ (~~~s.e &&& s.g)
  let t1 := s.h + s1 + choice + kw
  let s0 := rotate s.a 2 ^^^ rotate s.a 13 ^^^ rotate s.a 22
  let majority := (s.a &&& s.b) ^^^ (s.a &&& s.c) ^^^ (s.b &&& s.c)
  ⟨t1 + (s0 + majority), s.a, s.b, s.c, s.d + t1, s.e, s.f, s.g⟩

/-- Mix sixteen words into the state. -/
def mix (s : State) (block : List UInt32) : State :=
  let words := schedule 48 block.toArray
  s.add ((roundConstants.zipWith (· + ·) words).foldl round s)

/-- Mix blocks of sixteen words, at most `n` of them. -/
def mixAll : Nat → State → List UInt32 → State
  | 0, s, _ => s
  | n + 1, s, words =>
    if words.isEmpty then s else mixAll n (mix s (words.take 16)) (words.drop 16)

/-! ## Messages -/

/-- The message with its padding. -/
def padded (message : List UInt8) : List UInt8 :=
  let length := message.length
  let zeros : List UInt8 := List.replicate ((119 - length % 64) % 64) 0
  let bits : UInt64 := UInt64.ofNat (8 * length)
  message ++ ([0x80] : List UInt8) ++ zeros ++ bytesOfWord (bits >>> 32).toUInt32 ++
    bytesOfWord bits.toUInt32

/-- The 32 bytes of the digest. -/
def digest (message : List UInt8) : List UInt8 :=
  let words := wordsOfBytes (padded message)
  (mixAll words.length .start words).bytes

/-- The digest as 64 digits. -/
def hexDigest (message : List UInt8) : String := Text.hexOfBytes (digest message)

end BoundSql.Sha256

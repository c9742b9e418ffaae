import Psychometrics.Text.Hexadecimal

/-!
# The SHA-256 digest

The digest of a byte string, as eight 32-bit words in hexadecimal.  The message is padded to whole
blocks of sixteen words.  Each block is expanded to a schedule of sixty-four words, and the working
registers run through one round for every word of the schedule (`compress`); the digest is what the
registers hold after the last block.
-/

namespace Psychometrics.Sha256

/-! ### Words -/

/-- Turns a word to the right. -/
def rotateRight (x n : UInt32) : UInt32 :=
  (x >>> n) ||| (x <<< (32 - n))

/-- Mixes the first register of a round. -/
def bigSigma0 (x : UInt32) : UInt32 :=
  rotateRight x 2 ^^^ rotateRight x 13 ^^^ rotateRight x 22

/-- Mixes the fifth register of a round. -/
def bigSigma1 (x : UInt32) : UInt32 :=
  rotateRight x 6 ^^^ rotateRight x 11 ^^^ rotateRight x 25

/-- Mixes the word fifteen places back in the schedule. -/
def smallSigma0 (x : UInt32) : UInt32 :=
  rotateRight x 7 ^^^ rotateRight x 18 ^^^ (x >>> 3)

/-- Mixes the word two places back in the schedule. -/
def smallSigma1 (x : UInt32) : UInt32 :=
  rotateRight x 17 ^^^ rotateRight x 19 ^^^ (x >>> 10)

/-- Chooses bits of `y` or `z` by the bits of `x`. -/
def choose (x y z : UInt32) : UInt32 :=
  (x &&& y) ^^^ (~~~x &&& z)

/-- The bits that at least two of three words have set. -/
def majority (x y z : UInt32) : UInt32 :=
  (x &&& y) ^^^ (x &&& z) ^^^ (y &&& z)

/-! ### Rounds -/

/-- The eight working registers. -/
structure Registers where
  a : UInt32
  b : UInt32
  c : UInt32
  d : UInt32
  e : UInt32
  f : UInt32
  g : UInt32
  h : UInt32
  deriving DecidableEq

/-- The registers before the first block: the first 32 fractional bits of the square roots of the
first eight primes. -/
def initial : Registers :=
  ⟨0x6a09e667, 0xbb67ae85, 0x3c6ef372, 0xa54ff53a, 0x510e527f, 0x9b05688c, 0x1f83d9ab, 0x5be0cd19⟩

/-- The constant of each round: the first 32 fractional bits of the cube roots of the first
sixty-four primes. -/
def roundConstants : List UInt32 :=
  [0x428a2f98, 0x71374491, 0xb5c0fbcf, 0xe9b5dba5, 0x3956c25b, 0x59f111f1, 0x923f82a4, 0xab1c5ed5,
    0xd807aa98, 0x12835b01, 0x243185be, 0x550c7dc3, 0x72be5d74, 0x80deb1fe, 0x9bdc06a7, 0xc19bf174,
    0xe49b69c1, 0xefbe4786, 0x0fc19dc6, 0x240ca1cc, 0x2de92c6f, 0x4a7484aa, 0x5cb0a9dc, 0x76f988da,
    0x983e5152, 0xa831c66d, 0xb00327c8, 0xbf597fc7, 0xc6e00bf3, 0xd5a79147, 0x06ca6351, 0x14292967,
    0x27b70a85, 0x2e1b2138, 0x4d2c6dfc, 0x53380d13, 0x650a7354, 0x766a0abb, 0x81c2c92e, 0x92722c85,
    0xa2bfe8a1, 0xa81a664b, 0xc24b8b70, 0xc76c51a3, 0xd192e819, 0xd6990624, 0xf40e3585, 0x106aa070,
    0x19a4c116, 0x1e376c08, 0x2748774c, 0x34b0bcb5, 0x391c0cb3, 0x4ed8aa4a, 0x5b9cca4f, 0x682e6ff3,
    0x748f82ee, 0x78a5636f, 0x84c87814, 0x8cc70208, 0x90befffa, 0xa4506ceb, 0xbef9a3f7, 0xc67178f2]

/-- One round: `constant` is the constant of the round and `word` its word of the schedule. -/
def round (r : Registers) (constant word : UInt32) : Registers :=
  let t₁ := r.h + bigSigma1 r.e + choose r.e r.f r.g + constant + word
  let t₂ := bigSigma0 r.a + majority r.a r.b r.c
  ⟨t₁ + t₂, r.a, r.b, r.c, r.d + t₁, r.e, r.f, r.g⟩

/-- The next word of a schedule whose words so far are given last first. -/
def nextWord (reversed : List UInt32) : UInt32 :=
  smallSigma1 (reversed.getD 1 0) + reversed.getD 6 0 + smallSigma0 (reversed.getD 14 0) +
    reversed.getD 15 0

/-- Extends a schedule, given last word first, by `n` words. -/
def extend : Nat → List UInt32 → List UInt32
  | 0, reversed => reversed
  | n + 1, reversed => extend n (nextWord reversed :: reversed)

/-- The schedule of a block: its sixteen words and the forty-eight that follow from them. -/
def schedule (block : List UInt32) : List UInt32 :=
  (extend 48 block.reverse).reverse

/-- Adds two register files word by word. -/
def Registers.add (r s : Registers) : Registers :=
  ⟨r.a + s.a, r.b + s.b, r.c + s.c, r.d + s.d, r.e + s.e, r.f + s.f, r.g + s.g, r.h + s.h⟩

/-- Takes one block of sixteen words into the registers. -/
def compress (r : Registers) (block : List UInt32) : Registers :=
  r.add ((roundConstants.zip (schedule block)).foldl (fun r kw => round r kw.1 kw.2) r)

/-! ### Messages -/

/-- The bytes of a number, most significant first, in `width` places. -/
def bigEndian : Nat → Nat → List UInt8
  | 0, _ => []
  | width + 1, n => bigEndian width (n / 256) ++ [n.toUInt8]

/-- What fills a message of `length` bytes up to whole blocks: a single bit, zeros, and the length
in bits. -/
def filling (length : Nat) : List UInt8 :=
  0x80 :: (List.replicate ((119 - length % 64) % 64) 0 ++ bigEndian 8 (8 * length))

/-- A message filled up to whole blocks. -/
def padded (message : List UInt8) : List UInt8 :=
  message ++ filling message.length

/-- The words of a list of bytes, four bytes each. -/
def wordsOf : List UInt8 → List UInt32
  | a :: b :: c :: d :: rest =>
    (a.toUInt32 <<< 24 ||| b.toUInt32 <<< 16 ||| c.toUInt32 <<< 8 ||| d.toUInt32) :: wordsOf rest
  | _ => []

/-- Takes a list of words into the registers, block by block. -/
def absorb (r : Registers) : List UInt32 → Registers
  | [] => r
  | w :: ws => absorb (compress r ((w :: ws).take 16)) ((w :: ws).drop 16)
termination_by ws => ws.length
decreasing_by simp only [List.drop_succ_cons, List.length_drop, List.length_cons]; omega

/-! ### The digest -/

/-- The digest of a message, in lower-case hexadecimal. -/
def digest (message : List UInt8) : String :=
  let r := absorb initial (wordsOf (padded message))
  String.ofList ([r.a, r.b, r.c, r.d, r.e, r.f, r.g, r.h].flatMap fun w => Text.hexChars 8 w.toNat)

/-- The digest of the UTF-8 bytes of a text. -/
def ofText (text : String) : String :=
  digest text.toUTF8.data.toList

end Psychometrics.Sha256

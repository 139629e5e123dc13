import BuildDigest.Hash.Bytes

set_option autoImplicit false

namespace BuildDigest.Hash.Sha1

structure Digest where
  a : UInt32
  b : UInt32
  c : UInt32
  d : UInt32
  e : UInt32
  deriving DecidableEq

def initial : Digest :=
  ⟨0x67452301, 0xefcdab89, 0x98badcfe, 0x10325476, 0xc3d2e1f0⟩

-- The input, a bit that is set, zeros, and the length of the input in bits, in blocks of 64 bytes.
def padded (bytes : List UInt8) : List UInt8 :=
  let zeros := (119 - bytes.length % 64) % 64
  let bits := 8 * bytes.length
  bytes ++ 0x80 :: List.replicate zeros 0 ++
    bigOfWord (UInt32.ofNat (bits / 0x100000000)) ++ bigOfWord (UInt32.ofNat bits)

def wordsOf (block : List UInt8) : Vector UInt32 16 :=
  let bytes := block.toArray
  Vector.ofFn fun i =>
    let byte := fun (k : Nat) => bytes.getD (4 * i.val + k) 0
    wordOfLittle (byte 3) (byte 2) (byte 1) (byte 0)

def wordOfRound (t : Nat) (w : Vector UInt32 16) : UInt32 × Vector UInt32 16 :=
  if t < 16 then (w[t % 16], w)
  else
    let word := rotateLeft
      (w[(t + 13) % 16] ^^^ w[(t + 8) % 16] ^^^ w[(t + 2) % 16] ^^^ w[t % 16]) 1
    (word, w.set (t % 16) word)

def choose (t : Nat) (b c d : UInt32) : UInt32 :=
  if t < 20 then (b &&& c) ||| (~~~b &&& d)
  else if t < 40 then b ^^^ c ^^^ d
  else if t < 60 then (b &&& c) ||| (b &&& d) ||| (c &&& d)
  else b ^^^ c ^^^ d

def constant (t : Nat) : UInt32 :=
  if t < 20 then 0x5a827999
  else if t < 40 then 0x6ed9eba1
  else if t < 60 then 0x8f1bbcdc
  else 0xca62c1d6

def rounds : Nat → Digest → Vector UInt32 16 → Digest
  | 0, s, _ => s
  | n + 1, s, w =>
      let t := 79 - n
      let (word, w) := wordOfRound t w
      let a := rotateLeft s.a 5 + choose t s.b s.c s.d + s.e + constant t + word
      rounds n ⟨a, s.a, rotateLeft s.b 30, s.c, s.d⟩ w

def absorb (s : Digest) (block : List UInt8) : Digest :=
  let r := rounds 80 s (wordsOf block)
  ⟨s.a + r.a, s.b + r.b, s.c + r.c, s.d + r.d, s.e + r.e⟩

def digest (bytes : List UInt8) : Digest :=
  (parts 64 (padded bytes)).foldl absorb initial

end BuildDigest.Hash.Sha1

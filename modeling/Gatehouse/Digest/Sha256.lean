/-!
SHA-256 over byte lists.

The message is padded to a multiple of 64 bytes (a one bit, zeros, the bit length as a
64-bit big-endian number), cut into 64-byte blocks, and each block is folded into the
eight-word state by the compression function over the 64-word message schedule. The digest
is the final state written big-endian: 32 bytes, whatever the input.
-/

namespace Gatehouse.Digest.Sha256

/-- The round constants: the first 32 bits of the fractional parts of the cube roots of the
first 64 primes. -/
def roundConstants : Array UInt32 := #[
  0x428a2f98, 0x71374491, 0xb5c0fbcf, 0xe9b5dba5, 0x3956c25b, 0x59f111f1, 0x923f82a4, 0xab1c5ed5,
  0xd807aa98, 0x12835b01, 0x243185be, 0x550c7dc3, 0x72be5d74, 0x80deb1fe, 0x9bdc06a7, 0xc19bf174,
  0xe49b69c1, 0xefbe4786, 0x0fc19dc6, 0x240ca1cc, 0x2de92c6f, 0x4a7484aa, 0x5cb0a9dc, 0x76f988da,
  0x983e5152, 0xa831c66d, 0xb00327c8, 0xbf597fc7, 0xc6e00bf3, 0xd5a79147, 0x06ca6351, 0x14292967,
  0x27b70a85, 0x2e1b2138, 0x4d2c6dfc, 0x53380d13, 0x650a7354, 0x766a0abb, 0x81c2c92e, 0x92722c85,
  0xa2bfe8a1, 0xa81a664b, 0xc24b8b70, 0xc76c51a3, 0xd192e819, 0xd6990624, 0xf40e3585, 0x106aa070,
  0x19a4c116, 0x1e376c08, 0x2748774c, 0x34b0bcb5, 0x391c0cb3, 0x4ed8aa4a, 0x5b9cca4f, 0x682e6ff3,
  0x748f82ee, 0x78a5636f, 0x84c87814, 0x8cc70208, 0x90befffa, 0xa4506ceb, 0xbef9a3f7, 0xc67178f2]

/-- The initial state: the first 32 bits of the fractional parts of the square roots of the
first eight primes. -/
def initial : List UInt32 :=
  [0x6a09e667, 0xbb67ae85, 0x3c6ef372, 0xa54ff53a, 0x510e527f, 0x9b05688c, 0x1f83d9ab, 0x5be0cd19]

/-- Rotation to the right within 32 bits. -/
def rotr (x : UInt32) (n : UInt32) : UInt32 := (x >>> n) ||| (x <<< (32 - n))

/-- The 64-bit big-endian bytes of a number. -/
def lengthBytes (n : Nat) : List UInt8 :=
  (List.range 8).reverse.map fun i => (n / Nat.pow 2 (8 * i) % 256).toUInt8

/-- The message padded to a multiple of 64 bytes. -/
def pad (msg : List UInt8) : List UInt8 :=
  let zeros := (119 - msg.length % 64) % 64
  msg ++ [0x80] ++ List.replicate zeros 0 ++ lengthBytes (8 * msg.length)

/-- Consecutive 64-byte blocks (the last may be shorter). -/
def blocks (bs : List UInt8) : List (List UInt8) :=
  if bs.length ≤ 64 then [bs] else bs.take 64 :: blocks (bs.drop 64)
termination_by bs.length
decreasing_by simp only [List.length_drop]; omega

/-- A big-endian word of four bytes. -/
def word (a b c d : UInt8) : UInt32 :=
  (a.toUInt32 <<< 24) ||| (b.toUInt32 <<< 16) ||| (c.toUInt32 <<< 8) ||| d.toUInt32

/-- The sixteen words of a block. -/
def words : List UInt8 → List UInt32
  | a :: b :: c :: d :: rest => word a b c d :: words rest
  | _ => []

/-- The message schedule: the block's words, extended to 64. -/
def schedule (block : List UInt8) : Array UInt32 :=
  (List.range 48).foldl (fun (w : Array UInt32) t =>
    let i := t + 16
    let w15 := w.getD (i - 15) 0
    let w2 := w.getD (i - 2) 0
    let s0 := rotr w15 7 ^^^ rotr w15 18 ^^^ (w15 >>> 3)
    let s1 := rotr w2 17 ^^^ rotr w2 19 ^^^ (w2 >>> 10)
    w.push (w.getD (i - 16) 0 + s0 + w.getD (i - 7) 0 + s1)) (words block).toArray

/-- The working variables of the compression function. -/
structure Vars where
  a : UInt32
  b : UInt32
  c : UInt32
  d : UInt32
  e : UInt32
  f : UInt32
  g : UInt32
  h : UInt32

/-- One round of the compression function with constant `k` and schedule word `w`. -/
def round (v : Vars) (k w : UInt32) : Vars :=
  let s1 := rotr v.e 6 ^^^ rotr v.e 11 ^^^ rotr v.e 25
  let ch := (v.e &&& v.f) ^^^ (~~~v.e &&& v.g)
  let t1 := v.h + s1 + ch + k + w
  let s0 := rotr v.a 2 ^^^ rotr v.a 13 ^^^ rotr v.a 22
  let maj := (v.a &&& v.b) ^^^ (v.a &&& v.c) ^^^ (v.b &&& v.c)
  let t2 := s0 + maj
  ⟨t1 + t2, v.a, v.b, v.c, v.d + t1, v.e, v.f, v.g⟩

/-- The state after one block. -/
def compress (state : List UInt32) (block : List UInt8) : List UInt32 :=
  let w := schedule block
  let get (i : Nat) : UInt32 := state.getD i 0
  let start : Vars := ⟨get 0, get 1, get 2, get 3, get 4, get 5, get 6, get 7⟩
  let v := (List.range 64).foldl
    (fun v t => round v (roundConstants.getD t 0) (w.getD t 0)) start
  [get 0 + v.a, get 1 + v.b, get 2 + v.c, get 3 + v.d,
    get 4 + v.e, get 5 + v.f, get 6 + v.g, get 7 + v.h]

/-- The four big-endian bytes of a word. -/
def wordBytes (x : UInt32) : List UInt8 :=
  [(x >>> 24).toUInt8, (x >>> 16).toUInt8, (x >>> 8).toUInt8, x.toUInt8]

/-- The SHA-256 digest of a byte list. -/
def digest (msg : List UInt8) : List UInt8 :=
  ((blocks (pad msg)).foldl compress initial).flatMap wordBytes

end Gatehouse.Digest.Sha256

import Mathlib.Algebra.Group.Nat.Defs

/-!
# `EdgePlatform.Foundation.Sha256` — SHA-256 on byte lists

The digest is the real one (FIPS 180-4), written so that it *computes*: the message schedule and the block
split recurse structurally, words are `BitVec 32`, and a file name derived from a digest can therefore be
evaluated on a concrete key.

What the proofs above use is small: a digest has 32 bytes. Collision freedom is never a fact about `sha256`;
a theorem that needs it takes `Set.InjOn sha256` on the keys it hashes.
-/

namespace Foundation

abbrev Bytes := List UInt8

namespace Sha256

abbrev Word := BitVec 32

/-- The round constants of FIPS 180-4, section 4.2.2. -/
def roundConstants : List Word := [
  0x428a2f98, 0x71374491, 0xb5c0fbcf, 0xe9b5dba5, 0x3956c25b, 0x59f111f1, 0x923f82a4, 0xab1c5ed5,
  0xd807aa98, 0x12835b01, 0x243185be, 0x550c7dc3, 0x72be5d74, 0x80deb1fe, 0x9bdc06a7, 0xc19bf174,
  0xe49b69c1, 0xefbe4786, 0x0fc19dc6, 0x240ca1cc, 0x2de92c6f, 0x4a7484aa, 0x5cb0a9dc, 0x76f988da,
  0x983e5152, 0xa831c66d, 0xb00327c8, 0xbf597fc7, 0xc6e00bf3, 0xd5a79147, 0x06ca6351, 0x14292967,
  0x27b70a85, 0x2e1b2138, 0x4d2c6dfc, 0x53380d13, 0x650a7354, 0x766a0abb, 0x81c2c92e, 0x92722c85,
  0xa2bfe8a1, 0xa81a664b, 0xc24b8b70, 0xc76c51a3, 0xd192e819, 0xd6990624, 0xf40e3585, 0x106aa070,
  0x19a4c116, 0x1e376c08, 0x2748774c, 0x34b0bcb5, 0x391c0cb3, 0x4ed8aa4a, 0x5b9cca4f, 0x682e6ff3,
  0x748f82ee, 0x78a5636f, 0x84c87814, 0x8cc70208, 0x90befffa, 0xa4506ceb, 0xbef9a3f7, 0xc67178f2]

/-- The eight chaining words. -/
structure Chain where
  (a b c d e f g h : Word)

/-- The initial chaining value (section 5.3.3). -/
def Chain.init : Chain :=
  ⟨0x6a09e667, 0xbb67ae85, 0x3c6ef372, 0xa54ff53a, 0x510e527f, 0x9b05688c, 0x1f83d9ab, 0x5be0cd19⟩

/-- One round: `kw` is the round constant already added to the schedule word. -/
def round (s : Chain) (kw : Word) : Chain :=
  let sum1 := s.e.rotateRight 6 ^^^ s.e.rotateRight 11 ^^^ s.e.rotateRight 25
  let choose := (s.e &&& s.f) ^^^ (~~~ s.e &&& s.g)
  let t1 := s.h + sum1 + choose + kw
  let sum0 := s.a.rotateRight 2 ^^^ s.a.rotateRight 13 ^^^ s.a.rotateRight 22
  let majority := (s.a &&& s.b) ^^^ (s.a &&& s.c) ^^^ (s.b &&& s.c)
  ⟨t1 + (sum0 + majority), s.a, s.b, s.c, s.d + t1, s.e, s.f, s.g⟩

/-- Extend the message schedule by `n` words. The window is kept newest first. -/
def extend : Nat → List Word → List Word
  | 0, w => w
  | n + 1, w =>
    let w15 := w.getD 14 0
    let w2 := w.getD 1 0
    let s0 := w15.rotateRight 7 ^^^ w15.rotateRight 18 ^^^ (w15 >>> 3)
    let s1 := w2.rotateRight 17 ^^^ w2.rotateRight 19 ^^^ (w2 >>> 10)
    extend n ((w.getD 15 0 + s0 + w.getD 6 0 + s1) :: w)

/-- A big-endian word. -/
def word (b : Bytes) : Word := b.foldl (fun acc x => (acc <<< 8) ||| BitVec.ofNat 32 x.toNat) 0

/-- The first `n` consecutive blocks of `k` bytes. -/
def blocks (k : Nat) : Nat → Bytes → List Bytes
  | 0, _ => []
  | n + 1, l => l.take k :: blocks k n (l.drop k)

/-- Compress one 64-byte block into the chaining value. -/
def compress (s : Chain) (block : Bytes) : Chain :=
  let w := (extend 48 ((blocks 4 16 block).map word).reverse).reverse
  let t := (List.zipWith (· + ·) roundConstants w).foldl round s
  ⟨s.a + t.a, s.b + t.b, s.c + t.c, s.d + t.d, s.e + t.e, s.f + t.f, s.g + t.g, s.h + t.h⟩

/-- The message, a one bit, zeros up to 56 modulo 64, and the bit length in eight bytes. -/
def pad (m : Bytes) : Bytes :=
  m ++ [0x80] ++ List.replicate ((55 + 64 - m.length % 64) % 64) 0 ++
    (List.range 8).map fun i => UInt8.ofNat (m.length * 8 / 256 ^ (7 - i) % 256)

/-- The four bytes of a word, most significant first. -/
def be32 (x : Word) : Bytes :=
  [UInt8.ofNat (x.toNat / 2 ^ 24), UInt8.ofNat (x.toNat / 2 ^ 16 % 256),
    UInt8.ofNat (x.toNat / 2 ^ 8 % 256), UInt8.ofNat (x.toNat % 256)]

end Sha256

open Sha256 in
/-- SHA-256. -/
def sha256 (m : Bytes) : Bytes :=
  let p := pad m
  let s := (blocks 64 (p.length / 64) p).foldl compress Chain.init
  be32 s.a ++ be32 s.b ++ be32 s.c ++ be32 s.d ++ be32 s.e ++ be32 s.f ++ be32 s.g ++ be32 s.h

@[simp] theorem length_sha256 (m : Bytes) : (sha256 m).length = 32 := rfl

-- The two-block branch of `pad` is the one a 56-byte message takes.
example : sha256 (List.replicate 56 0x61) =
    [0xb3, 0x54, 0x39, 0xa4, 0xac, 0x6f, 0x09, 0x48, 0xb6, 0xd6, 0xf9, 0xe3, 0xc6, 0xaf, 0x0f, 0x5f,
      0x59, 0x0c, 0xe2, 0x0f, 0x1b, 0xde, 0x70, 0x90, 0xef, 0x79, 0x70, 0x68, 0x6e, 0xc6, 0x73, 0x8a] := by
  decide +kernel

end Foundation

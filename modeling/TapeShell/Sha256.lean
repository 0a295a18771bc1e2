/-
This file computes the SHA-256 digest of a list of bytes.
-/

import TapeShell.Text.Quoted

namespace TapeShell.Sha256

/-- The state is the digest of the blocks so far. -/
structure State where
  a : UInt32
  b : UInt32
  c : UInt32
  d : UInt32
  e : UInt32
  f : UInt32
  g : UInt32
  h : UInt32

def initial : State :=
  ⟨0x6a09e667, 0xbb67ae85, 0x3c6ef372, 0xa54ff53a, 0x510e527f, 0x9b05688c, 0x1f83d9ab, 0x5be0cd19⟩

def roundConstants : List UInt32 :=
  [0x428a2f98, 0x71374491, 0xb5c0fbcf, 0xe9b5dba5, 0x3956c25b, 0x59f111f1, 0x923f82a4, 0xab1c5ed5,
   0xd807aa98, 0x12835b01, 0x243185be, 0x550c7dc3, 0x72be5d74, 0x80deb1fe, 0x9bdc06a7, 0xc19bf174,
   0xe49b69c1, 0xefbe4786, 0x0fc19dc6, 0x240ca1cc, 0x2de92c6f, 0x4a7484aa, 0x5cb0a9dc, 0x76f988da,
   0x983e5152, 0xa831c66d, 0xb00327c8, 0xbf597fc7, 0xc6e00bf3, 0xd5a79147, 0x06ca6351, 0x14292967,
   0x27b70a85, 0x2e1b2138, 0x4d2c6dfc, 0x53380d13, 0x650a7354, 0x766a0abb, 0x81c2c92e, 0x92722c85,
   0xa2bfe8a1, 0xa81a664b, 0xc24b8b70, 0xc76c51a3, 0xd192e819, 0xd6990624, 0xf40e3585, 0x106aa070,
   0x19a4c116, 0x1e376c08, 0x2748774c, 0x34b0bcb5, 0x391c0cb3, 0x4ed8aa4a, 0x5b9cca4f, 0x682e6ff3,
   0x748f82ee, 0x78a5636f, 0x84c87814, 0x8cc70208, 0x90befffa, 0xa4506ceb, 0xbef9a3f7, 0xc67178f2]

def rotate (word count : UInt32) : UInt32 :=
  (word >>> count) ||| (word <<< (32 - count))

/-- The words of the schedule are listed from the newest to the oldest. -/
def extend : Nat → List UInt32 → List UInt32
  | 0, words => words
  | count + 1, words =>
      let near := words.getD 1 0
      let far := words.getD 14 0
      let nearMix := rotate near 17 ^^^ rotate near 19 ^^^ (near >>> 10)
      let farMix := rotate far 7 ^^^ rotate far 18 ^^^ (far >>> 3)
      extend count ((nearMix + words.getD 6 0 + farMix + words.getD 15 0) :: words)

def schedule (block : List UInt32) : List UInt32 :=
  (extend 48 block.reverse).reverse

def round (state : State) (input : UInt32 × UInt32) : State :=
  let choice := (state.e &&& state.f) ^^^ (~~~state.e &&& state.g)
  let majority := (state.a &&& state.b) ^^^ (state.a &&& state.c) ^^^ (state.b &&& state.c)
  let high := rotate state.e 6 ^^^ rotate state.e 11 ^^^ rotate state.e 25
  let low := rotate state.a 2 ^^^ rotate state.a 13 ^^^ rotate state.a 22
  let first := state.h + high + choice + input.1 + input.2
  ⟨first + low + majority, state.a, state.b, state.c, state.d + first, state.e, state.f, state.g⟩

def State.add (left right : State) : State :=
  ⟨left.a + right.a, left.b + right.b, left.c + right.c, left.d + right.d,
   left.e + right.e, left.f + right.f, left.g + right.g, left.h + right.h⟩

def compress (state : State) (block : List UInt32) : State :=
  state.add ((roundConstants.zip (schedule block)).foldl round state)

/-- The most significant byte comes first. -/
def lengthBytes (length : Nat) : List UInt8 :=
  (List.range 8).map fun index => UInt8.ofNat (length >>> (8 * (7 - index)))

/-- One bit and enough zeros fill the last block up to the length, which is counted in bits. -/
def padding (length : Nat) : List UInt8 :=
  0x80 :: List.replicate ((119 - length % 64) % 64) 0 ++ lengthBytes (8 * length)

def words : List UInt8 → List UInt32
  | first :: second :: third :: fourth :: rest =>
      ((first.toUInt32 <<< 24) ||| (second.toUInt32 <<< 16) ||| (third.toUInt32 <<< 8) |||
        fourth.toUInt32) :: words rest
  | _ => []

def compressAll (state : State) (words : List UInt32) : State :=
  if 16 ≤ words.length then compressAll (compress state (words.take 16)) (words.drop 16) else state
termination_by words.length

def hexWord (word : UInt32) : List Char :=
  (List.range 8).map fun index => Text.hexDigit ((word.toNat >>> (4 * (7 - index))) % 16)

/-- The digest is written as sixty-four lowercase hexadecimal digits. -/
def digest (bytes : List UInt8) : String :=
  let final := compressAll initial (words (bytes ++ padding bytes.length))
  String.ofList ([final.a, final.b, final.c, final.d, final.e, final.f, final.g, final.h].flatMap
    hexWord)

end TapeShell.Sha256

import Mathlib.Algebra.Group.Nat.Defs
import Mathlib.Data.List.Basic

/-!
# SHA-256

The hash function of FIPS 180-4 on byte lists, with words as natural numbers below `2 ^ 32`, and
its lower-case hexadecimal text.  It is a definition that evaluates; nothing is proved about it,
and no development that compares two digests needs more than that it is a function.
-/

namespace Sha256

/-- Rotation of a 32-bit word to the right. -/
def rotr (count word : ℕ) : ℕ := word >>> count ||| word <<< (32 - count) % 2 ^ 32

/-- The round constants. -/
def roundConstants : List ℕ :=
  [0x428a2f98, 0x71374491, 0xb5c0fbcf, 0xe9b5dba5, 0x3956c25b, 0x59f111f1, 0x923f82a4, 0xab1c5ed5,
   0xd807aa98, 0x12835b01, 0x243185be, 0x550c7dc3, 0x72be5d74, 0x80deb1fe, 0x9bdc06a7, 0xc19bf174,
   0xe49b69c1, 0xefbe4786, 0x0fc19dc6, 0x240ca1cc, 0x2de92c6f, 0x4a7484aa, 0x5cb0a9dc, 0x76f988da,
   0x983e5152, 0xa831c66d, 0xb00327c8, 0xbf597fc7, 0xc6e00bf3, 0xd5a79147, 0x06ca6351, 0x14292967,
   0x27b70a85, 0x2e1b2138, 0x4d2c6dfc, 0x53380d13, 0x650a7354, 0x766a0abb, 0x81c2c92e, 0x92722c85,
   0xa2bfe8a1, 0xa81a664b, 0xc24b8b70, 0xc76c51a3, 0xd192e819, 0xd6990624, 0xf40e3585, 0x106aa070,
   0x19a4c116, 0x1e376c08, 0x2748774c, 0x34b0bcb5, 0x391c0cb3, 0x4ed8aa4a, 0x5b9cca4f, 0x682e6ff3,
   0x748f82ee, 0x78a5636f, 0x84c87814, 0x8cc70208, 0x90befffa, 0xa4506ceb, 0xbef9a3f7, 0xc67178f2]

/-- The initial hash value. -/
def initialHash : List ℕ :=
  [0x6a09e667, 0xbb67ae85, 0x3c6ef372, 0xa54ff53a, 0x510e527f, 0x9b05688c, 0x1f83d9ab, 0x5be0cd19]

/-- The next word of the message schedule; `schedule` holds the words so far, latest first. -/
def nextWord (schedule : List ℕ) : ℕ :=
  let x := schedule.getD 14 0
  let y := schedule.getD 1 0
  let s0 := rotr 7 x ^^^ rotr 18 x ^^^ x >>> 3
  let s1 := rotr 17 y ^^^ rotr 19 y ^^^ y >>> 10
  (schedule.getD 15 0 + s0 + schedule.getD 6 0 + s1) % 2 ^ 32

/-- Extend the message schedule by `count` words. -/
def extendSchedule : ℕ → List ℕ → List ℕ
  | 0, schedule => schedule
  | count + 1, schedule => extendSchedule count (nextWord schedule :: schedule)

/-- One round on the eight working variables. -/
def round (state : List ℕ) (constant word : ℕ) : List ℕ :=
  match state with
  | [a, b, c, d, e, f, g, h] =>
      let s1 := rotr 6 e ^^^ rotr 11 e ^^^ rotr 25 e
      let choice := (e &&& f) ^^^ ((2 ^ 32 - 1 - e) &&& g)
      let t1 := h + s1 + choice + constant + word
      let s0 := rotr 2 a ^^^ rotr 13 a ^^^ rotr 22 a
      let majority := (a &&& b) ^^^ (a &&& c) ^^^ (b &&& c)
      [(t1 + s0 + majority) % 2 ^ 32, a, b, c, (d + t1) % 2 ^ 32, e, f, g]
  | other => other

/-- The compression function on one block of sixteen words. -/
def compress (state block : List ℕ) : List ℕ :=
  let schedule := (extendSchedule 48 block.reverse).reverse
  let rounded := (roundConstants.zip schedule).foldl (fun state kw => round state kw.1 kw.2) state
  List.zipWith (fun x y => (x + y) % 2 ^ 32) state rounded

/-- The message followed by its padding and its length in bits. -/
def padded (bytes : List ℕ) : List ℕ :=
  let length := bytes.length
  bytes ++ [0x80] ++ List.replicate ((119 - length % 64) % 64) 0 ++
    (List.range 8).map fun i => (8 * length) >>> (8 * (7 - i)) % 256

/-- Big-endian words of a byte list. -/
def words : List ℕ → List ℕ
  | a :: b :: c :: d :: rest => (((a * 256 + b) * 256 + c) * 256 + d) :: words rest
  | _ => []

/-- The first `count` blocks of sixteen words. -/
def blocks : ℕ → List ℕ → List (List ℕ)
  | 0, _ => []
  | count + 1, words => words.take 16 :: blocks count (words.drop 16)

/-- The digest, as eight words. -/
def digest (bytes : List ℕ) : List ℕ :=
  let words := words (padded bytes)
  (blocks (words.length / 16) words).foldl compress initialHash

/-- The lower-case hexadecimal text of eight words. -/
def hex (words : List ℕ) : String :=
  String.ofList <| words.flatMap fun word => (List.range 8).map fun i =>
    "0123456789abcdef".toList.getD (word >>> (4 * (7 - i)) % 16) '0'

/-- The hexadecimal SHA-256 digest of a text's UTF-8 bytes. -/
def hexDigest (text : String) : String :=
  hex (digest (text.toUTF8.data.toList.map UInt8.toNat))

example : hexDigest "abc" =
    "ba7816bf8f01cfea414140de5dae2223b00361a396177a9cb410ff61f20015ad" := by decide +kernel

end Sha256

import ExprMachine.Text.Layout

/-!
SHA-256 digests of byte strings.

A message is filled up to whole blocks of 64 bytes (`padded`), each block is
spread over 64 words (`schedule`), and a state of eight words is mixed with
them (`compress`).
-/

namespace ExprMachine

/-- A digest of 32 bytes. -/
abbrev Digest := Vector UInt8 32

namespace Digest

/-- The digest that stands for none. -/
def zero : Digest := Vector.replicate 32 0

/-- A digest in lowercase hexadecimal digits. -/
def hex (d : Digest) : String :=
  Layout.hex d.toList

/-- The first 32 bytes of a list, filled up with zeros. -/
def ofBytes (bytes : List UInt8) : Digest :=
  Vector.ofFn fun i => bytes[i.val]?.getD 0

/-- The words of the round constants. -/
def roundWords : Array UInt32 := #[
  0x428a2f98, 0x71374491, 0xb5c0fbcf, 0xe9b5dba5, 0x3956c25b, 0x59f111f1, 0x923f82a4, 0xab1c5ed5,
  0xd807aa98, 0x12835b01, 0x243185be, 0x550c7dc3, 0x72be5d74, 0x80deb1fe, 0x9bdc06a7, 0xc19bf174,
  0xe49b69c1, 0xefbe4786, 0x0fc19dc6, 0x240ca1cc, 0x2de92c6f, 0x4a7484aa, 0x5cb0a9dc, 0x76f988da,
  0x983e5152, 0xa831c66d, 0xb00327c8, 0xbf597fc7, 0xc6e00bf3, 0xd5a79147, 0x06ca6351, 0x14292967,
  0x27b70a85, 0x2e1b2138, 0x4d2c6dfc, 0x53380d13, 0x650a7354, 0x766a0abb, 0x81c2c92e, 0x92722c85,
  0xa2bfe8a1, 0xa81a664b, 0xc24b8b70, 0xc76c51a3, 0xd192e819, 0xd6990624, 0xf40e3585, 0x106aa070,
  0x19a4c116, 0x1e376c08, 0x2748774c, 0x34b0bcb5, 0x391c0cb3, 0x4ed8aa4a, 0x5b9cca4f, 0x682e6ff3,
  0x748f82ee, 0x78a5636f, 0x84c87814, 0x8cc70208, 0x90befffa, 0xa4506ceb, 0xbef9a3f7, 0xc67178f2]

/-- The state before the first block. -/
def initial : Array UInt32 := #[
  0x6a09e667, 0xbb67ae85, 0x3c6ef372, 0xa54ff53a, 0x510e527f, 0x9b05688c, 0x1f83d9ab, 0x5be0cd19]

/-- A word turned to the right. -/
def rotate (x : UInt32) (n : UInt32) : UInt32 :=
  (x >>> n) ||| (x <<< (32 - n))

/-- A number as `n` bytes, the highest first. -/
def bigEndian : Nat → Nat → List UInt8
  | 0, _ => []
  | n + 1, x => bigEndian n (x / 256) ++ [UInt8.ofNat (x % 256)]

/-- A message filled up to whole blocks: a set bit, zeros, and the length in
bits. -/
def padded (message : List UInt8) : List UInt8 :=
  let n := message.length
  let zeros := (119 - n % 64) % 64
  message ++ 0x80 :: List.replicate zeros 0 ++ bigEndian 8 (8 * n)

/-- The words of a byte string, four bytes each. -/
def words : List UInt8 → List UInt32
  | a :: b :: c :: d :: rest =>
      (a.toUInt32 <<< 24 ||| b.toUInt32 <<< 16 ||| c.toUInt32 <<< 8 ||| d.toUInt32) :: words rest
  | _ => []

/-- One more word of a block's schedule, made from the sixteen before it. -/
def extend (w : Array UInt32) (i : Nat) : Array UInt32 :=
  let at' (k : Nat) : UInt32 := w[i - k]?.getD 0
  let low := at' 15
  let high := at' 2
  let s0 := rotate low 7 ^^^ rotate low 18 ^^^ (low >>> 3)
  let s1 := rotate high 17 ^^^ rotate high 19 ^^^ (high >>> 10)
  w.push (at' 16 + s0 + at' 7 + s1)

/-- The 64 words that a block is spread over. -/
def schedule (block : List UInt32) : Array UInt32 :=
  (List.range' 16 48).foldl extend block.toArray

/-- The eight words that are mixed. -/
structure Mix where
  a : UInt32
  b : UInt32
  c : UInt32
  d : UInt32
  e : UInt32
  f : UInt32
  g : UInt32
  h : UInt32

/-- One round of mixing with a word of the schedule. -/
def Mix.round (m : Mix) (k w : UInt32) : Mix :=
  let s1 := rotate m.e 6 ^^^ rotate m.e 11 ^^^ rotate m.e 25
  let choice := (m.e &&& m.f) ^^^ (~~~m.e &&& m.g)
  let t1 := m.h + s1 + choice + k + w
  let s0 := rotate m.a 2 ^^^ rotate m.a 13 ^^^ rotate m.a 22
  let majority := (m.a &&& m.b) ^^^ (m.a &&& m.c) ^^^ (m.b &&& m.c)
  ⟨t1 + s0 + majority, m.a, m.b, m.c, m.d + t1, m.e, m.f, m.g⟩

/-- The words of a state, by name. -/
def Mix.ofState (s : Array UInt32) : Mix :=
  let at' (k : Nat) : UInt32 := s[k]?.getD 0
  ⟨at' 0, at' 1, at' 2, at' 3, at' 4, at' 5, at' 6, at' 7⟩

/-- The state after one more block. -/
def compress (s : Array UInt32) (block : List UInt32) : Array UInt32 :=
  let m := (roundWords.zip (schedule block)).foldl (fun m (k, w) => m.round k w) (Mix.ofState s)
  s.zipWith (· + ·) #[m.a, m.b, m.c, m.d, m.e, m.f, m.g, m.h]

/-- The words of a message in blocks of sixteen. -/
def blocks (ws : List UInt32) : List (List UInt32) :=
  if ws.isEmpty then [] else ws.take 16 :: blocks (ws.drop 16)
termination_by ws.length
decreasing_by
  simp only [List.length_drop]
  have : ws.length ≠ 0 := by simp_all [List.isEmpty_iff]
  omega

/-- The digest of a message. -/
def ofMessage (message : List UInt8) : Digest :=
  let state := (blocks (words (padded message))).foldl compress initial
  ofBytes (state.toList.flatMap fun w => bigEndian 4 w.toNat)

end Digest

end ExprMachine

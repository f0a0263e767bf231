/-!
UTF-8 with repair: any byte string is read as characters.

* `Lead.ofByte?`: what a byte that opens a character promises, namely how many
  bytes follow it and between which bounds the first of them lies. The bounds
  rule out overlong forms, surrogates and code points above `10FFFF`.
* `codePoint?`: the character that a byte opens, with the number of bytes used
  after it.
* `decode`: the characters of a byte string; each byte that opens no character
  is read as `replacement` and the reading goes on right after it.
* `decode?`: the same for a byte string that must be clean.
* `encode`: the bytes of a list of characters.
-/

namespace ExprMachine.Utf8

/-- The character that stands for a byte outside every character. -/
def replacement : Char := Char.ofNat 0xFFFD

/-- What an opening byte promises about its character. -/
structure Lead where
  /-- The number of bytes that follow. -/
  following : Nat
  /-- The least value of the first byte that follows. -/
  low : UInt8
  /-- The greatest value of the first byte that follows. -/
  high : UInt8
  /-- The bits of the code point that the opening byte carries. -/
  payload : Nat
  deriving DecidableEq, Repr

/-- The promise of an opening byte, if the byte can open a character. -/
def Lead.ofByte? (b : UInt8) : Option Lead :=
  if b < 0x80 then some ⟨0, 0x80, 0xBF, b.toNat⟩
  else if b < 0xC2 then none
  else if b < 0xE0 then some ⟨1, 0x80, 0xBF, b.toNat - 0xC0⟩
  else if b = 0xE0 then some ⟨2, 0xA0, 0xBF, 0⟩
  else if b = 0xED then some ⟨2, 0x80, 0x9F, 0xD⟩
  else if b < 0xF0 then some ⟨2, 0x80, 0xBF, b.toNat - 0xE0⟩
  else if b = 0xF0 then some ⟨3, 0x90, 0xBF, 0⟩
  else if b < 0xF4 then some ⟨3, 0x80, 0xBF, b.toNat - 0xF0⟩
  else if b = 0xF4 then some ⟨3, 0x80, 0x8F, 4⟩
  else none

/-- The code point gathered from `n` further bytes, the first of which lies
between `low` and `high`; every later one is a plain continuation byte. -/
def gather : Nat → UInt8 → UInt8 → Nat → List UInt8 → Option Nat
  | 0, _, _, sum, _ => some sum
  | _ + 1, _, _, _, [] => none
  | n + 1, low, high, sum, b :: bs =>
      if low ≤ b ∧ b ≤ high then
        gather n 0x80 0xBF (sum * 64 + (b.toNat - 0x80)) bs
      else none

/-- The character that `b` opens before the bytes `bs`, and how many of `bs`
belong to it. -/
def codePoint? (b : UInt8) (bs : List UInt8) : Option (Char × Nat) := do
  let lead ← Lead.ofByte? b
  let code ← gather lead.following lead.low lead.high lead.payload bs
  return (Char.ofNat code, lead.following)

/-- The characters of a byte string, with `replacement` for every byte that
opens no character. -/
def decode : List UInt8 → List Char
  | [] => []
  | b :: bs =>
      match codePoint? b bs with
      | some (c, n) => c :: decode (bs.drop n)
      | none => replacement :: decode bs
termination_by bs => bs.length
decreasing_by all_goals (simp only [List.length_drop, List.length_cons]; omega)

/-- The characters of a byte string that holds whole characters only. -/
def decode? : List UInt8 → Option (List Char)
  | [] => some []
  | b :: bs =>
      match codePoint? b bs with
      | some (c, n) => (decode? (bs.drop n)).map (c :: ·)
      | none => none
termination_by bs => bs.length
decreasing_by all_goals (simp only [List.length_drop, List.length_cons]; omega)

/-- The bytes of a list of characters. -/
def encode (cs : List Char) : List UInt8 :=
  cs.flatMap String.utf8EncodeChar

end ExprMachine.Utf8

namespace ExprMachine

/-- A program text as it was received: bytes, which need not be clean UTF-8.
Its digest is taken of the bytes, its tokens of the characters. -/
structure Source where
  /-- The bytes as received. -/
  bytes : List UInt8
  deriving DecidableEq, Repr, Inhabited

namespace Source

/-- The source that a text is. -/
def ofString (s : String) : Source :=
  ⟨Utf8.encode s.toList⟩

/-- The characters of a source, bad bytes repaired. -/
def text (s : Source) : List Char :=
  Utf8.decode s.bytes

end Source

end ExprMachine

/-!
Numbers and words laid out in columns, and bytes in hexadecimal digits.

* `zeroPadded`: a number filled up with zeros after its sign.
* `rightAligned`: a word filled up with blanks on the left.
* `hex`, `unhex?`: bytes as lowercase hexadecimal digits and back.
-/

namespace ExprMachine.Layout

/-- The decimal text of an integer in a field of at least `width` characters,
filled up with zeros between the sign and the digits. -/
def zeroPadded (width : Nat) (n : Int) : String :=
  let digits := toString n.natAbs
  let sign := if n < 0 then "-" else ""
  let zeros := width - sign.length - digits.length
  sign ++ String.ofList (List.replicate zeros '0') ++ digits

/-- A word in a field of at least `width` characters, filled up with blanks on
the left. -/
def rightAligned (width : Nat) (word : String) : String :=
  String.ofList (List.replicate (width - word.length) ' ') ++ word

/-- The lowercase hexadecimal digit of a number below 16. -/
def hexDigit (n : Nat) : Char :=
  if n < 10 then Char.ofNat (48 + n) else Char.ofNat (87 + n)

/-- The number that a hexadecimal digit stands for. -/
def hexValue? (c : Char) : Option Nat :=
  if '0' ≤ c ∧ c ≤ '9' then some (c.toNat - 48)
  else if 'a' ≤ c ∧ c ≤ 'f' then some (c.toNat - 87)
  else if 'A' ≤ c ∧ c ≤ 'F' then some (c.toNat - 55)
  else none

/-- A number as exactly `width` lowercase hexadecimal digits, the lowest ones
if it has more. -/
def hexNat : Nat → Nat → List Char
  | 0, _ => []
  | width + 1, n => hexNat width (n / 16) ++ [hexDigit (n % 16)]

/-- Bytes as lowercase hexadecimal digits. -/
def hex (bytes : List UInt8) : String :=
  String.ofList (bytes.flatMap fun b => [hexDigit (b.toNat / 16), hexDigit (b.toNat % 16)])

/-- The bytes that an even number of hexadecimal digits stand for. -/
def unhex? : List Char → Option (List UInt8)
  | [] => some []
  | [_] => none
  | a :: b :: rest => do
      let high ← hexValue? a
      let low ← hexValue? b
      let bytes ← unhex? rest
      return UInt8.ofNat (16 * high + low) :: bytes

end ExprMachine.Layout

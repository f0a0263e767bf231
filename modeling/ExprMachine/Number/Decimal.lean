import ExprMachine.Number.Format

/-!
Numbers as decimal text.

* `Decimal`: an integer over a power of ten.
* `Decimal.text`, `Decimal.ofDigits`: its positional text, and the decimal that
  such a text stands for.
* `Decimal.magnitude`: the double nearest to it.
* `Decimal.shortest`: of the decimals that read back as a given double, one
  with the fewest digits, and of those the nearest.
* `Number.text`, `Number.ofLiteral?`: how a program shows a number and how it
  reads a literal.
-/

namespace ExprMachine

-- Powers are those of the core library, whatever else is imported.
attribute [local instance(high)] instPowNat

/-- The number `digits / 10 ^ scale`. -/
structure Decimal where
  /-- All digits, as one integer. -/
  digits : Nat
  /-- How many of them stand after the point. -/
  scale : Nat
  deriving DecidableEq, Repr

namespace Decimal

/-- The decimal text of a natural number in exactly `width` digits, the lowest
ones if it has more. -/
def lowDigits : Nat → Nat → List Char
  | 0, _ => []
  | width + 1, n => lowDigits width (n / 10) ++ [Nat.digitChar (n % 10)]

/-- The positional text: no exponent, and a point only before digits. -/
def text (d : Decimal) : String :=
  let whole := toString (d.digits / 10 ^ d.scale)
  if d.scale = 0 then whole
  else whole ++ "." ++ String.ofList (lowDigits d.scale (d.digits % 10 ^ d.scale))

/-- The natural number that decimal digits stand for. -/
def natOf (cs : List Char) : Nat :=
  cs.foldl (fun n c => 10 * n + (c.toNat - 48)) 0

/-- The decimal that digits, or digits around a point, stand for. -/
def ofDigits (cs : List Char) : Decimal :=
  let whole := cs.takeWhile (· ≠ '.')
  let fraction := (cs.dropWhile (· ≠ '.')).drop 1
  ⟨natOf (whole ++ fraction), fraction.length⟩

/-- The magnitude bits of the double nearest to a decimal. -/
def magnitude (d : Decimal) : Nat :=
  FloatFormat.double.nearest d.digits (10 ^ d.scale)

/-- The same number without zeros at the end of its fraction. -/
def trimmed (digits : Nat) : Nat → Decimal
  | 0 => ⟨digits, 0⟩
  | scale + 1 =>
      if digits % 10 = 0 then trimmed (digits / 10) scale else ⟨digits, scale + 1⟩

/-- The decimal `n * 10 ^ (-scale)`. -/
def scaled (n : Nat) (scale : Int) : Decimal :=
  if 0 ≤ scale then trimmed n scale.toNat else ⟨n * 10 ^ (-scale).toNat, 0⟩

/-- The number of decimal digits of a natural number. -/
def width (n : Nat) : Nat :=
  (Nat.toDigits 10 n).length

/-- The whole part of the decimal logarithm of a positive ratio. -/
def floorLog10 (num den : Nat) : Int :=
  if den ≤ num then (width (num / den) : Int) - 1
  else - (width ((den + num - 1) / num - 1) : Int)

/-- The two neighbours of `num / den` on the grid of multiples of
`10 ^ (-scale)`, the nearer one first. -/
def neighbours (num den : Nat) (scale : Int) : List Decimal :=
  let num' := if 0 ≤ scale then num * 10 ^ scale.toNat else num
  let den' := if 0 ≤ scale then den else den * 10 ^ (-scale).toNat
  let low := num' / den'
  let twice := 2 * (num' % den')
  let lowFirst := twice < den' ∨ (twice = den' ∧ low % 2 = 0)
  if lowFirst then [scaled low scale, scaled (low + 1) scale]
  else [scaled (low + 1) scale, scaled low scale]

/-- The decimal that equals `m * 2 ^ q`. -/
def exact (m : Nat) (q : Int) : Decimal :=
  if 0 ≤ q then ⟨m * 2 ^ q.toNat, 0⟩ else trimmed (m * 5 ^ (-q).toNat) (-q).toNat

/-- A decimal with as few digits as possible among those that read back as the
double `m * 2 ^ q` with magnitude bits `bits`: grids of 1, 2, ... 17 digits are
tried in turn, and the exact decimal is there for a number that none of them
holds. -/
def shortest (bits m : Nat) (q : Int) : Decimal :=
  if m = 0 then ⟨0, 0⟩
  else
    let num := if 0 ≤ q then m * 2 ^ q.toNat else m
    let den := if 0 ≤ q then 1 else 2 ^ (-q).toNat
    let first := floorLog10 num den
    let found := (List.range 17).findSome? fun (n : Nat) =>
      (neighbours num den ((n : Int) - first)).find? fun d => d.magnitude = bits
    found.getD (exact m q)

end Decimal

namespace Number

/-- How a number is shown: the fewest digits that read back, positionally, with
words for what has no digits. -/
def text (x : Float) : String :=
  let bits := x.toBits.toNat
  match FloatFormat.double.decode bits with
  | .nan => "NaN"
  | .infinite false => "inf"
  | .infinite true => "-inf"
  | .finite negative m q =>
      let magnitude := bits % FloatFormat.double.signBit
      (if negative then "-" else "") ++ (Decimal.shortest magnitude m q).text

/-- The number that a literal stands for, unless it lies beyond the largest
number. -/
def ofLiteral? (lexeme : String) : Option Float :=
  let bits := (Decimal.ofDigits lexeme.toList).magnitude
  if bits < FloatFormat.double.infinity then some (Float.ofBits (UInt64.ofNat bits)) else none

end Number

end ExprMachine

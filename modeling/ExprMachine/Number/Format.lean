/-!
Binary floating-point formats and the numbers they hold.

* `FloatFormat`: the widths of the two fields after the sign bit, with `half`,
  `single` and `double`.
* `Datum`: what a bit pattern means: not a number, an infinity, or a sign and
  an integer times a power of two.
* `FloatFormat.decode`: the meaning of a bit pattern.
* `FloatFormat.encode?`: the bit pattern of a meaning that the format holds
  exactly.
* `FloatFormat.nearest`: the magnitude bits of the number nearest to a ratio
  of natural numbers; a tie goes to the even neighbour, and a ratio beyond the
  largest number gives infinity.
-/

namespace ExprMachine

-- Powers are those of the core library, whatever else is imported.
attribute [local instance(high)] instPowNat

/-- A binary format: one sign bit, an exponent field, a fraction field. -/
structure FloatFormat where
  /-- The width of the fraction field. -/
  fraction : Nat
  /-- The width of the exponent field. -/
  exponent : Nat
  deriving DecidableEq, Repr

/-- The meaning of a bit pattern. -/
inductive Datum where
  /-- No number. -/
  | nan
  /-- An infinity. -/
  | infinite (negative : Bool)
  /-- `m * 2 ^ q`, with a sign that a zero has too. -/
  | finite (negative : Bool) (m : Nat) (q : Int)
  deriving DecidableEq, Repr

namespace FloatFormat

/-- The format of 16 bits. -/
def half : FloatFormat := ⟨10, 5⟩

/-- The format of 32 bits. -/
def single : FloatFormat := ⟨23, 8⟩

/-- The format of 64 bits. -/
def double : FloatFormat := ⟨52, 11⟩

/-- The exponent field of infinities and of what is no number. -/
def top (f : FloatFormat) : Nat :=
  2 ^ f.exponent - 1

/-- The magnitude bits of infinity. -/
def infinity (f : FloatFormat) : Nat :=
  f.top * 2 ^ f.fraction

/-- The bit that carries the sign. -/
def signBit (f : FloatFormat) : Nat :=
  2 ^ (f.fraction + f.exponent)

/-- The exponent of the smallest positive number, which is `2 ^ f.least`. -/
def least (f : FloatFormat) : Int :=
  2 - 2 ^ (f.exponent - 1) - f.fraction

/-- The meaning of a bit pattern. -/
def decode (f : FloatFormat) (bits : Nat) : Datum :=
  let fraction := bits % 2 ^ f.fraction
  let exponent := bits / 2 ^ f.fraction % 2 ^ f.exponent
  let negative := bits / f.signBit % 2 = 1
  if exponent = f.top then
    if fraction = 0 then .infinite negative else .nan
  else if exponent = 0 then .finite negative fraction f.least
  else .finite negative (2 ^ f.fraction + fraction) (f.least + exponent - 1)

/-- The magnitude bits of `m * 2 ^ q` for a positive `m`, if the format holds
that number exactly. -/
def magnitude? (f : FloatFormat) (m : Nat) (q : Int) : Option Nat :=
  -- the unit of the last place in the number's binade, never below the least
  let unit := max f.least (m.log2 + q - f.fraction)
  let scaled :=
    if unit ≤ q then some (m * 2 ^ (q - unit).toNat)
    else if m % 2 ^ (unit - q).toNat = 0 then some (m / 2 ^ (unit - q).toNat)
    else none
  scaled.bind fun s =>
    let bits := (unit - f.least).toNat * 2 ^ f.fraction + s
    if bits < f.infinity then some bits else none

/-- The bit pattern of a meaning that the format holds exactly. -/
def encode? (f : FloatFormat) : Datum → Option Nat
  | .nan => some (f.infinity + 2 ^ (f.fraction - 1))
  | .infinite negative => some (sign negative + f.infinity)
  | .finite negative m q =>
      if m = 0 then some (sign negative)
      else (f.magnitude? m q).map (sign negative + ·)
where
  /-- The sign bit, set or not. -/
  sign (negative : Bool) : Nat := if negative then f.signBit else 0

/-- The quotient of natural numbers rounded to the nearest integer, a half to
the even one. -/
def roundedQuotient (num den : Nat) : Nat :=
  let q := num / den
  let twice := 2 * (num % den)
  if twice < den then q
  else if den < twice then q + 1
  else if q % 2 = 0 then q else q + 1

/-- The whole part of the binary logarithm of a positive ratio. -/
def floorLog2 (num den : Nat) : Int :=
  let guess : Int := (num.log2 : Int) - den.log2
  let reached :=
    if 0 ≤ guess then den * 2 ^ guess.toNat ≤ num
    else den ≤ num * 2 ^ (-guess).toNat
  if reached then guess else guess - 1

/-- The magnitude bits of the number nearest to `num / den`. -/
def nearest (f : FloatFormat) (num den : Nat) : Nat :=
  if num = 0 then 0
  else
    let unit := max f.least (floorLog2 num den - f.fraction)
    let s :=
      if 0 ≤ unit then roundedQuotient num (den * 2 ^ unit.toNat)
      else roundedQuotient (num * 2 ^ (-unit).toNat) den
    -- a quotient rounded up to the next power of two carries into the exponent
    min f.infinity ((unit - f.least).toNat * 2 ^ f.fraction + s)

end FloatFormat

end ExprMachine

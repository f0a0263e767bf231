import ExprMachine.Number.Decimal
import ExprMachine.Text.Layout

/-!
Numbers as they are written in settings and on command lines.

* `isDigit`, `unsigned`, `spanDigits`, `isNatural`: the parts of a number.
* `isDecimal`: decimals with or without a fraction and an exponent, unless they
  lie beyond the largest number.
* `integer?`: integers of 64 bits in base two, eight, ten or sixteen, with
  underscores between digits.
-/

namespace ExprMachine.Number

-- Powers are those of the core library, whatever else is imported.
attribute [local instance(high)] instPowNat

/-- A decimal digit. -/
def isDigit (c : Char) : Bool :=
  '0' ≤ c ∧ c ≤ '9'

/-- A text without its sign. -/
def unsigned : List Char → List Char
  | '+' :: cs => cs
  | '-' :: cs => cs
  | cs => cs

/-- Whether a text is digits of a base, at least one, that stand for a number
below a bound. -/
def isNatural (base bound : Nat) (cs : List Char) : Bool :=
  let digits := cs.map Layout.hexValue?
  !cs.isEmpty && digits.all (fun d => d.any (· < base)) &&
    digits.foldl (fun n d => base * n + d.getD 0) 0 < bound

/-- The digits at the head of a text, and the rest. -/
def spanDigits (cs : List Char) : List Char × List Char :=
  (cs.takeWhile isDigit, cs.dropWhile isDigit)

/-- The exponent at the end of a decimal, 0 if there is none; `none` if the text
is no exponent. -/
def exponent? : List Char → Option Int
  | [] => some 0
  | c :: cs =>
      if c = 'e' ∨ c = 'E' then
        let digits := unsigned cs
        if digits.isEmpty ∨ !digits.all isDigit then none
        else
          let n : Int := Decimal.natOf digits
          some (if cs.head? = some '-' then -n else n)
      else none

/-- Whether a text is a decimal, with or without a fraction and an exponent,
that is not beyond the largest number. -/
def isDecimal (cs : List Char) : Bool :=
  let (whole, rest) := spanDigits (unsigned cs)
  let (fraction, rest) :=
    match rest with
    | '.' :: rest => spanDigits rest
    | _ => ([], rest)
  if whole.isEmpty ∧ fraction.isEmpty then false
  else
    match exponent? rest with
    | none => false
    | some e =>
        let digits := Decimal.natOf (whole ++ fraction)
        let scale := (fraction.length : Int) - e
        -- beyond these bounds the number is nought or infinite whatever its digits
        if digits = 0 ∨ scale > 100000 then true
        else if scale < -1000 then false
        else
          let bits := FloatFormat.double.nearest
            (digits * 10 ^ (-scale).toNat) (10 ^ scale.toNat)
          bits < FloatFormat.double.infinity

/-! ### Integers -/

/-- Why a text is no integer of 64 bits. -/
inductive IntegerFault where
  /-- It is not written like an integer. -/
  | malformed
  /-- It has too large a magnitude. -/
  | outOfRange
  deriving DecidableEq, Repr

/-- The base that the head of an unsigned text gives, and the digits after it:
a letter after a nought names the base, a nought alone stands for base eight. -/
def baseOf : List Char → Nat × List Char
  | '0' :: c :: d :: cs =>
      let letter := c.toLower
      if letter = 'x' then (16, d :: cs)
      else if letter = 'b' then (2, d :: cs)
      else if letter = 'o' then (8, d :: cs)
      else (8, c :: d :: cs)
  | '0' :: cs => (8, cs)
  | cs => (10, cs)

/-- The number that `n` and the digits after it stand for, underscores passed
over. The first digit that takes it out of 64 bits ends the reading. -/
def magnitude (base : Nat) : Nat → List Char → Except IntegerFault Nat
  | n, [] => .ok n
  | n, c :: cs =>
      if c = '_' then magnitude base n cs
      else
        match Layout.hexValue? c with
        | none => .error .malformed
        | some d =>
            if base ≤ d then .error .malformed
            else if 2 ^ (64 : Nat) ≤ base * n + d then .error .outOfRange
            else magnitude base (base * n + d) cs

/-- Whether every underscore stands between two digits. Before the text, there
was a digit or not. -/
def separates : Bool → List Char → Bool
  | _, [] => true
  | digitBefore, '_' :: cs => digitBefore && !cs.isEmpty && separates false cs
  | _, _ :: cs => separates true cs

/-- The integer that a text stands for. -/
def integer? (text : List Char) : Except IntegerFault Int := do
  let cs := unsigned text
  if cs.isEmpty then throw .malformed
  let (base, digits) := baseOf cs
  let n ← magnitude base 0 digits
  if !separates (base != 10) digits then throw .malformed
  let negative := text.head? = some '-'
  if n < 2 ^ (63 : Nat) ∨ (negative ∧ n = 2 ^ (63 : Nat)) then
    return if negative then -n else n
  else throw .outOfRange

end ExprMachine.Number

import ExprMachine.Calendar
import ExprMachine.Number.Literal

/-!
Dates and times as a reader of plain text takes them.

A date is a year of four digits, a month and a day, with hyphens between them. A
time may follow it: after a letter `T`, with its distance from the zero
meridian, or after blanks, without. Months, days, hours, minutes and seconds
have one digit or two.

* `short?`, `mark?`: the parts of a date.
* `date?`, `clock?`, `offset?`: what is left of a text after a date, a time of
  day, and a distance from the zero meridian.
* `isTimestamp`: whether a text is a date, with or without a time.
-/

namespace ExprMachine.Yaml

open Number (isDigit)

/-- The number of one digit or two at the head of a text, and what follows. -/
def short? : List Char → Option (Nat × List Char)
  | [] => none
  | [a] => if isDigit a then some (Decimal.natOf [a], []) else none
  | a :: b :: cs =>
      if !isDigit a then none
      else if isDigit b then some (Decimal.natOf [a, b], cs)
      else some (Decimal.natOf [a], b :: cs)

/-- What follows a character at the head of a text. -/
def mark? (c : Char) : List Char → Option (List Char)
  | [] => none
  | d :: cs => if c = d then some cs else none

/-- What follows a date at the head of a text. -/
def date? (cs : List Char) : Option (List Char) := do
  let year := cs.takeWhile isDigit
  let (month, cs) ← (mark? '-' (cs.drop year.length)).bind short?
  let (day, cs) ← (mark? '-' cs).bind short?
  if year.length = 4 ∧ Calendar.isDay (Decimal.natOf year) month day then some cs else none

/-- A text without the fraction of a second at its head. -/
def dropFraction : List Char → List Char
  | point :: digit :: cs =>
      if (point = '.' ∨ point = ',') ∧ isDigit digit then cs.dropWhile isDigit
      else point :: digit :: cs
  | cs => cs

/-- What follows a time of day at the head of a text. -/
def clock? (cs : List Char) : Option (List Char) := do
  let (hour, cs) ← short? cs
  let (minute, cs) ← (mark? ':' cs).bind short?
  let (second, cs) ← (mark? ':' cs).bind short?
  if hour < 24 ∧ minute < 60 ∧ second < 60 then some (dropFraction cs) else none

/-- What follows a distance from the zero meridian at the head of a text. -/
def offset? : List Char → Option (List Char)
  | 'Z' :: cs => some cs
  | sign :: a :: b :: ':' :: c :: d :: cs =>
      if (sign = '+' ∨ sign = '-') ∧ [a, b, c, d].all isDigit ∧
          Decimal.natOf [a, b] ≤ 24 ∧ Decimal.natOf [c, d] ≤ 60 then some cs
      else none
  | _ => none

/-- Whether a text is a date, with or without a time. -/
def isTimestamp (cs : List Char) : Bool :=
  match date? cs with
  | none => false
  | some [] => true
  | some (c :: cs) =>
      if c = 'T' ∨ c = 't' then (clock? cs).bind offset? == some []
      else if c = ' ' then clock? (cs.dropWhile (· = ' ')) == some []
      else false

end ExprMachine.Yaml

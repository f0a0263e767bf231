import ExprMachine.Calendar
import ExprMachine.Number.Literal
import ExprMachine.Toml.Basic

/-!
Values of one word: truth values, numbers, dates and times.

* `integer?`: a decimal without needless noughts, or digits after a mark for
  their base; underscores may stand between digits.
* `isFloat`: a decimal with a fraction or an exponent, or a word for what has
  no digits.
* `isMoment`: a date, a time, or a date with a time and perhaps its distance
  from the zero meridian.
* `Value.ofWord?`: the value that a word stands for.
-/

namespace ExprMachine.Toml

open Number (isDigit unsigned)

/-- The characters of a word. -/
def isWordPart (c : Char) : Bool :=
  c.isAlphanum || c == '_' || c == '+' || c == '-' || c == '.' || c == ':'

/-! ### Numbers -/

/-- Whether a text is digits with single underscores between them. -/
def isGrouped (isDigit : Char → Bool) (cs : List Char) : Bool :=
  (cs.splitOn '_').all fun group => !group.isEmpty && group.all isDigit

/-- Whether decimal digits start with a needless nought. -/
def hasNeedlessZero : List Char → Bool
  | '0' :: _ :: _ => true
  | _ => false

/-- Whether a text is digits of a decimal without a needless nought. -/
def isWhole (cs : List Char) : Bool :=
  isGrouped isDigit cs && !hasNeedlessZero cs

/-- Whether a text is written like an integer. -/
def isIntegerForm (cs : List Char) : Bool :=
  let ofBase (base : Nat) (digits : List Char) : Bool :=
    isGrouped (fun c => (Layout.hexValue? c).any (· < base)) digits
  match cs with
  | '0' :: 'x' :: digits => ofBase 16 digits
  | '0' :: 'o' :: digits => ofBase 8 digits
  | '0' :: 'b' :: digits => ofBase 2 digits
  | _ => isWhole (unsigned cs)

/-- The integer that a word stands for. -/
def integer? (cs : List Char) : Option Int :=
  if isIntegerForm cs then (Number.integer? cs).toOption else none

/-- Whether a word is a number that is not written as an integer. -/
def isFloat (cs : List Char) : Bool :=
  let body := unsigned cs
  if body = "inf".toList ∨ body = "nan".toList then true
  else
    let whole := body.takeWhile fun c => c ≠ '.' ∧ c ≠ 'e' ∧ c ≠ 'E'
    let fraction := body.drop whole.length |>.takeWhile fun c => c ≠ 'e' ∧ c ≠ 'E'
    let exponent := body.drop (whole.length + fraction.length)
    let fractionFits : Bool :=
      match fraction with
      | [] => true
      | _ :: digits => isGrouped isDigit digits
    let exponentFits : Bool :=
      match exponent with
      | [] => true
      | _ :: digits => isGrouped isDigit (unsigned digits)
    isWhole whole && fractionFits && exponentFits &&
      !(fraction.isEmpty && exponent.isEmpty) &&
      Number.isDecimal (cs.filter (· ≠ '_'))

/-! ### Dates and times -/

/-- The number that two digits stand for. -/
def pair? : List Char → Option Nat
  | [a, b] => if isDigit a ∧ isDigit b then some (Decimal.natOf [a, b]) else none
  | _ => none

/-- Whether a text is a date, `2006-01-02`. -/
def isDate (cs : List Char) : Bool :=
  match cs.splitOn '-' with
  | [year, month, day] =>
      match pair? month, pair? day with
      | some m, some d =>
          year.length == 4 && year.all isDigit && Calendar.isDay (Decimal.natOf year) m d
      | _, _ => false
  | _ => false

/-- Whether a text is seconds, `05` or `05.25`. -/
def isSeconds (cs : List Char) : Bool :=
  let fraction := cs.drop 2
  (pair? (cs.take 2)).any (· < 60) &&
    (fraction.isEmpty ||
      (fraction.head? == some '.' && fraction.length > 1 && (fraction.drop 1).all isDigit))

/-- Whether a text is a time, `15:04` or `15:04:05.25`. -/
def isTime (cs : List Char) : Bool :=
  let hourMinute (h m : List Char) : Bool := (pair? h).any (· < 24) && (pair? m).any (· < 60)
  match cs.splitOn ':' with
  | [h, m] => hourMinute h m
  | [h, m, s] => hourMinute h m && isSeconds s
  | _ => false

/-- Whether a text is a distance from the zero meridian, `Z` or `-07:00`. -/
def isOffset (cs : List Char) : Bool :=
  match cs with
  | ['Z'] | ['z'] => true
  | sign :: rest =>
      match rest.splitOn ':' with
      | [h, m] =>
          (sign == '+' || sign == '-') && (pair? h).any (· ≤ 24) && (pair? m).any (· ≤ 60)
      | _ => false
  | [] => false

/-- What may stand between a date and a time. -/
def isDateEnd (c : Char) : Bool :=
  c == 'T' || c == 't' || c == ' '

/-- Whether a word is a date, a time, or both. -/
def isMoment (cs : List Char) : Bool :=
  let date := cs.takeWhile fun c => !isDateEnd c
  match cs.drop date.length with
  | [] => isDate date || isTime date
  | _ :: rest =>
      let time := rest.takeWhile fun c => isDigit c || c == ':' || c == '.'
      let offset := rest.drop time.length
      isDate date && isTime time && (offset.isEmpty || isOffset offset)

/-! ### Words -/

/-- The value that a word stands for. -/
def Value.ofWord? (cs : List Char) : Option Value :=
  if cs = "true".toList then some (.boolean true)
  else if cs = "false".toList then some (.boolean false)
  else if isIntegerForm cs then (integer? cs).map .integer
  else if isFloat cs then some (.float (String.ofList cs))
  else if isMoment cs then some (.moment (String.ofList cs))
  else none

/-- The word at the head of a text. A blank between a date and a time belongs to
it. -/
def wordOf (cs : List Char) : List Char :=
  let word := cs.takeWhile isWordPart
  match cs.drop word.length with
  | ' ' :: c :: rest =>
      if isDate word ∧ isDigit c then word ++ ' ' :: (c :: rest).takeWhile isWordPart else word
  | _ => word

end ExprMachine.Toml

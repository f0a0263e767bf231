import ExprMachine.Number.Decimal

/-!
The values of the language: nothing, numbers and truth values.

Each operator is a partial function on values, `none` where it is not defined.
Arithmetic wants two numbers, negation a number, `not` a truth value. Equality
is defined everywhere and false across kinds; the order is defined within a
kind, with `false` before `true`, and not at all where a number is no number.
-/

namespace ExprMachine

/-- A value. -/
inductive Value where
  /-- The absence of a value. -/
  | nil
  /-- A 64-bit number. -/
  | number (x : Float)
  /-- A truth value. -/
  | boolean (b : Bool)
  deriving DecidableEq, Inhabited

namespace Value

/-- The kinds of values. -/
inductive Kind where
  | nil
  | number
  | boolean
  deriving DecidableEq, Repr, Inhabited

/-- The word for a kind. -/
def Kind.name : Kind → String
  | .nil => "nil"
  | .number => "number"
  | .boolean => "boolean"

/-- The kind with a given number, if there is one. -/
def Kind.ofByte? : UInt8 → Option Kind
  | 0 => some .nil
  | 1 => some .number
  | 2 => some .boolean
  | _ => none

/-- The word for the kind with a given number, listed or not. -/
def Kind.nameOfByte (b : UInt8) : String :=
  match ofByte? b with
  | some k => k.name
  | none => s!"ValueKind({b.toNat})"

/-- The kind of a value. -/
def kind : Value → Kind
  | .nil => .nil
  | .number _ => .number
  | .boolean _ => .boolean

/-- How a value is shown. -/
def text : Value → String
  | .nil => "nil"
  | .number x => Number.text x
  | .boolean b => if b then "true" else "false"

/-- How a value is shown together with its kind. -/
def describe : Value → String
  | .nil => "Nil"
  | .number x => "Number(" ++ Number.text x ++ ")"
  | .boolean b => "Boolean(" ++ (if b then "true" else "false") ++ ")"

/-- The number a value holds, zero if it holds none. -/
def asNumber : Value → Float
  | .number x => x
  | _ => 0

/-- The truth value a value holds, false if it holds none. -/
def asBoolean : Value → Bool
  | .boolean b => b
  | _ => false

/-- The opposite of a number. -/
def negate? : Value → Option Value
  | .number x => some (.number (-x))
  | _ => none

/-- The opposite of a truth value. -/
def not? : Value → Option Value
  | .boolean b => some (.boolean !b)
  | _ => none

/-- An operation on numbers, lifted to values. -/
def arithmetic? (op : Float → Float → Float) : Value → Value → Option Value
  | .number x, .number y => some (.number (op x y))
  | _, _ => none

/-- The sum of two numbers. -/
def add? : Value → Value → Option Value :=
  arithmetic? (· + ·)

/-- The difference of two numbers. -/
def sub? : Value → Value → Option Value :=
  arithmetic? (· - ·)

/-- The product of two numbers. -/
def mul? : Value → Value → Option Value :=
  arithmetic? (· * ·)

/-- The quotient of two numbers; division by zero gives an infinity or no
number. -/
def div? : Value → Value → Option Value :=
  arithmetic? (· / ·)

/-- Whether two values are equal; what is no number equals nothing. -/
def equal : Value → Value → Bool
  | .nil, .nil => true
  | .number x, .number y => x == y
  | .boolean a, .boolean b => a == b
  | _, _ => false

/-- The order of two values of one kind. -/
def compare? : Value → Value → Option Ordering
  | .nil, .nil => some .eq
  | .number x, .number y =>
      if x < y then some .lt
      else if y < x then some .gt
      else if x == y then some .eq
      else none
  | .boolean a, .boolean b =>
      if a == b then some .eq else if !a then some .lt else some .gt
  | _, _ => none

end Value

end ExprMachine

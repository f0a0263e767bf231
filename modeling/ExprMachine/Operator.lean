import ExprMachine.Value
import ExprMachine.Token.Basic

/-!
The operators of the language: how they are written, how tightly they bind and
what they do to values.

An operator applied to values it is not defined for yields a `Mismatch`, which
says what was asked of which kinds.
-/

namespace ExprMachine

/-- Why an operator is not defined for its operands. -/
inductive Mismatch where
  /-- Negation of something that is no number. -/
  | negation
  /-- The opposite of something that is no truth value. -/
  | inversion
  /-- Two operands of different kinds. -/
  | differing (verb : String)
  /-- Arithmetic on two operands of one kind that has none. -/
  | unsupported (verb : String) (kind : Value.Kind)
  /-- Two operands of one kind without an order between them. -/
  | unordered (kind : Value.Kind)
  deriving DecidableEq, Repr

/-- The wording of a mismatch. -/
def Mismatch.message : Mismatch → String
  | negation => "can't negate a non-numeric value"
  | inversion => "can't ! a non-boolean value"
  | differing verb => s!"can't {verb} values of differing types"
  | unsupported verb kind => s!"can't {verb} {kind.name} values"
  | unordered kind => s!"can't compare unordered {kind.name} values"

/-- The operators with one operand. -/
inductive UnaryOp where
  | negate
  | not
  deriving DecidableEq, Repr

namespace UnaryOp

/-- The operator that a token writes before its operand. -/
def ofKind? : Token.Kind → Option UnaryOp
  | .minus => some .negate
  | .bang => some .not
  | _ => none

/-- What the operator makes of its operand. -/
def apply : UnaryOp → Value → Except Mismatch Value
  | .negate, v =>
      match v.negate? with
      | some r => .ok r
      | none => .error .negation
  | .not, v =>
      match v.not? with
      | some r => .ok r
      | none => .error .inversion

end UnaryOp

/-- The operators with two operands. -/
inductive BinaryOp where
  | add
  | subtract
  | multiply
  | divide
  | equal
  | notEqual
  | greater
  | greaterEqual
  | less
  | lessEqual
  deriving DecidableEq, Repr

namespace BinaryOp

/-- The operator that a token writes between its operands. -/
def ofKind? : Token.Kind → Option BinaryOp
  | .plus => some .add
  | .minus => some .subtract
  | .star => some .multiply
  | .slash => some .divide
  | .equalEqual => some .equal
  | .bangEqual => some .notEqual
  | .greater => some .greater
  | .greaterEqual => some .greaterEqual
  | .less => some .less
  | .lessEqual => some .lessEqual
  | _ => none

/-- How tightly an operator binds: equality is loosest, then the order, then
sums, then products. -/
def strength : BinaryOp → Nat
  | equal | notEqual => 1
  | greater | greaterEqual | less | lessEqual => 2
  | add | subtract => 3
  | multiply | divide => 4

/-- Arithmetic with its verb, and a mismatch where it is not defined. -/
def calculate (verb : String) (op : Value → Value → Option Value) (a b : Value) :
    Except Mismatch Value :=
  match op a b with
  | some r => .ok r
  | none =>
      if a.kind ≠ b.kind then .error (.differing verb)
      else .error (.unsupported verb a.kind)

/-- A test of the order of two values, and a mismatch where there is none. -/
def order (test : Ordering → Bool) (a b : Value) : Except Mismatch Value :=
  match a.compare? b with
  | some o => .ok (.boolean (test o))
  | none =>
      if a.kind ≠ b.kind then .error (.differing "compare")
      else .error (.unordered a.kind)

/-- What the operator makes of its operands. -/
def apply : BinaryOp → Value → Value → Except Mismatch Value
  | .add, a, b => calculate "add" Value.add? a b
  | .subtract, a, b => calculate "subtract" Value.sub? a b
  | .multiply, a, b => calculate "multiply" Value.mul? a b
  | .divide, a, b => calculate "divide" Value.div? a b
  | .equal, a, b => .ok (.boolean (a.equal b))
  | .notEqual, a, b => .ok (.boolean !(a.equal b))
  | .greater, a, b => order (· == .gt) a b
  | .greaterEqual, a, b => order (· != .lt) a b
  | .less, a, b => order (· == .lt) a b
  | .lessEqual, a, b => order (· != .gt) a b

end BinaryOp

end ExprMachine

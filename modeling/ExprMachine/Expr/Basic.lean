import ExprMachine.Operator

/-!
Expressions as trees.

Every node keeps the line of the token it comes from, because a run that fails
names the line of the operator that failed. Parentheses leave no node.

* `Expr.eval`: the value of an expression by recursion on the tree: the left
  operand, then the right one, then the operator.
* `Expr.literals`: the values of its leaves from left to right.
-/

namespace ExprMachine

/-- An expression. -/
inductive Expr where
  /-- A value that stands for itself. -/
  | literal (value : Value) (line : Nat)
  /-- An operator before its operand. -/
  | unary (op : UnaryOp) (line : Nat) (operand : Expr)
  /-- An operator between its operands. -/
  | binary (op : BinaryOp) (line : Nat) (left right : Expr)
  deriving DecidableEq, Inhabited

namespace Expr

/-- An operator that was applied to values it is not defined for, with the line
of its token. -/
structure Failure where
  /-- Why it is not defined. -/
  mismatch : Mismatch
  /-- The line of the operator. -/
  line : Nat
  deriving DecidableEq, Repr

/-- An operator's answer, with its line if it fails. -/
def located (line : Nat) : Except Mismatch Value → Except Failure Value
  | .ok v => .ok v
  | .error m => .error ⟨m, line⟩

/-- The value of an expression, or the first operator that failed. -/
def eval : Expr → Except Failure Value
  | literal v _ => .ok v
  | unary op line operand => do
      let v ← operand.eval
      located line (op.apply v)
  | binary op line left right => do
      let a ← left.eval
      let b ← right.eval
      located line (op.apply a b)

/-- The values of the leaves, from left to right. -/
def literals : Expr → List Value
  | literal v _ => [v]
  | unary _ _ operand => operand.literals
  | binary _ _ left right => left.literals ++ right.literals

end Expr

end ExprMachine

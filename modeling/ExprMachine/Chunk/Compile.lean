import ExprMachine.Chunk.Basic
import ExprMachine.Expr.Parser
import ExprMachine.Text.Utf8

/-!
Code from expressions.

An expression is written operand first: the left operand, the right operand,
then the operator, and the return instruction behind the whole. Each byte has
the line of the token it comes from, the return instruction that of the end of
the text.

* `Chunk.Builder.load`: a constant and the instruction that loads it.
* `Expr.emit`: the code of an expression.
* `compile`: the code of a text, or all findings about it.
-/

namespace ExprMachine

/-- Puts a constant at the end of the pool and writes the instruction that loads
it. The parser admits no more literals than there are indices. -/
def Chunk.Builder.load (b : Chunk.Builder) (v : Value) (line : Int64) : Chunk.Builder :=
  let index := UInt8.ofNat b.chunk.constants.size
  let b := { b with chunk := { b.chunk with constants := b.chunk.constants.push v } }
  (b.writeOp Opcode.constant.byte line).write index line

/-- Writes the code of an expression. -/
def Expr.emit (b : Chunk.Builder) : Expr → Chunk.Builder
  | .literal v line => b.load v (Int64.ofNat line)
  | .unary op line operand => (operand.emit b).writeOp (Opcode.unary op).byte (Int64.ofNat line)
  | .binary op line left right =>
      (right.emit (left.emit b)).writeOp (Opcode.binary op).byte (Int64.ofNat line)

/-- The finished code of an expression whose text ends on a given line. -/
def Expr.assemble (e : Expr) (endLine : Nat) : Chunk.Builder :=
  (e.emit .new).writeOp Opcode.ret.byte (Int64.ofNat endLine)

/-- The code of a text as it was written, or all findings about the text. -/
def compileBuilder (text : List Char) : Except (List Diagnostic) Chunk.Builder :=
  let tokens := tokenize text
  (Expr.parseAll tokens).map fun e => e.assemble (Expr.endToken tokens).line

/-- The code of a text, or all findings about it. -/
def compile (text : List Char) : Except (List Diagnostic) Chunk :=
  (compileBuilder text).map (·.chunk)

/-- The code of a source, or all findings about it. -/
def Source.compile (s : Source) : Except (List Diagnostic) Chunk :=
  ExprMachine.compile s.text

end ExprMachine

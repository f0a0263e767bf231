import ExprMachine.Proofs.Chunk.Simulation
import ExprMachine.Proofs.Expr.Alike

/-!
Compiled code as a list of bytes.

The code of an expression is told by its tree and by the number of constants that
the pool already holds. It does not depend on lines, and where it stands behind
more constants, its indices are higher by their number and nothing else changes.

* `Expr.code`: the bytes of an expression, which are what `Expr.emit` writes
  (`Expr.code_emit`).
* `Expr.code_assemble`, `Expr.evaluate_assemble`: the finished code and its run.
* `RaisedBy`: one code is another one with all indices of constants raised.
* `Expr.raisedBy_code`: the code of an expression behind more constants, by
  induction on the tree.
-/

namespace ExprMachine

namespace Expr

open Chunk Machine

/-- The code of an expression when the pool already holds `n` constants. -/
def code (n : ℕ) : Expr → List UInt8
  | literal _ _ => [Opcode.constant.byte, UInt8.ofNat n]
  | unary op _ operand => operand.code n ++ [(Opcode.unary op).byte]
  | binary op _ left right =>
      left.code n ++ right.code (n + left.literals.length) ++ [(Opcode.binary op).byte]

@[simp] lemma code_unplaced (e : Expr) (n : ℕ) : e.unplaced.code n = e.code n := by
  induction e generalizing n with
  | literal v line => rfl
  | unary op line a ih => rw [unplaced, code, code, ih]
  | binary op line l r ihl ihr => rw [unplaced, code, code, ihl, ihr, literals_unplaced]

/-! ### What is written -/

/-- The code of an expression is written behind what has been written before. -/
lemma code_emit (e : Expr) (b : Builder) :
    (e.emit b).chunk.code.toList = b.chunk.code.toList ++ e.code b.chunk.constants.size := by
  induction e generalizing b with
  | literal v line => simp [emit, code]
  | unary op line a ih => simp [emit, code, ih]
  | binary op line l r ihl ihr => simp [emit, code, ihl, ihr, size_constants_emit]

lemma code_assemble (e : Expr) (endLine : ℕ) :
    (e.assemble endLine).chunk.code.toList = e.code 0 ++ [Opcode.ret.byte] := by
  simp [assemble, code_emit, Builder.new, Chunk.empty]

/-- The run of the finished code comes to the value of the expression. -/
lemma evaluate_assemble (e : Expr) (endLine : ℕ) (hfits : e.literals.length ≤ maxConstants) :
    (e.assemble endLine).chunk.evaluate =
      match e.eval with
      | .ok v => .ok v
      | .error f => .error ⟨.mismatch f.mismatch, Int64.ofNat f.line⟩ := by
  have hrun := e.run_assemble endLine [] hfits
  cases hv : e.eval with
  | ok v =>
      rw [hv] at hrun
      exact hrun.1
  | error f =>
      rw [hv] at hrun
      exact hrun

end Expr

/-! ### Higher indices -/

/-- `RaisedBy k xs ys`: the code `ys` is the code `xs` with the index of every
constant raised by `k`, and still one byte. -/
inductive RaisedBy (k : ℕ) : List UInt8 → List UInt8 → Prop
  /-- No code. -/
  | nil : RaisedBy k [] []
  /-- The instruction that loads a constant, with its index. -/
  | load {index index' : UInt8} {xs ys : List UInt8} (h : index'.toNat = index.toNat + k)
      (hrest : RaisedBy k xs ys) :
      RaisedBy k (Opcode.constant.byte :: index :: xs) (Opcode.constant.byte :: index' :: ys)
  /-- Any other byte. -/
  | other {byte : UInt8} {xs ys : List UInt8} (h : byte ≠ Opcode.constant.byte)
      (hrest : RaisedBy k xs ys) : RaisedBy k (byte :: xs) (byte :: ys)

lemma RaisedBy.append {k : ℕ} {xs ys us vs : List UInt8} (hxy : RaisedBy k xs ys)
    (huv : RaisedBy k us vs) : RaisedBy k (xs ++ us) (ys ++ vs) := by
  induction hxy with
  | nil => exact huv
  | load h _ ih => exact .load h ih
  | other h _ ih => exact .other h ih

/-- The code of an expression behind `k` more constants. -/
lemma Expr.raisedBy_code (e : Expr) (n k : ℕ)
    (hfits : n + k + e.literals.length ≤ Chunk.maxConstants) :
    RaisedBy k (e.code n) (e.code (n + k)) := by
  induction e generalizing n with
  | literal v line =>
      have hlt : n + k < UInt8.size := hfits
      have hlt' : n < UInt8.size := (Nat.le_add_right n k).trans_lt hlt
      refine .load ?_ .nil
      rw [UInt8.toNat_ofNat_of_lt' hlt, UInt8.toNat_ofNat_of_lt' hlt']
  | unary op line a ih =>
      have hop : (Opcode.unary op).byte ≠ Opcode.constant.byte := by cases op <;> decide
      exact (ih n hfits).append (.other hop .nil)
  | binary op line l r ihl ihr =>
      have hop : (Opcode.binary op).byte ≠ Opcode.constant.byte := by cases op <;> decide
      simp only [literals, List.length_append] at hfits
      have hright := ihr (n + l.literals.length) (by omega)
      rw [Nat.add_right_comm] at hright
      exact ((ihl n (by omega)).append hright).append (.other hop .nil)

end ExprMachine

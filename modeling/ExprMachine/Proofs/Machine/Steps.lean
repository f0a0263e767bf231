import ExprMachine.Machine.Run
import Mathlib.Tactic
import Mathlib.Logic.Relation

/-!
Runs as sequences of steps.

* `Machine.Steps`: some instructions lead from one state to another.
* `Machine.runFrom_of_steps`: a run yields what the run from any later state of
  it yields, with the same stack left.
* `Machine.step_constant`, `Machine.step_unary`, `Machine.step_binary`,
  `Machine.step_ret`: what each kind of instruction does where the code holds
  it and the stack is deep enough.
-/

namespace ExprMachine

/-- The byte of an instruction is read back as that instruction. -/
@[simp] lemma Opcode.ofByte?_byte (op : Opcode) : Opcode.ofByte? op.byte = some op := by
  cases op with
  | ret => rfl
  | constant => rfl
  | unary op => cases op <;> rfl
  | binary op => cases op <;> rfl

namespace Machine

variable {c : Chunk} {s t : State}

/-! ### Runs -/

/-- Some instructions of a chunk lead from one state to another. -/
def Steps (c : Chunk) : State → State → Prop :=
  Relation.ReflTransGen fun s t => step c s = .next t

lemma Steps.trans {u : State} (hst : Steps c s t) (htu : Steps c t u) : Steps c s u :=
  Relation.ReflTransGen.trans hst htu

lemma Steps.next {u : State} (hst : Steps c s t) (h : step c t = .next u) : Steps c s u :=
  Relation.ReflTransGen.tail hst h

/-- One instruction does not change what a run comes to. -/
lemma runFrom_of_next (h : step c s = .next t) :
    (runFrom c s).result = (runFrom c t).result ∧ (runFrom c s).stack = (runFrom c t).stack := by
  rw [runFrom]
  split
  · rename_i u hu
    obtain rfl := Step.next.inj (h.symm.trans hu)
    exact ⟨rfl, rfl⟩
  · rename_i v stack hhalt
    rw [h] at hhalt
    cases hhalt
  · rename_i e stack hfail
    rw [h] at hfail
    cases hfail

/-- Nor do several. -/
lemma runFrom_of_steps (h : Steps c s t) :
    (runFrom c s).result = (runFrom c t).result ∧ (runFrom c s).stack = (runFrom c t).stack := by
  induction h with
  | refl => exact ⟨rfl, rfl⟩
  | tail _ hnext ih =>
      obtain ⟨hresult, hstack⟩ := runFrom_of_next hnext
      exact ⟨ih.1.trans hresult, ih.2.trans hstack⟩

/-- An instruction that yields a value is the last one that is fetched. -/
lemma runFrom_eq_of_halt {v : Value} {stack : List Value} (h : step c s = .halt v stack) :
    runFrom c s = ⟨.ok v, stack, if s.ip < c.code.size then [⟨s.ip, s.stack⟩] else []⟩ := by
  rw [runFrom]
  split
  · rename_i u hu
    rw [h] at hu
    cases hu
  · rename_i v' stack' hhalt
    obtain ⟨rfl, rfl⟩ := Step.halt.inj (h.symm.trans hhalt)
    rfl
  · rename_i e stack hfail
    rw [h] at hfail
    cases hfail

/-- So is one that fails, if there is one. -/
lemma runFrom_eq_of_fail {e : Error} {stack : List Value} (h : step c s = .fail e stack) :
    runFrom c s = ⟨.error e, stack, if s.ip < c.code.size then [⟨s.ip, s.stack⟩] else []⟩ := by
  rw [runFrom]
  split
  · rename_i u hu
    rw [h] at hu
    cases hu
  · rename_i v' stack' hhalt
    rw [h] at hhalt
    cases hhalt
  · rename_i e' stack' hfail
    obtain ⟨rfl, rfl⟩ := Step.fail.inj (h.symm.trans hfail)
    rfl

lemma runFrom_of_halt {v : Value} {stack : List Value} (h : step c s = .halt v stack) :
    (runFrom c s).result = .ok v ∧ (runFrom c s).stack = stack := by
  rw [runFrom_eq_of_halt h]
  exact ⟨rfl, rfl⟩

lemma runFrom_of_fail {e : Error} {stack : List Value} (h : step c s = .fail e stack) :
    (runFrom c s).result = .error e := by
  rw [runFrom_eq_of_fail h]

/-! ### Instructions -/

variable {ip : ℕ} {stack : List Value}

lemma step_constant {index : UInt8} {v : Value}
    (hop : c.code[ip]? = some Opcode.constant.byte) (hindex : c.code[ip + 1]? = some index)
    (hv : c.constants[index.toNat]? = some v) :
    step c ⟨ip, stack⟩ = .next ⟨ip + 2, v :: stack⟩ := by
  simp [step, hop, hindex, hv]

lemma step_unary {op : UnaryOp} (hop : c.code[ip]? = some (Opcode.unary op).byte) (v : Value)
    (stack : List Value) :
    step c ⟨ip, v :: stack⟩ =
      match op.apply v with
      | .ok r => .next ⟨ip + 1, r :: stack⟩
      | .error m => .fail ⟨.mismatch m, c.lineAt ip⟩ stack := by
  cases h : op.apply v <;> simp only [step, hop, Opcode.ofByte?_byte, h]

lemma step_binary {op : BinaryOp} (hop : c.code[ip]? = some (Opcode.binary op).byte)
    (a b : Value) (stack : List Value) :
    step c ⟨ip, b :: a :: stack⟩ =
      match op.apply a b with
      | .ok r => .next ⟨ip + 1, r :: stack⟩
      | .error m => .fail ⟨.mismatch m, c.lineAt ip⟩ stack := by
  cases h : op.apply a b <;> simp only [step, hop, Opcode.ofByte?_byte, h]

lemma step_ret {v : Value} (hop : c.code[ip]? = some Opcode.ret.byte) :
    step c ⟨ip, v :: stack⟩ = .halt v stack := by
  simp [step, hop]

end Machine

end ExprMachine

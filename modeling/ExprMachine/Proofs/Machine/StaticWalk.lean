import ExprMachine.Proofs.Chunk.Decode
import ExprMachine.Proofs.Machine.Steps

/-!
What can be told of a run without running it.

A walk over the code decodes one instruction after the other and counts how
many values there would be on the stack, by the table of the instruction set
alone. It looks at no value, so the only thing it cannot foresee is an operator
that is not defined for its operands.

* `Machine.Sentinel`, `Machine.Cause.sentinel`: what a failed run can be tested
  for.
* `Machine.Forecast`, `Chunk.walk`: what the walk comes to, a return or a fault,
  and at which offset.
* `Machine.step_of_problem`, `Machine.step_of_ret`, `Machine.step_of_shallow`,
  `Machine.step_of_deep`: one instruction does what the walk takes it to do, or
  an operator fails.
* `Machine.Forecast.Holds`: the run from a state comes to what was forecast, or
  an operator has failed before.
* `Chunk.walk_holds`: the forecast of the walk holds. The induction is the walk's
  own; its invariant is that the depth counted is the depth of the stack.
* `Chunk.evaluate_walk`: the same of the evaluation of a chunk.
-/

namespace ExprMachine

namespace Machine

/-- What a failed run can be tested for. -/
inductive Sentinel where
  /-- There is no code. -/
  | emptyChunk
  /-- The code ends before a return. -/
  | noReturn
  /-- A byte is no instruction. -/
  | unknownOpcode
  /-- An operand is missing or names no constant. -/
  | badOperand
  /-- There are too few values on the stack. -/
  | stackUnderflow
  /-- An operator is not defined for its operands. -/
  | typeMismatch
  deriving DecidableEq, Repr

/-- The test that a cause passes. -/
def Cause.sentinel : Cause → Sentinel
  | emptyChunk => .emptyChunk
  | noReturn => .noReturn
  | unknownOpcode _ => .unknownOpcode
  | missingOperand | badConstant _ => .badOperand
  | stackUnderflow => .stackUnderflow
  | mismatch _ => .typeMismatch

/-- What a walk over the code comes to. -/
inductive Forecast where
  /-- A return, with so many values on the stack. -/
  | good (offset depth : ℕ)
  /-- A fault at an offset. -/
  | fault (sentinel : Sentinel) (offset : ℕ)
  deriving DecidableEq, Repr

/-- Where the walk came to it. -/
def Forecast.offset : Forecast → ℕ
  | .good offset _ => offset
  | .fault _ offset => offset

end Machine

open Machine

/-- Walks over the code from an offset, with so many values on the stack. -/
def Chunk.walk (c : Chunk) (offset depth : ℕ) : Forecast :=
  if offset < c.code.size then
    let i := c.decode offset
    if i.problem?.isSome then
      .fault (if i.opcode?.isNone then .unknownOpcode else .badOperand) offset
    else if i.byte = Opcode.ret.byte then .good offset depth
    else
      let info := Opcode.infoOfByte i.byte
      if depth < info.pops then .fault .stackUnderflow offset
      else c.walk (offset + (1 + info.operands)) (depth + info.pushes - info.pops)
  else .fault .noReturn offset
termination_by c.code.size - offset

/-! ### The table of instructions -/

namespace Opcode

lemma infoOfByte_of_ofByte? {b : UInt8} {op : Opcode} (h : ofByte? b = some op) :
    infoOfByte b = op.info := by
  simp [infoOfByte, h]

lemma info_unary (op : UnaryOp) :
    (unary op).info.pops = 1 ∧ (unary op).info.pushes = 1 ∧ (unary op).info.operands = 0 := by
  cases op <;> exact ⟨rfl, rfl, rfl⟩

lemma info_binary (op : BinaryOp) :
    (binary op).info.pops = 2 ∧ (binary op).info.pushes = 1 ∧ (binary op).info.operands = 0 := by
  cases op <;> exact ⟨rfl, rfl, rfl⟩

end Opcode

/-! ### One instruction -/

namespace Machine

variable {c : Chunk} {s : State} {b : UInt8}

/-- Where something is wrong with the instruction, the run fails, for the same
reason. -/
lemma step_of_problem (hb : c.code[s.ip]? = some b)
    (h : (c.decode s.ip).problem?.isSome = true) :
    ∃ e, step c s = .fail e s.stack ∧ e.cause.sentinel =
      if (c.decode s.ip).opcode?.isNone then .unknownOpcode else .badOperand := by
  rw [Chunk.decode_problem? hb] at h
  rw [Chunk.decode_opcode? hb]
  cases hop : Opcode.ofByte? b with
  | none => exact ⟨⟨.unknownOpcode b, c.lineAt s.ip⟩, by simp [step, hb, hop], rfl⟩
  | some op =>
      cases op with
      | constant =>
          simp only [hop] at h
          cases hi : c.code[s.ip + 1]? with
          | none => exact ⟨⟨.missingOperand, c.lineAt s.ip⟩, by simp [step, hb, hop, hi], rfl⟩
          | some index =>
              simp only [hi] at h
              cases hv : c.constants[index.toNat]? with
              | none =>
                  exact ⟨⟨.badConstant index, c.lineAt (s.ip + 1)⟩,
                    by simp [step, hb, hop, hi, hv], rfl⟩
              | some v => simp [hv] at h
      | _ => simp [hop] at h

/-- A return yields the value on top of the stack, or nothing if there is none. -/
lemma step_of_ret (hb : c.code[s.ip]? = some Opcode.ret.byte) :
    ∃ v below, step c s = .halt v below ∧ below.length = s.stack.length - 1 ∧
      (s.stack.length = 0 → v = .nil) := by
  obtain ⟨ip, stack⟩ := s
  cases stack with
  | nil => exact ⟨.nil, [], by simp [step, hb], rfl, fun _ => rfl⟩
  | cons v below => exact ⟨v, below, step_ret hb, by simp, by simp⟩

/-- An instruction that takes more values than there are fails. -/
lemma step_of_shallow (hb : c.code[s.ip]? = some b)
    (h : s.stack.length < (Opcode.infoOfByte b).pops) :
    ∃ e, step c s = .fail e s.stack ∧ e.cause.sentinel = .stackUnderflow := by
  obtain ⟨ip, stack⟩ := s
  refine ⟨⟨.stackUnderflow, c.lineAt ip⟩, ?_, rfl⟩
  cases hop : Opcode.ofByte? b with
  | none => simp [Opcode.infoOfByte, hop] at h
  | some op =>
      rw [Opcode.infoOfByte_of_ofByte? hop] at h
      cases op with
      | ret => exact absurd h (Nat.not_lt_zero _)
      | constant => exact absurd h (Nat.not_lt_zero _)
      | unary op =>
          rw [(Opcode.info_unary op).1, Nat.lt_one_iff, List.length_eq_zero_iff] at h
          subst h
          simp [step, hb, hop]
      | binary op =>
          rw [(Opcode.info_binary op).1] at h
          cases stack with
          | nil => simp [step, hb, hop]
          | cons v below =>
              obtain rfl : below = [] := by simpa using h
              simp [step, hb, hop]

/-- Any other instruction goes on behind its operands with as many values as its
entry in the table says, or is an operator that fails. -/
lemma step_of_deep (hb : c.code[s.ip]? = some b)
    (hproblem : (c.decode s.ip).problem?.isSome = false) (hret : b ≠ Opcode.ret.byte)
    (h : (Opcode.infoOfByte b).pops ≤ s.stack.length) :
    (∃ t, step c s = .next t ∧ t.ip = s.ip + (1 + (Opcode.infoOfByte b).operands) ∧
      t.stack.length = s.stack.length + (Opcode.infoOfByte b).pushes -
        (Opcode.infoOfByte b).pops) ∨
    ∃ e left, step c s = .fail e left ∧ e.cause.sentinel = .typeMismatch := by
  obtain ⟨ip, stack⟩ := s
  rw [Chunk.decode_problem? hb] at hproblem
  cases hop : Opcode.ofByte? b with
  | none => simp [hop] at hproblem
  | some op =>
      rw [Opcode.infoOfByte_of_ofByte? hop] at h ⊢
      have hbyte := Opcode.eq_byte_of_ofByte? hop
      subst hbyte
      cases op with
      | ret => exact absurd rfl hret
      | constant =>
          simp only [hop] at hproblem
          cases hi : c.code[ip + 1]? with
          | none => simp [hi] at hproblem
          | some index =>
              cases hv : c.constants[index.toNat]? with
              | none => simp [hi, hv] at hproblem
              | some v => exact .inl ⟨_, step_constant hb hi hv, rfl, rfl⟩
      | unary op =>
          obtain ⟨hpops, hpushes, hoperands⟩ := Opcode.info_unary op
          rw [hpops] at h
          obtain ⟨v, below, rfl⟩ := List.exists_cons_of_length_pos h
          have hstep := step_unary hb v below
          cases hv : op.apply v with
          | ok r => exact .inl ⟨_, by rw [hstep, hv], by simp [hoperands], by simp [hpops, hpushes]⟩
          | error m => exact .inr ⟨_, _, by rw [hstep, hv], rfl⟩
      | binary op =>
          obtain ⟨hpops, hpushes, hoperands⟩ := Opcode.info_binary op
          rw [hpops] at h
          obtain ⟨y, rest, rfl⟩ := List.exists_cons_of_length_pos (Nat.lt_of_succ_lt h)
          obtain ⟨x, below, rfl⟩ := List.exists_cons_of_length_pos (Nat.lt_of_succ_lt_succ h)
          have hstep := step_binary hb x y below
          cases hv : op.apply x y with
          | ok r => exact .inl ⟨_, by rw [hstep, hv], by simp [hoperands], by simp [hpops, hpushes]⟩
          | error m => exact .inr ⟨_, _, by rw [hstep, hv], rfl⟩

/-! ### Whole runs -/

/-- From the state `s`, the run fails at the instruction at `offset`, as
`sentinel` tells. -/
def FailsAt (c : Chunk) (s : State) (result : Except Error Value) (sentinel : Sentinel)
    (offset : ℕ) : Prop :=
  ∃ t e left, Steps c s t ∧ t.ip = offset ∧ step c t = .fail e left ∧ result = .error e ∧
    e.cause.sentinel = sentinel

/-- A forecast holds of the run from a state if the run comes to what was
forecast, or an operator fails at an earlier instruction. -/
def Forecast.Holds (c : Chunk) (s : State) (result : Except Error Value) (stack : List Value) :
    Forecast → Prop
  | .good offset depth =>
      (∃ v, result = .ok v ∧ stack.length = depth - 1 ∧ (depth = 0 → v = .nil)) ∨
        ∃ earlier < offset, FailsAt c s result .typeMismatch earlier
  | .fault sentinel offset =>
      FailsAt c s result sentinel offset ∨
        ∃ earlier < offset, FailsAt c s result .typeMismatch earlier

lemma FailsAt.of_next {t : State} {result : Except Error Value} {sentinel : Sentinel}
    {offset : ℕ} (hnext : step c s = .next t) (h : FailsAt c t result sentinel offset) :
    FailsAt c s result sentinel offset := by
  obtain ⟨u, e, left, hsteps, hip, hfail, hresult⟩ := h
  exact ⟨u, e, left, .head hnext hsteps, hip, hfail, hresult⟩

lemma failsAt_of_fail {e : Error} {left : List Value} (h : step c s = .fail e left) :
    FailsAt c s (runFrom c s).result e.cause.sentinel s.ip :=
  ⟨s, e, left, .refl, rfl, h, runFrom_of_fail h, rfl⟩

/-- A forecast that holds behind an instruction holds before it. -/
lemma Forecast.Holds.of_next {t : State} {forecast : Forecast} (hnext : step c s = .next t)
    (h : forecast.Holds c t (runFrom c t).result (runFrom c t).stack) :
    forecast.Holds c s (runFrom c s).result (runFrom c s).stack := by
  obtain ⟨hresult, hstack⟩ := runFrom_of_next hnext
  rw [hresult, hstack]
  cases forecast with
  | good offset depth =>
      refine h.imp_right ?_
      rintro ⟨earlier, hlt, hfails⟩
      exact ⟨earlier, hlt, hfails.of_next hnext⟩
  | fault sentinel offset =>
      refine h.imp (FailsAt.of_next hnext) ?_
      rintro ⟨earlier, hlt, hfails⟩
      exact ⟨earlier, hlt, hfails.of_next hnext⟩

/-- A forecast holds where an operator fails before the place it is about. -/
lemma Forecast.holds_of_mismatch {forecast : Forecast} {e : Error} {left : List Value}
    (hfail : step c s = .fail e left) (he : e.cause.sentinel = .typeMismatch)
    (hlt : s.ip < forecast.offset) :
    forecast.Holds c s (runFrom c s).result (runFrom c s).stack := by
  have hfails := failsAt_of_fail hfail
  rw [he] at hfails
  cases forecast with
  | good offset depth => exact .inr ⟨s.ip, hlt, hfails⟩
  | fault sentinel offset => exact .inr ⟨s.ip, hlt, hfails⟩

end Machine

namespace Chunk

/-- A walk does not go back. -/
lemma le_offset_walk (c : Chunk) (offset depth : ℕ) : offset ≤ (c.walk offset depth).offset := by
  fun_induction c.walk offset depth with
  | case4 offset depth _ i _ _ info _ ih => omega
  | _ => exact le_rfl

/-- The forecast of a walk holds of every run that begins where the walk began
with as many values as the walk began with. -/
lemma walk_holds (c : Chunk) (offset depth : ℕ) (s : State) (hip : s.ip = offset)
    (hdepth : s.stack.length = depth) :
    (c.walk offset depth).Holds c s (runFrom c s).result (runFrom c s).stack := by
  fun_induction c.walk offset depth generalizing s with
  | case1 offset depth hlt i hproblem =>
      subst hip
      obtain ⟨e, hfail, he⟩ := step_of_problem (Array.getElem?_eq_getElem hlt) hproblem
      rw [← he]
      exact .inl (failsAt_of_fail hfail)
  | case2 offset depth hlt i hproblem hret =>
      subst hip hdepth
      have hbyte := Array.getElem?_eq_getElem hlt
      rw [← decode_byte hbyte, hret] at hbyte
      obtain ⟨v, below, hhalt, hbelow, hnil⟩ := step_of_ret hbyte
      obtain ⟨hresult, hstack⟩ := runFrom_of_halt hhalt
      exact .inl ⟨v, hresult, by rw [hstack, hbelow], hnil⟩
  | case3 offset depth hlt i hproblem hret info hshallow =>
      subst hip hdepth
      have hbyte := Array.getElem?_eq_getElem hlt
      rw [← decode_byte hbyte] at hbyte
      obtain ⟨e, hfail, he⟩ := step_of_shallow hbyte hshallow
      rw [← he]
      exact .inl (failsAt_of_fail hfail)
  | case4 offset depth hlt i hproblem hret info hdeep ih =>
      subst hip hdepth
      have hbyte := Array.getElem?_eq_getElem hlt
      rw [← decode_byte hbyte] at hbyte
      have hok := Bool.eq_false_of_not_eq_true hproblem
      obtain ⟨t, hnext, hip, hdepth⟩ | ⟨e, left, hfail, he⟩ :=
        step_of_deep hbyte hok hret (Nat.le_of_not_lt hdeep)
      · exact (ih t hip hdepth).of_next hnext
      · -- what the walk comes to lies behind the operator that fails
        have hle := c.le_offset_walk (s.ip + (1 + info.operands))
          (s.stack.length + info.pushes - info.pops)
        exact Forecast.holds_of_mismatch hfail he (by omega)
  | case5 offset depth hlt =>
      subst hip
      have hbyte : c.code[s.ip]? = none := Array.getElem?_eq_none (Nat.le_of_not_lt hlt)
      have hfail : step c s = .fail ⟨.noReturn, c.lineAt ((c.code.size : ℤ) - 1)⟩ s.stack := by
        simp [step, hbyte]
      exact .inl (failsAt_of_fail hfail)

/-- **The table and the decoder predict the machine**: whatever the code of a
chunk, as long as there is some, and whatever a machine has run before, the
evaluation of the chunk comes to what a walk over the code comes to, or fails at
an earlier instruction because an operator is not defined for its operands. -/
theorem evaluate_walk (c : Chunk) (hcode : c.code.size ≠ 0) (before : List Value) (o : Observer) :
    (c.walk 0 0).Holds c ⟨0, []⟩ ((⟨some c, before⟩ : Machine).evaluate o).1.result
      ((⟨some c, before⟩ : Machine).evaluate o).2.stack := by
  have hrun : run (some c) before = runFrom c ⟨0, []⟩ := by rw [run, if_neg hcode]
  simp only [Machine.evaluate, hrun]
  exact c.walk_holds 0 0 ⟨0, []⟩ rfl rfl

/-- A sum of a truth value and nothing before a byte that is no instruction: the
walk comes to the byte, the run only to the sum. -/
theorem evaluate_walk_mismatch :
    ∃ c : Chunk, c = ⟨#[1, 0, 1, 1, 3, 255], #[1, 1, 1, 1, 2, 3], #[.boolean true, .nil]⟩ ∧
      c.code.size ≠ 0 ∧ c.walk 0 0 = .fault .unknownOpcode 5 ∧
      c.evaluate = .error ⟨.mismatch (.differing "add"), 2⟩ ∧
      (c.walk 0 0).Holds c ⟨0, []⟩ ((⟨some c, []⟩ : Machine).evaluate ⟨true, .off⟩).1.result
        ((⟨some c, []⟩ : Machine).evaluate ⟨true, .off⟩).2.stack :=
  ⟨_, rfl, by decide, by decide +kernel, by decide +kernel,
    evaluate_walk _ (by decide) [] ⟨true, .off⟩⟩

end Chunk

end ExprMachine

import ExprMachine.Proofs.Chunk.Simulation
import ExprMachine.Proofs.Number.Text
import ExprMachine.Proofs.Wire.RoundTrip

/-!
Compiled chunks in portable form.

A literal is never a zero with a minus sign, for the sign of a number is an
operator of its own. So what does not come back from the portable form of a
chunk is not to be found in a compiled one.

* `Expr.toBits_lt_of_mem_literals`: the numbers of a sentence are finite and have
  no sign.
* `Source.validate_of_compile`, `Source.toBits_lt_of_compile`,
  `Source.carried_of_compile`: a compiled chunk is valid, its numbers are finite and
  have no sign, and it comes back unchanged.
-/

namespace ExprMachine

namespace Expr

/-- The numbers of a sentence in range are finite and have no sign. -/
lemma toBits_lt_of_mem_literals {x : Level} {ts : List Token} {e : Expr} (h : Derives x ts e)
    (hrange : NumbersInRange ts) {y : Float} (hy : .number y ∈ e.literals) :
    y.toBits.toNat < FloatFormat.double.infinity := by
  induction h with
  | operand _ _ ih => exact ih hrange hy
  | chain _ _ _ _ ihl ihr =>
      rw [numbersInRange_append, numbersInRange_cons] at hrange
      rcases List.mem_append.mp hy with hy | hy
      · exact ihl hrange.1 hy
      · exact ihr hrange.2.2 hy
  | sign _ _ ih => exact ih (numbersInRange_cons.mp hrange).2 hy
  | group _ _ _ ih =>
      exact ih (numbersInRange_append.mp (numbersInRange_cons.mp hrange).2).1 hy
  | @number t h =>
      obtain rfl := Value.number.inj (List.mem_singleton.mp hy)
      obtain ⟨hnat, hlt⟩ := Number.toBits_nearest (hrange t (List.mem_singleton.mpr rfl) h)
      rw [hnat]
      exact hlt
  | truth _ => simp [literals] at hy
  | falsity _ => simp [literals] at hy
  | nothing _ => simp [literals] at hy

end Expr

namespace Source

open ExprMachine.Expr

variable {s : Source} {c : Chunk}

/-- The constants of a compiled chunk are the literals of its tree. -/
lemma exists_literals_of_compile (h : s.compile = .ok c) :
    ∃ ts e, Derives .equality ts e ∧ literalCount ts ≤ Chunk.maxConstants ∧ NumbersInRange ts ∧
      c.constants.toList = e.literals ∧ c.code.size = c.lines.size := by
  obtain ⟨e, he, rfl⟩ := Source.compile_eq_ok_iff.mp h
  obtain ⟨-, hderives, hcount, hrange⟩ := parseAll_eq_ok_iff.mp he
  refine ⟨_, e, hderives, hcount, hrange, ?_, ?_⟩
  · rw [constants_assemble]
  · have hnew : Chunk.Builder.new.Aligned := rfl
    exact ((aligned_emit e hnew).writeOp Opcode.ret.byte _).symm

/-- A compiled chunk is valid. -/
lemma validate_of_compile (h : s.compile = .ok c) : c.validate = .ok () := by
  obtain ⟨ts, e, hderives, hcount, -, hconstants, hsize⟩ := exists_literals_of_compile h
  refine c.validate_eq_ok_iff.mpr ⟨hsize, ?_⟩
  rw [← Array.length_toList, hconstants, length_literals hderives]
  exact hcount

/-- The numbers of a compiled chunk are finite and have no sign. -/
lemma toBits_lt_of_compile (h : s.compile = .ok c) {y : Float} (hy : .number y ∈ c.constants) :
    y.toBits.toNat < FloatFormat.double.infinity := by
  obtain ⟨ts, e, hderives, -, hrange, hconstants, -⟩ := exists_literals_of_compile h
  refine toBits_lt_of_mem_literals hderives hrange ?_
  rw [← hconstants]
  exact hy.val

/-- A compiled chunk comes back unchanged. -/
lemma carried_of_compile (h : s.compile = .ok c) : c.carried = c := by
  refine c.carried_eq_self_iff.mpr fun x hx hbits => ?_
  have hlt := toBits_lt_of_compile h hx
  rw [hbits] at hlt
  exact absurd hlt (by decide)

/-- The empty source does not compile. -/
lemma bytes_ne_nil_of_compile (h : s.compile = .ok c) : s.bytes ≠ [] := by
  intro hnil
  obtain rfl : s = ⟨[]⟩ := congrArg Source.mk hnil
  have hnone : (Source.mk []).compile.toOption = none := by decide +kernel
  rw [h] at hnone
  cases hnone

end Source

end ExprMachine

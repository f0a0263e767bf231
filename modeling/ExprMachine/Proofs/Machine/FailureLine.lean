import ExprMachine.Proofs.Machine.StaticWalk

/-!
The line that a failed run names.

A failure is reported on the line of the byte that was fetched last. That is the
byte of the instruction itself, unless the instruction has an operand and had
already fetched it: an operand that names no constant is reported on its own
line.

* `Machine.step_fail_cases`: what a failing instruction can name.
* `Machine.ip_of_next`: an instruction that goes on leads to where the listing
  goes on.
* `Chunk.listingFrom_suffix_of_steps`: a run stays on the instructions that the
  listing shows.
* `Machine.exists_fail_of_runFrom`: a failed run has come to an instruction that
  fails.
* `Chunk.line_of_evaluate`: the line that a failed evaluation names.
-/

namespace ExprMachine

/-! ### One instruction -/

namespace Machine

open Chunk

variable {c : Chunk} {s t : State} {e : Error} {left : List Value}

/-- A step fails behind the code, or at an operand that names no constant and on
the line of that operand, or for another reason and on the line of the
instruction. -/
lemma step_fail_cases (h : step c s = .fail e left) :
    (e.cause = .noReturn ∧ c.code[s.ip]? = none) ∨
    ∃ b, c.code[s.ip]? = some b ∧
      ((∃ index, e.cause = .badConstant index ∧ c.code[s.ip + 1]? = some index ∧
          e.line = c.lineAt ((s.ip + 1 : ℕ) : ℤ)) ∨
        ((∀ index, e.cause ≠ .badConstant index) ∧ e.line = c.lineAt s.ip)) := by
  unfold step at h
  cases hb : c.code[s.ip]? with
  | none =>
      simp only [hb, Step.fail.injEq] at h
      exact .inl ⟨by rw [← h.1], rfl⟩
  | some b =>
      refine .inr ⟨b, rfl, ?_⟩
      simp only [hb] at h
      -- every reason but one is found before a second byte is fetched
      split at h
      · obtain ⟨rfl, -⟩ := Step.fail.inj h
        exact .inr ⟨by simp, rfl⟩
      · split at h <;> cases h
      · split at h
        · obtain ⟨rfl, -⟩ := Step.fail.inj h
          exact .inr ⟨by simp, rfl⟩
        · rename_i index hindex
          split at h
          · obtain ⟨rfl, -⟩ := Step.fail.inj h
            exact .inl ⟨index, rfl, hindex, by simp⟩
          · cases h
      · split at h
        · obtain ⟨rfl, -⟩ := Step.fail.inj h
          exact .inr ⟨by simp, rfl⟩
        · split at h
          · cases h
          · obtain ⟨rfl, -⟩ := Step.fail.inj h
            exact .inr ⟨by simp, rfl⟩
      · split at h
        · split at h
          · cases h
          · obtain ⟨rfl, -⟩ := Step.fail.inj h
            exact .inr ⟨by simp, rfl⟩
        · obtain ⟨rfl, -⟩ := Step.fail.inj h
          exact .inr ⟨by simp, rfl⟩

/-- An instruction that goes on leads to the instruction that the listing shows
behind it. -/
lemma ip_of_next (h : step c s = .next t) : t.ip = s.ip + (c.decode s.ip).size := by
  have hlt := (step_ip_lt h).1
  have hb := Array.getElem?_eq_getElem hlt
  rw [decode_size hb, decode_operand? hb]
  unfold step at h
  simp only [Array.getElem?_eq_getElem hlt] at h
  split at h
  · cases h
  · split at h <;> cases h
  · rename_i hop
    split at h
    · cases h
    · rename_i index hindex
      split at h
      · cases h
      · obtain rfl := Step.next.inj h
        simp [hop, hindex]
  · rename_i op hop
    split at h
    · cases h
    · split at h
      · obtain rfl := Step.next.inj h
        simp [hop]
      · cases h
  · rename_i op hop
    split at h
    · split at h
      · obtain rfl := Step.next.inj h
        simp [hop]
      · cases h
    · cases h

/-! ### Whole runs -/

/-- A run that fails has come to an instruction that fails. -/
lemma exists_fail_of_runFrom (h : (runFrom c s).result = .error e) :
    ∃ t left, Steps c s t ∧ step c t = .fail e left := by
  induction s using runFrom.induct c with
  | case1 s t hnext ih =>
      rw [(runFrom_of_next hnext).1] at h
      obtain ⟨u, left, hsteps, hfail⟩ := ih h
      exact ⟨u, left, .head hnext hsteps, hfail⟩
  | case2 s v stack hhalt =>
      rw [(runFrom_of_halt hhalt).1] at h
      cases h
  | case3 s e' stack hfail =>
      rw [runFrom_of_fail hfail] at h
      obtain rfl := Except.error.inj h
      exact ⟨s, stack, .refl, hfail⟩

end Machine

namespace Chunk

open Machine

variable {c : Chunk} {s t : State}

/-- A run stays on the instructions that the listing shows: what is listed from
where it has come to is the end of what is listed from where it began. -/
lemma listingFrom_suffix_of_steps (h : Steps c s t) :
    c.listingFrom t.ip <:+ c.listingFrom s.ip := by
  induction h with
  | refl => exact List.suffix_refl _
  | @tail u t _ hnext ih =>
      refine List.IsSuffix.trans ?_ ih
      rw [listingFrom_of_lt (step_ip_lt hnext).1, ip_of_next hnext]
      exact List.suffix_cons _ _

/-- **The line of a failure**: an evaluation that fails at an instruction, for any
reason but that the code has come to its end, fails at an instruction of the
listing. It names the line that the listing shows for the instruction, except that
an operand that names no constant is reported on the line of the operand. So the
two lines agree exactly if that operand, if there is one, has the line of its
instruction. -/
theorem line_of_evaluate {c : Chunk} (hlines : c.code.size = c.lines.size)
    (before : List Value) (o : Observer) {e : Machine.Error}
    (he : ((⟨some c, before⟩ : Machine).evaluate o).1.result = .error e)
    (hcause : e.cause.sentinel ∈
      [Sentinel.unknownOpcode, .badOperand, .stackUnderflow, .typeMismatch]) :
    ∃ offset, FailsAt c ⟨0, []⟩ (.error e) e.cause.sentinel offset ∧
      c.decode offset ∈ c.listing ∧ c.lines[offset]? = some (c.decode offset).line ∧
      (e.line = (c.decode offset).line ↔
        ∀ index, e.cause = .badConstant index → c.lines[offset + 1]? = c.lines[offset]?) ∧
      ∀ index, e.cause = .badConstant index → c.lines[offset + 1]? = some e.line := by
  have hrun : (run (some c) before).result = .error e := he
  have hcode : c.code.size ≠ 0 := by
    intro hzero
    rw [run, if_pos hzero] at hrun
    obtain rfl := Except.error.inj hrun
    simp [Cause.sentinel] at hcause
  rw [run, if_neg hcode] at hrun
  obtain ⟨t, left, hsteps, hfail⟩ := exists_fail_of_runFrom hrun
  obtain ⟨hend, -⟩ | ⟨b, hb, hline⟩ := step_fail_cases hfail
  · simp [hend, Cause.sentinel] at hcause
  have hlt := (Array.getElem?_eq_some_iff.mp hb).1
  have hshown : c.lines[t.ip]? = some (c.decode t.ip).line := by
    rw [decode_line hb, lines_eq_lineAt (hlines ▸ hlt)]
  have hmem : c.decode t.ip ∈ c.listing := by
    refine (listingFrom_suffix_of_steps hsteps).subset ?_
    rw [listingFrom_of_lt hlt]
    exact List.mem_cons_self
  refine ⟨t.ip, ⟨t, e, left, hsteps, rfl, hfail, rfl, rfl⟩, hmem, hshown, ?_⟩
  obtain ⟨index, hbad, hindex, hline⟩ | ⟨hother, hline⟩ := hline
  · have hoperand : c.lines[t.ip + 1]? = some e.line := by
      rw [hline, lines_eq_lineAt (hlines ▸ (Array.getElem?_eq_some_iff.mp hindex).1)]
    refine ⟨?_, fun _ _ => hoperand⟩
    rw [hoperand, hshown, Option.some_inj]
    exact ⟨fun h _ _ => h, fun h => h index hbad⟩
  · refine ⟨?_, fun index hbad => absurd hbad (hother index)⟩
    rw [hline, decode_line hb]
    exact ⟨fun _ index hbad => absurd hbad (hother index), fun _ => rfl⟩

/-- An operand on the second line that names no constant: the failure is reported
there, while the listing shows the instruction on the first line. -/
theorem line_of_evaluate_operand :
    ∃ c : Chunk, c = ⟨#[1, 5], #[1, 2], #[]⟩ ∧ c.code.size = c.lines.size ∧
      c.validate = .ok () ∧ c.evaluate = .error ⟨.badConstant 5, 2⟩ ∧
      ∃ offset, FailsAt c ⟨0, []⟩ (.error ⟨.badConstant 5, 2⟩) .badOperand offset ∧
        c.decode offset ∈ c.listing ∧ (c.decode offset).line ≠ 2 := by
  refine ⟨_, rfl, rfl, rfl, by decide +kernel, ?_⟩
  obtain ⟨offset, hfails, hmem, hshown, hiff, hoperand⟩ :=
    line_of_evaluate (c := ⟨#[1, 5], #[1, 2], #[]⟩) rfl [] ⟨true, .off⟩
      (e := ⟨.badConstant 5, 2⟩) (by decide +kernel) (by decide)
  refine ⟨offset, hfails, hmem, fun hsame => ?_⟩
  -- no two lines of the chunk that follow each other are the same
  have hsecond := hoperand 5 rfl
  rw [hsame] at hshown
  have hlt := (Array.getElem?_eq_some_iff.mp hsecond).1
  obtain rfl : offset = 0 := by
    simp only [List.size_toArray, List.length_cons, List.length_nil] at hlt
    omega
  exact absurd hshown (by decide)

end Chunk

end ExprMachine

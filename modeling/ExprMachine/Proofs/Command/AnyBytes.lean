import ExprMachine.Proofs.Command.CompileRun
import ExprMachine.Proofs.Machine.FailureLine
import ExprMachine.Proofs.Wire.Accepted

/-!
Running a file that may hold any bytes.

A file of compiled code need not have been written by a compiler. Its bytes are taken
for a chunk or refused; a chunk may be empty, or its code may be malformed, and each of
these ends a command in a way of its own.

* `Chunk.kind_eq_interpret_iff`: of all runs that fail, those of empty chunks say that
  there is nothing to run.
* `Command.run_of_ofBytes`: what a command does with a file of compiled code.
* `Command.run_bytes`: **how a command ends that runs a file**, whatever is in it.
-/

namespace ExprMachine

/-- No instruction fails for want of anything to run. -/
lemma Machine.kind_ne_interpret_of_fail {c : Chunk} {s : State} {e : Error} {left : List Value}
    (h : step c s = .fail e left) : e.kind ≠ .interpret := by
  unfold step at h
  split at h
  · obtain ⟨rfl, -⟩ := Step.fail.inj h
    simp [Error.kind, Cause.kind]
  · dsimp only at h
    repeat' split at h
    all_goals
      cases h
      try simp [Error.kind, Cause.kind]

/-- A chunk without code has no value. -/
lemma Chunk.evaluate_of_size_eq_zero {c : Chunk} (h : c.code.size = 0) :
    c.evaluate = .error ⟨.emptyChunk, 0⟩ := by
  rw [Chunk.evaluate, Machine.run, if_pos h]

/-- A run fails for want of anything to run exactly if there is no code. -/
lemma Chunk.kind_eq_interpret_iff {c : Chunk} {e : Machine.Error} (h : c.evaluate = .error e) :
    e.kind = .interpret ↔ c.code.size = 0 := by
  by_cases hsize : c.code.size = 0
  · rw [evaluate_of_size_eq_zero hsize] at h
    obtain rfl := Except.error.inj h
    exact iff_of_true rfl hsize
  · rw [Chunk.evaluate, Machine.run, if_neg hsize] at h
    obtain ⟨t, left, -, hfail⟩ := Machine.exists_fail_of_runFrom h
    exact iff_of_false (Machine.kind_ne_interpret_of_fail hfail) hsize

namespace Command

variable {w : World} {path : String} {bytes : List UInt8}

/-- The bytes of a file of compiled code are refused, or their chunk is shown. -/
lemma run_of_ofBytes (hargs : Options.default.parse w.args = .ok (.default, [path]))
    (hcompiled : isCompiled path = true) (hfinds : w.Finds path bytes) :
    run w =
      match Chunk.ofBytes bytes with
      | .error e => .plain w.files unlogged .badData "" (e.message ++ "\n")
      | .ok c =>
          { shown w false false c with exit := ending c, log := Log.visible 0 (blame c) } := by
  have hload := load_compiled false false hcompiled hfinds.content
  cases hbytes : Chunk.ofBytes bytes with
  | ok c =>
      rw [hbytes] at hload
      exact run_eq_of_load (n := 0) hargs hfinds.settings_eq hload
  | error e =>
      rw [hbytes] at hload
      have hrun : (Setup.watching w false false "").runFile (watchingSession false false)
          w.files path = .plain w.files unlogged .badData "" (e.message ++ "\n") := by
        simp only [Setup.runFile, hload]
        rfl
      exact run_of_work hargs hfinds.settings_eq [] ((work_watching "").trans hrun) rfl

/-- The exit code tells a chunk that has a value, one that is empty, and one whose run
fails. -/
lemma code_ending (c : Chunk) :
    (ending c).code =
      match c.evaluate with
      | .ok _ => 0
      | .error _ => if c.code.size = 0 then 65 else 70 := by
  rw [ending]
  cases he : c.evaluate with
  | ok v => rfl
  | error e =>
      simp only [Failure.exit, Chunk.kind_eq_interpret_iff he]
      split_ifs <;> rfl

/-- Without a listing and a trace, a value is all that is shown. -/
lemma out_shown (c : Chunk) :
    (shown w false false c).out =
      match c.evaluate with
      | .ok v => v.text ++ "\n" ++ ("Result: " ++ v.text ++ "\n")
      | .error _ => "" := by
  rw [shown]
  cases c.evaluate <;> simp [Outcome.plain]

/-- **How a command ends that runs a file of compiled code**, whatever is in it. Bytes
that are refused and chunks without code are bad data, and nothing is printed. Any other
chunk is well formed, and its constants are nil, numbers and booleans, as the bytes list
them; the command fails exactly if its run fails, and then prints nothing, and otherwise
prints the value and the line of the result. The files are left alone. -/
theorem run_bytes (hargs : Options.default.parse w.args = .ok (.default, [path]))
    (hcompiled : isCompiled path = true) (hfinds : w.Finds path bytes) :
    (∀ e, Chunk.ofBytes bytes = .error e → (run w).exit.code = 65 ∧ (run w).out = "") ∧
    (∀ c, Chunk.ofBytes bytes = .ok c → c.code.size = 0 →
      (run w).exit.code = 65 ∧ (run w).out = "") ∧
    (∀ c, Chunk.ofBytes bytes = .ok c → c.code.size ≠ 0 →
      c.validate = .ok () ∧
      (∃ parts, Wire.decode bytes = .ok parts ∧
        List.Forall₂ Wire.Constant.StandsFor parts.constants.toList c.constants.toList) ∧
      (∀ e, c.evaluate = .error e → (run w).exit.code = 70 ∧ (run w).out = "") ∧
      (∀ v, c.evaluate = .ok v → (run w).exit.code = 0 ∧
        (run w).out = v.text ++ "\n" ++ ("Result: " ++ v.text ++ "\n"))) ∧
    (run w).files = w.files := by
  have hrun := run_of_ofBytes hargs hcompiled hfinds
  cases hbytes : Chunk.ofBytes bytes with
  | error e =>
      simp only [hbytes] at hrun
      rw [hrun]
      refine ⟨fun _ _ => ⟨rfl, rfl⟩, fun c hc => ?_, fun c hc => ?_, rfl⟩
      · cases hc
      · cases hc
  | ok c =>
      simp only [hbytes] at hrun
      obtain ⟨parts, hdecode, hchunk⟩ := Chunk.ofBytes_eq_ok_iff.mp hbytes
      obtain ⟨-, -, -, hconstants, hvalid⟩ := Wire.toChunk_eq_ok_iff.mp hchunk
      have hcode : (run w).exit.code = (ending c).code := by rw [hrun]
      have hout : (run w).out = (shown w false false c).out := by rw [hrun]
      have hfiles : (run w).files = w.files := by
        obtain ⟨exit, out, err, hshown⟩ := exists_shown_eq w false false c
        simp only [hrun, hshown, Outcome.plain]
      rw [hcode, hout, code_ending, out_shown]
      refine ⟨fun e he => ?_, fun d hd hsize => ?_, fun d hd hsize => ?_, hfiles⟩
      · cases he
      · obtain rfl := Except.ok.inj hd
        simp [Chunk.evaluate_of_size_eq_zero hsize, hsize]
      · obtain rfl := Except.ok.inj hd
        refine ⟨hvalid, ⟨parts, hdecode, hconstants⟩, fun e he => ?_, fun v hv => ?_⟩
        · simp [he, hsize]
        · simp [hv]

/-- A file that only says to negate, where there is nothing to be negated. -/
theorem run_bytes_underflow :
    let bytes : List UInt8 := [0xA2, 0x03, 0x41, 0x02, 0x04, 0x81, 0x07]
    let w : World := ⟨["odd.gloxc"], ⟨[(["odd.gloxc"], .file bytes)]⟩, [], none, [], 0⟩
    (run w).exit.code = 70 ∧ (run w).out = "" ∧ (run w).files = w.files := by
  intro bytes w
  have hfinds : w.Finds "odd.gloxc" bytes := ⟨by decide, by decide⟩
  have hbytes : Chunk.ofBytes bytes = .ok ⟨#[2], #[7], #[]⟩ := by decide +kernel
  have hfails : (Chunk.mk #[2] #[7] #[]).evaluate = .error ⟨.stackUnderflow, 7⟩ := by
    decide +kernel
  obtain ⟨-, -, hshown, hfiles⟩ := run_bytes (by decide) (by decide) hfinds
  obtain ⟨-, -, hfailed, -⟩ := hshown _ hbytes (by decide)
  obtain ⟨hcode, hout⟩ := hfailed _ hfails
  exact ⟨hcode, hout, hfiles⟩

end Command

end ExprMachine

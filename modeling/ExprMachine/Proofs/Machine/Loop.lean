import ExprMachine.Proofs.Machine.Observation

/-!
A machine that writes while it runs.

What an observer sees of an evaluation was told from the finished run. Here a machine keeps the
offset of its next byte, its stack and all that has been written, while it runs and from one
run to the next. Each pass of its loop shows the next instruction before it is fetched, and a
run begins by going back to the start of the code with an empty stack.

* `Machine.Observer.out`, `Machine.Observer.apart`: what of a trace and of a printed value goes
  where.
* `Machine.Registers`, `Machine.Registers.pass`, `Machine.Registers.loop`,
  `Machine.Registers.evaluate`: such a machine, one pass of its loop, a run and an evaluation.
* `Machine.Registers.loop_agrees`: a run comes to what the finished run says, and has written
  what it shows.
* `Machine.Registers.evaluate_eq`: so does an evaluation, wherever the one before has ended.
* `Machine.Registers.evaluate_watched_eq`: neither what has been evaluated before nor who is
  watching changes a run of the loop.
-/

namespace ExprMachine.Machine

/-! ### What goes where -/

/-- What of a trace and of what is printed goes to the output. -/
def Observer.out (o : Observer) (trace printed : String) : String :=
  if o.prints then (if o.tracing = .withOutput then trace else "") ++ printed else ""

/-- What of a trace goes to a writer of its own. -/
def Observer.apart (o : Observer) (trace : String) : String :=
  if o.tracing = .separate then trace else ""

lemma Observer.out_empty (o : Observer) : o.out "" "" = "" := by
  simp [Observer.out]

lemma Observer.apart_empty (o : Observer) : o.apart "" = "" := by
  simp [Observer.apart]

/-- A trace may be written in two parts, the printed value behind the second. -/
lemma Observer.out_append (o : Observer) (trace more printed : String) :
    o.out (trace ++ more) printed = o.out trace "" ++ o.out more printed := by
  unfold Observer.out
  split_ifs <;> simp [String.append_assoc]

lemma Observer.apart_append (o : Observer) (trace more : String) :
    o.apart (trace ++ more) = o.apart trace ++ o.apart more := by
  unfold Observer.apart
  split_ifs <;> simp

/-! ### The loop -/

/-- What a machine keeps, while it runs and from one run to the next. -/
structure Registers where
  /-- The offset of the next byte to fetch. -/
  ip : Nat
  /-- The values on the stack, the top first. -/
  stack : List Value
  /-- What has been printed. -/
  out : String
  /-- What has been traced apart from it. -/
  trace : String

namespace Registers

/-- Shows the stack and the next instruction. -/
def announce (c : Chunk) (o : Observer) (r : Registers) : Registers :=
  let block := (⟨r.ip, r.stack⟩ : Frame).text c
  { r with out := r.out ++ o.out block "", trace := r.trace ++ o.apart block }

/-- One pass of the loop: what the run comes to, if it ends here. The bytes of an instruction
are behind the machine as soon as they are fetched, whatever the instruction leads to. -/
def pass (c : Chunk) (o : Observer) (r : Registers) : Option (Except Error Value) × Registers :=
  if c.code.size ≤ r.ip then
    (some (.error ⟨.noReturn, c.lineAt ((c.code.size : Int) - 1)⟩), r)
  else
    let r := r.announce c o
    let ip := r.ip + (c.decode r.ip).size
    match step c ⟨r.ip, r.stack⟩ with
    | .next t => (none, { r with ip, stack := t.stack })
    | .halt v stack =>
        (some (.ok v), { r with ip, stack, out := r.out ++ o.out "" (v.text ++ "\n") })
    | .fail e stack => (some (.error e), { r with ip, stack })

variable {c : Chunk} {o : Observer} {r u : Registers}

/-- A pass behind which the run goes on has executed an instruction. -/
lemma exists_next_of_pass (h : r.pass c o = (none, u)) :
    ∃ t, step c ⟨r.ip, r.stack⟩ = .next t ∧
      u = { r.announce c o with ip := t.ip, stack := t.stack } := by
  unfold pass at h
  split_ifs at h with hend
  · cases h
  · dsimp only [announce] at h
    split at h
    · rename_i t ht
      obtain rfl := (Prod.ext_iff.mp h).2
      refine ⟨t, ht, ?_⟩
      rw [ip_of_next ht]
      rfl
    · cases h
    · cases h

lemma ip_lt_of_pass (h : r.pass c o = (none, u)) : r.ip < c.code.size ∧ r.ip < u.ip := by
  obtain ⟨t, ht, rfl⟩ := exists_next_of_pass h
  exact step_ip_lt ht

/-- Passes until the run ends. -/
def loop (c : Chunk) (o : Observer) (r : Registers) : Except Error Value × Registers :=
  match _h : r.pass c o with
  | (none, u) => u.loop c o
  | (some result, u) => (result, u)
termination_by c.code.size - r.ip
decreasing_by have := ip_lt_of_pass _h; omega

/-- An evaluation: a run from the start of the code with an empty stack, if there is code. -/
def evaluate (chunk? : Option Chunk) (o : Observer) (r : Registers) :
    Except Error Value × Registers :=
  match chunk? with
  | none => (.error ⟨.emptyChunk, 0⟩, r)
  | some c =>
      if c.code.size = 0 then (.error ⟨.emptyChunk, 0⟩, r)
      else { r with ip := 0, stack := [] }.loop c o

/-! ### What the loop comes to -/

/-- What a machine comes to from `r` agrees with a finished run: it has the same result, has left
the same stack, and what an observer sees of the run is written behind what `r` holds. -/
structure Agrees (chunk? : Option Chunk) (o : Observer) (r : Registers) (run : Run)
    (e : Except Error Value × Registers) : Prop where
  result : e.1 = run.result
  stack : e.2.stack = run.stack
  out : e.2.out = r.out ++ o.out (run.trace chunk?) run.printed
  trace : e.2.trace = r.trace ++ o.apart (run.trace chunk?)

/-- A pass that ends the run shows the last instruction, if there is one. -/
lemma agrees_of_pass {result : Except Error Value} (h : r.pass c o = (some result, u)) :
    Agrees (some c) o r (runFrom c ⟨r.ip, r.stack⟩) (result, u) := by
  unfold pass at h
  split_ifs at h with hend
  · have hfail : step c ⟨r.ip, r.stack⟩ =
        .fail ⟨.noReturn, c.lineAt ((c.code.size : Int) - 1)⟩ r.stack := by
      simp [step, Array.getElem?_eq_none hend]
    cases h
    rw [runFrom_eq_of_fail hfail, if_neg (not_lt.mpr hend)]
    exact ⟨rfl, rfl, by simp [Run.trace, Run.printed, Observer.out_empty],
      by simp [Run.trace, Observer.apart_empty]⟩
  · have hlt : r.ip < c.code.size := not_le.mp hend
    have hlast (result : Except Error Value) (stack : List Value) :
        (⟨result, stack, [⟨r.ip, r.stack⟩]⟩ : Run).trace (some c) =
          (⟨r.ip, r.stack⟩ : Frame).text c := by
      simp [Run.trace, String.join_cons]
    dsimp only [announce] at h
    split at h
    · cases h
    · rename_i v stack hhalt
      cases h
      rw [runFrom_eq_of_halt hhalt, if_pos hlt]
      refine ⟨rfl, rfl, ?_, by rw [hlast]⟩
      have hpart := o.out_append ((⟨r.ip, r.stack⟩ : Frame).text c) "" (v.text ++ "\n")
      rw [String.append_empty] at hpart
      rw [hlast, Run.printed, hpart, String.append_assoc]
    · rename_i e stack hfail
      cases h
      rw [runFrom_eq_of_fail hfail, if_pos hlt]
      exact ⟨rfl, rfl, by rw [hlast]; rfl, by rw [hlast]⟩

/-- **A run has written what the finished run shows.** -/
lemma loop_agrees (c : Chunk) (o : Observer) (r : Registers) :
    Agrees (some c) o r (runFrom c ⟨r.ip, r.stack⟩) (r.loop c o) := by
  fun_induction loop c o r with
  | case1 r u h ih =>
      obtain ⟨t, ht, rfl⟩ := exists_next_of_pass h
      have hrun := runFrom_of_next ht
      have htrace : (runFrom c ⟨r.ip, r.stack⟩).trace (some c) =
          (⟨r.ip, r.stack⟩ : Frame).text c ++ (runFrom c t).trace (some c) := by
        simp only [Run.trace, frames_of_next ht, List.map_cons, String.join_cons]
      have hprinted : (runFrom c ⟨r.ip, r.stack⟩).printed = (runFrom c t).printed := by
        rw [Run.printed, hrun.1, Run.printed]
      refine ⟨ih.result.trans hrun.1.symm, ih.stack.trans hrun.2.symm, ih.out.trans ?_,
        ih.trace.trans ?_⟩
      · rw [htrace, hprinted, Observer.out_append, ← String.append_assoc]
        rfl
      · rw [htrace, Observer.apart_append, ← String.append_assoc]
        rfl
  | case2 r result u h => exact agrees_of_pass h

/-! ### Evaluations -/

/-- The start of a run forgets where the one before has ended, and its stack. -/
lemma evaluate_agrees {m : Machine} (h : r.stack = m.stack) (o : Observer) :
    Agrees m.chunk? o r (run m.chunk? m.stack) (r.evaluate m.chunk? o) := by
  obtain ⟨chunk?, stack⟩ := m
  have hnone : Agrees chunk? o r ⟨.error ⟨.emptyChunk, 0⟩, stack, []⟩
      (.error ⟨.emptyChunk, 0⟩, r) := by
    have htrace : (⟨.error ⟨.emptyChunk, 0⟩, stack, []⟩ : Run).trace chunk? = "" := by
      cases chunk? <;> rfl
    refine ⟨rfl, h, ?_, ?_⟩ <;> rw [htrace]
    · rw [Run.printed, o.out_empty, String.append_empty]
    · rw [o.apart_empty, String.append_empty]
  cases chunk? with
  | none => exact hnone
  | some c =>
      simp only [evaluate, run]
      split_ifs with hcode
      · exact hnone
      · obtain ⟨hresult, hstack, hout, htrace⟩ := loop_agrees c o { r with ip := 0, stack := [] }
        exact ⟨hresult, hstack, hout, htrace⟩

/-- **An evaluation is a run of the loop.** A machine whose loop writes while it runs, and which
has the same stack, wherever its last run has ended, comes to the same result and stack, and
what an observer sees is what it has written. -/
theorem evaluate_eq {m : Machine} (h : r.stack = m.stack) (o : Observer) :
    (r.evaluate m.chunk? o).1 = (m.evaluate o).1.result ∧
      (r.evaluate m.chunk? o).2.stack = (m.evaluate o).2.stack ∧
      (r.evaluate m.chunk? o).2.out = r.out ++ (m.evaluate o).1.out ∧
      (r.evaluate m.chunk? o).2.trace = r.trace ++ (m.evaluate o).1.trace := by
  obtain ⟨hresult, hstack, hout, htrace⟩ := evaluate_agrees h o
  exact ⟨hresult, hstack, hout, htrace⟩

/-- A machine after some evaluations before observers, one after the other. -/
def watched (chunk? : Option Chunk) (observers : List Observer) (r : Registers) : Registers :=
  observers.foldl (fun r o => (r.evaluate chunk? o).2) r

/-- Any number of evaluations leaves the same stack as that many runs of the loop. -/
lemma stack_watched (observers : List Observer) {m : Machine} (h : r.stack = m.stack) :
    (watched m.chunk? observers r).stack =
        (observers.foldl (fun m o => (m.evaluate o).2) m).stack ∧
      (observers.foldl (fun m o => (m.evaluate o).2) m).chunk? = m.chunk? := by
  induction observers generalizing r m with
  | nil => exact ⟨h, rfl⟩
  | cons o observers ih => exact ih (m := (m.evaluate o).2) (evaluate_eq h o).2.1

/-- **Neither the past nor an observer changes a run of the loop**: wherever two machines for a
chunk stand, if one has been watched by anyone any number of times and the other has not run
yet, they come to the same result and leave the same stack. -/
theorem evaluate_watched_eq (chunk? : Option Chunk) (observers : List Observer)
    (o o' : Observer) (ip ip' : ℕ) :
    ((watched chunk? observers ⟨ip, [], "", ""⟩).evaluate chunk? o).1 =
        (evaluate chunk? o' ⟨ip', [], "", ""⟩).1 ∧
      ((watched chunk? observers ⟨ip, [], "", ""⟩).evaluate chunk? o).2.stack =
        (evaluate chunk? o' ⟨ip', [], "", ""⟩).2.stack := by
  have hunspoiled := unspoiled_watched chunk? observers
  have hpast : (watched chunk? observers ⟨ip, [], "", ""⟩).stack =
      (Machine.watched chunk? observers).stack :=
    (stack_watched (m := .new chunk?) observers rfl).1
  have hlater := evaluate_agrees hpast o
  have hfirst : Agrees chunk? o' ⟨ip', [], "", ""⟩ (run chunk? [])
      (evaluate chunk? o' ⟨ip', [], "", ""⟩) := evaluate_agrees (m := .new chunk?) rfl o'
  rw [hunspoiled.run_eq, hunspoiled.chunk_eq] at hlater
  exact ⟨hlater.result.trans hfirst.result.symm, hlater.stack.trans hfirst.stack.symm⟩

end Registers

end ExprMachine.Machine

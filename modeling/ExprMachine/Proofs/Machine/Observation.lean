import ExprMachine.Proofs.Command.Output
import ExprMachine.Proofs.Machine.FailureLine

/-!
What can be seen of a run, and what cannot change it.

* `Machine.stateAfter`: the state behind the first instructions of a run.
* `Machine.getElem?_frames`: the instructions that a run fetches are those at which its
  states stand, as long as they stand in the code.
* `Machine.getElem?_listingFrom`: they are the first ones of the listing, in its order.
* `Chunk.trace_of_evaluate`: a trace shows each instruction that is fetched, and the stack
  that it finds.
* `Machine.Unspoiled`: a machine that runs its chunk as a new one does. An evaluation
  leaves such a machine behind (`Machine.Unspoiled.evaluate`), so any number of them does
  (`Machine.unspoiled_watched`).
* `Machine.evaluate_watched`: neither what has been evaluated before nor who is watching
  changes an evaluation.
-/

namespace ExprMachine

namespace Machine

variable {c : Chunk} {s t : State} {n : ℕ}

/-- The state behind the first `n` instructions of a run that begins at `s`, if the run
goes on for so long. -/
def stateAfter (c : Chunk) : State → ℕ → Option State
  | s, 0 => some s
  | s, n + 1 =>
      match step c s with
      | .next t => stateAfter c t n
      | _ => none

/-! ### The instructions that are fetched -/

/-- An instruction that goes on has been fetched, and then those behind it. -/
lemma frames_of_next (h : step c s = .next t) :
    (runFrom c s).frames = ⟨s.ip, s.stack⟩ :: (runFrom c t).frames := by
  have hlt := (step_ip_lt h).1
  rw [runFrom]
  split
  · rename_i u hu
    obtain rfl := Step.next.inj (h.symm.trans hu)
    simp [hlt]
  · rename_i v stack hhalt
    rw [h] at hhalt
    cases hhalt
  · rename_i e stack hfail
    rw [h] at hfail
    cases hfail

/-- An instruction that does not go on is the last one, if there is one at all. -/
lemma frames_of_not_next (h : ∀ t, step c s ≠ .next t) :
    (runFrom c s).frames = if s.ip < c.code.size then [⟨s.ip, s.stack⟩] else [] := by
  rw [runFrom]
  split
  · rename_i t ht
    exact absurd ht (h t)
  · rfl
  · rfl

lemma stateAfter_of_next (h : step c s = .next t) :
    stateAfter c s (n + 1) = stateAfter c t n := by
  rw [stateAfter, h]

lemma stateAfter_of_not_next (h : ∀ t, step c s ≠ .next t) : stateAfter c s (n + 1) = none := by
  rw [stateAfter]
  split
  · rename_i t ht
    exact absurd ht (h t)
  · rfl

/-- The instructions that a run fetches are those at which its states stand. -/
lemma getElem?_frames {f : Frame} :
    (runFrom c s).frames[n]? = some f ↔
      ∃ t, stateAfter c s n = some t ∧ t.ip < c.code.size ∧ f = ⟨t.ip, t.stack⟩ := by
  induction n generalizing s with
  | zero =>
      by_cases hnext : ∃ t, step c s = .next t
      · obtain ⟨t, ht⟩ := hnext
        simp [frames_of_next ht, stateAfter, (step_ip_lt ht).1, eq_comm]
      · rw [frames_of_not_next (not_exists.mp hnext)]
        by_cases hlt : s.ip < c.code.size <;> simp [stateAfter, hlt, eq_comm]
  | succ n ih =>
      by_cases hnext : ∃ t, step c s = .next t
      · obtain ⟨t, ht⟩ := hnext
        rw [frames_of_next ht, List.getElem?_cons_succ, ih, stateAfter_of_next ht]
      · rw [frames_of_not_next (not_exists.mp hnext),
          stateAfter_of_not_next (not_exists.mp hnext)]
        by_cases hlt : s.ip < c.code.size <;> simp [hlt]

/-- They are the first instructions of the listing. -/
lemma getElem?_listingFrom (h : stateAfter c s n = some t) (hlt : t.ip < c.code.size) :
    (c.listingFrom s.ip)[n]? = some (c.decode t.ip) := by
  induction n generalizing s with
  | zero =>
      obtain rfl : s = t := Option.some.inj h
      rw [Chunk.listingFrom_of_lt hlt, List.getElem?_cons_zero]
  | succ n ih =>
      by_cases hnext : ∃ u, step c s = .next u
      · obtain ⟨u, hu⟩ := hnext
        rw [stateAfter_of_next hu] at h
        rw [Chunk.listingFrom_of_lt (step_ip_lt hu).1, List.getElem?_cons_succ, ← ip_of_next hu]
        exact ih h
      · rw [stateAfter_of_not_next (not_exists.mp hnext)] at h
        cases h

end Machine

open Machine

/-- **A trace shows the run**: if there is code, the trace apart from the output is two
lines for each instruction that is fetched, in their order, and there are as many of
these as there are states of the run that stand in the code. The `n`-th instruction is the
`n`-th of the listing, which begins where the run stands; the first line shows the stack
that it finds, which is the one behind the instructions before it, and the second line is
the instruction as the listing shows it. -/
theorem Chunk.trace_of_evaluate (c : Chunk) (hcode : c.code.size ≠ 0) (before : List Value)
    (prints : Bool) :
    ∃ blocks : List (String × String),
      ((⟨some c, before⟩ : Machine).evaluate ⟨prints, .separate⟩).1.trace =
        String.join (blocks.map fun b => b.1 ++ "\n" ++ b.2 ++ "\n") ∧
      (∀ n, n < blocks.length ↔ ∃ s, stateAfter c ⟨0, []⟩ n = some s ∧ s.ip < c.code.size) ∧
      ∀ n b, blocks[n]? = some b → OneLine b.1 ∧ OneLine b.2 ∧
        ∃ s i, stateAfter c ⟨0, []⟩ n = some s ∧ c.listing[n]? = some i ∧ i.offset = s.ip ∧
          b.1 = stackText s.stack ∧ b.2 = i.text := by
  have hrun : run (some c) before = runFrom c ⟨0, []⟩ := by rw [run, if_neg hcode]
  refine ⟨(runFrom c ⟨0, []⟩).frames.map fun f => (stackText f.stack, (c.decode f.offset).text),
    ?_, fun n => ?_, fun n b hb => ?_⟩
  · simp only [Machine.evaluate, hrun, if_true, Run.trace, List.map_map, Function.comp_def,
      Frame.text_eq]
  · rw [List.length_map]
    constructor
    · intro hn
      obtain ⟨s, hs, hlt, -⟩ := getElem?_frames.mp (List.getElem?_eq_getElem hn)
      exact ⟨s, hs, hlt⟩
    · rintro ⟨s, hs, hlt⟩
      exact (List.getElem?_eq_some_iff.mp (getElem?_frames.mpr ⟨s, hs, hlt, rfl⟩)).1
  · rw [List.getElem?_map, Option.map_eq_some_iff] at hb
    obtain ⟨f, hf, rfl⟩ := hb
    obtain ⟨s, hs, hlt, rfl⟩ := getElem?_frames.mp hf
    exact ⟨oneLine_stackText _, c.oneLine_text_decode _, s, c.decode s.ip, hs,
      getElem?_listingFrom hs hlt, c.decode_offset _, rfl, rfl⟩

/-- Code that ends in the middle of its third instruction: the instruction is shown all the
same, with the stack that the first two have left, and it is the last one. -/
theorem Chunk.trace_of_evaluate_cut :
    ∃ blocks : List (String × String),
      ((⟨some ⟨#[1, 0, 13, 1], #[1, 1, 1, 2], #[.boolean true]⟩, [.nil]⟩ : Machine).evaluate
        ⟨true, .separate⟩).1.trace =
          String.join (blocks.map fun b => b.1 ++ "\n" ++ b.2 ++ "\n") ∧
      ¬ 3 < blocks.length ∧ ∃ b, blocks[2]? = some b ∧ b.1 = "          [ false ]" := by
  obtain ⟨blocks, htrace, hcount, hblocks⟩ := Chunk.trace_of_evaluate
    ⟨#[1, 0, 13, 1], #[1, 1, 1, 2], #[.boolean true]⟩ (by decide) [.nil] true
  have hthird : stateAfter ⟨#[1, 0, 13, 1], #[1, 1, 1, 2], #[.boolean true]⟩ ⟨0, []⟩ 2 =
      some ⟨3, [.boolean false]⟩ := by decide +kernel
  have hfourth : stateAfter ⟨#[1, 0, 13, 1], #[1, 1, 1, 2], #[.boolean true]⟩ ⟨0, []⟩ 3 =
      none := by decide +kernel
  have hlt : 2 < blocks.length := (hcount 2).mpr ⟨_, hthird, by decide⟩
  refine ⟨blocks, htrace, fun hlong => ?_, blocks[2], List.getElem?_eq_getElem hlt, ?_⟩
  · obtain ⟨s, hs, -⟩ := (hcount 3).mp hlong
    rw [hfourth] at hs
    cases hs
  · obtain ⟨-, -, s, i, hs, -, -, hstack, -⟩ := hblocks 2 _ (List.getElem?_eq_getElem hlt)
    obtain rfl : _ = s := Option.some.inj (hthird.symm.trans hs)
    rw [hstack]
    decide +kernel

/-! ### What cannot change a run -/

namespace Machine

/-- A machine for a chunk that runs it as a new one does: if there is no code, a run would
leave the stack as it is, so it has to be empty. -/
structure Unspoiled (chunk? : Option Chunk) (m : Machine) : Prop where
  chunk_eq : m.chunk? = chunk?
  stack_eq : (∀ c, chunk? = some c → c.code.size = 0) → m.stack = []

variable {chunk? : Option Chunk} {m : Machine}

lemma unspoiled_new (chunk? : Option Chunk) : Unspoiled chunk? (.new chunk?) :=
  ⟨rfl, fun _ => rfl⟩

/-- A run begins with an empty stack where there is code, whatever was left before. -/
lemma Unspoiled.run_eq (h : Unspoiled chunk? m) : run m.chunk? m.stack = run chunk? [] := by
  obtain ⟨chunk, stack⟩ := m
  obtain ⟨rfl, hstack⟩ := h
  cases chunk with
  | none => rw [hstack (by simp)]
  | some c =>
      by_cases hcode : c.code.size = 0
      · rw [hstack (by simpa using hcode)]
      · rw [run, run, if_neg hcode, if_neg hcode]

/-- An evaluation does not spoil the machine. -/
lemma Unspoiled.evaluate (h : Unspoiled chunk? m) (o : Observer) :
    Unspoiled chunk? (m.evaluate o).2 := by
  refine ⟨h.chunk_eq, fun hcode => ?_⟩
  show (run m.chunk? m.stack).stack = []
  rw [h.run_eq]
  cases chunk? with
  | none => rfl
  | some c => rw [run, if_pos (hcode c rfl)]

/-- A machine that has evaluated a chunk before some observers, one after the other. -/
def watched (chunk? : Option Chunk) (observers : List Observer) : Machine :=
  observers.foldl (fun m o => (m.evaluate o).2) (.new chunk?)

lemma unspoiled_watched (chunk? : Option Chunk) (observers : List Observer) :
    Unspoiled chunk? (watched chunk? observers) := by
  rw [watched]
  have hnew := unspoiled_new chunk?
  generalize Machine.new chunk? = m at hnew
  induction observers generalizing m with
  | nil => exact hnew
  | cons o observers ih => exact ih _ (hnew.evaluate o)

/-- **Neither the past nor an observer changes an evaluation**: whatever the chunk, if
there is one, and whoever has been watching how many evaluations of it, however they
ended, the next one comes to the same value or failure and leaves the same stack as the
first one of a new machine without a trace. Unless the trace goes to the output too, the
output is the value on a line, or nothing after a failure. -/
theorem evaluate_watched (chunk? : Option Chunk) (observers : List Observer) (o : Observer)
    (prints : Bool) :
    ((watched chunk? observers).evaluate o).1.result =
        ((new chunk?).evaluate ⟨prints, .off⟩).1.result ∧
      ((watched chunk? observers).evaluate o).2.stack =
        ((new chunk?).evaluate ⟨prints, .off⟩).2.stack ∧
      (o.prints = true → o.tracing ≠ .withOutput →
        ((watched chunk? observers).evaluate o).1.out =
          match ((new chunk?).evaluate ⟨prints, .off⟩).1.result with
          | .ok v => v.text ++ "\n"
          | .error _ => "") := by
  have hrun := (unspoiled_watched chunk? observers).run_eq
  have hnew := (unspoiled_new chunk?).run_eq
  refine ⟨?_, ?_, fun hprints htracing => ?_⟩
  · simp only [evaluate, hrun, hnew]
  · simp only [evaluate, hrun, hnew]
  · simp only [evaluate, hrun, hnew, hprints, htracing, if_true, if_false, String.empty_append]
    rfl

/-- An instruction that is unknown, behind a value that stays on the stack: evaluated for
the third time, with other observers before, it leaves the one value and prints nothing. -/
theorem evaluate_watched_unknown :
    ∃ c : Chunk, c = ⟨#[1, 0, 255], #[1, 1, 2], #[.boolean true]⟩ ∧
      ((watched (some c) [⟨true, .withOutput⟩, ⟨false, .separate⟩]).evaluate
        ⟨true, .separate⟩).2.stack = [.boolean true] ∧
      ((watched (some c) [⟨true, .withOutput⟩, ⟨false, .separate⟩]).evaluate
        ⟨true, .separate⟩).1.out = "" := by
  obtain ⟨-, hstack, hout⟩ := evaluate_watched
    (some ⟨#[1, 0, 255], #[1, 1, 2], #[.boolean true]⟩)
    [⟨true, .withOutput⟩, ⟨false, .separate⟩] ⟨true, .separate⟩ true
  have hleft : ((new (some ⟨#[1, 0, 255], #[1, 1, 2], #[.boolean true]⟩)).evaluate
      ⟨true, .off⟩).2.stack = [.boolean true] := by decide +kernel
  have hfails : ((new (some ⟨#[1, 0, 255], #[1, 1, 2], #[.boolean true]⟩)).evaluate
      ⟨true, .off⟩).1.result = .error ⟨.unknownOpcode 255, 2⟩ := by decide +kernel
  refine ⟨_, rfl, hstack.trans hleft, ?_⟩
  rw [hout rfl (by decide), hfails]

end Machine

end ExprMachine

import ExprMachine.Proofs.Expr.Language
import ExprMachine.Proofs.Machine.Steps

/-!
Compiled code does what the expression says.

* `Chunk.Within`: a chunk is the beginning of another one. What is written
  later does not disturb what has been written (`Expr.within_emit`).
* `Yields`: from a state, the code up to an offset pushes a value, or fails on
  the line of the operator that failed.
* `Expr.emit_yields`: the code of an expression, wherever it stands and
  whatever is on the stack below, yields the value of the expression. The
  induction is on the tree, for all code that comes before and after.
* `Source.evaluate_compile`: the run of a source that compiles.
-/

namespace ExprMachine

/-! ### Beginnings of chunks -/

namespace Chunk

/-- An entry of an array stays where it is when one is added at the end. -/
lemma getElem?_push_of_eq_some {α : Type} {xs : Array α} {x y : α} {i : ℕ}
    (h : xs[i]? = some y) : (xs.push x)[i]? = some y := by
  have hi := (Array.getElem?_eq_some_iff.mp h).1
  rw [Array.getElem?_push, if_neg (by omega), h]

/-- `c.Within d`: the code, the lines and the constants of `d` begin with those
of `c`. -/
structure Within (c d : Chunk) : Prop where
  code : ∀ (i : ℕ) b, c.code[i]? = some b → d.code[i]? = some b
  lines : ∀ (i : ℕ) l, c.lines[i]? = some l → d.lines[i]? = some l
  constants : ∀ (i : ℕ) v, c.constants[i]? = some v → d.constants[i]? = some v

lemma Within.refl (c : Chunk) : c.Within c :=
  ⟨fun _ _ h => h, fun _ _ h => h, fun _ _ h => h⟩

lemma Within.trans {c d e : Chunk} (hcd : c.Within d) (hde : d.Within e) : c.Within e :=
  ⟨fun i b h => hde.code i b (hcd.code i b h), fun i l h => hde.lines i l (hcd.lines i l h),
    fun i v h => hde.constants i v (hcd.constants i v h)⟩

namespace Builder

variable (b : Builder) (op : UInt8) (line : Int64) (v : Value)

/-- Every byte of code has a line. -/
def Aligned : Prop :=
  b.chunk.lines.size = b.chunk.code.size

@[simp] lemma code_writeOp : (b.writeOp op line).chunk.code = b.chunk.code.push op := rfl

@[simp] lemma lines_writeOp : (b.writeOp op line).chunk.lines = b.chunk.lines.push line := rfl

@[simp] lemma constants_writeOp : (b.writeOp op line).chunk.constants = b.chunk.constants := rfl

@[simp] lemma code_load : (b.load v line).chunk.code =
    (b.chunk.code.push Opcode.constant.byte).push (UInt8.ofNat b.chunk.constants.size) := rfl

@[simp] lemma lines_load : (b.load v line).chunk.lines =
    (b.chunk.lines.push line).push line := rfl

@[simp] lemma constants_load : (b.load v line).chunk.constants = b.chunk.constants.push v := rfl

lemma within_writeOp : b.chunk.Within (b.writeOp op line).chunk :=
  ⟨fun _ _ h => getElem?_push_of_eq_some h, fun _ _ h => getElem?_push_of_eq_some h,
    fun _ _ h => h⟩

lemma within_load : b.chunk.Within (b.load v line).chunk :=
  ⟨fun _ _ h => getElem?_push_of_eq_some (getElem?_push_of_eq_some h),
    fun _ _ h => getElem?_push_of_eq_some (getElem?_push_of_eq_some h),
    fun _ _ h => getElem?_push_of_eq_some h⟩

variable {b}

lemma Aligned.writeOp (h : b.Aligned) : (b.writeOp op line).Aligned := by
  simpa [Aligned] using h

lemma Aligned.load (h : b.Aligned) : (b.load v line).Aligned := by
  simpa [Aligned] using h

end Builder

end Chunk

namespace Expr

open Chunk Machine

/-- The code of an expression leaves what was written before as it was. -/
lemma within_emit (e : Expr) (b : Builder) : b.chunk.Within (e.emit b).chunk := by
  induction e generalizing b with
  | literal v line => exact b.within_load _ _
  | unary op line a ih => exact (ih b).trans (Builder.within_writeOp _ _ _)
  | binary op line l r ihl ihr =>
      exact (ihl b).trans ((ihr _).trans (Builder.within_writeOp _ _ _))

lemma aligned_emit (e : Expr) {b : Builder} (h : b.Aligned) : (e.emit b).Aligned := by
  induction e generalizing b with
  | literal v line => exact h.load _ _
  | unary op line a ih => exact (ih h).writeOp _ _
  | binary op line l r ihl ihr => exact (ihr (ihl h)).writeOp _ _

/-- The literals of an expression become constants in their order. -/
lemma constants_emit (e : Expr) (b : Builder) :
    (e.emit b).chunk.constants.toList = b.chunk.constants.toList ++ e.literals := by
  induction e generalizing b with
  | literal v line => simp [emit, literals]
  | unary op line a ih => simp [emit, literals, ih]
  | binary op line l r ihl ihr => simp [emit, literals, ihl, ihr]

lemma size_constants_emit (e : Expr) (b : Builder) :
    (e.emit b).chunk.constants.size = b.chunk.constants.size + e.literals.length := by
  simp [← Array.length_toList, constants_emit]

lemma constants_assemble (e : Expr) (endLine : ℕ) :
    (e.assemble endLine).chunk.constants = e.literals.toArray := by
  rw [← Array.toList_inj]
  simp [assemble, constants_emit, Builder.new, Chunk.empty]

/-! ### The code of an expression -/

/-- The state that the code up to `stop` leads to from the state `s`: a value
has been pushed, or an operator has failed on its own line. -/
def Yields (c : Chunk) (s : State) (stop : ℕ) : Except Failure Value → Prop
  | .ok v => Steps c s ⟨stop, v :: s.stack⟩
  | .error f => ∃ t stack, Steps c s t ∧
      step c t = .fail ⟨.mismatch f.mismatch, Int64.ofNat f.line⟩ stack

/-- What was yielded before an operator and what the operator's instruction does
make up what is yielded behind it. -/
lemma yields_of_step {c : Chunk} {s t : State} {stop line : ℕ} {answer : Except Mismatch Value}
    (hst : Steps c s t)
    (hstep : step c t =
      match answer with
      | .ok r => .next ⟨stop, r :: s.stack⟩
      | .error m => .fail ⟨.mismatch m, Int64.ofNat line⟩ s.stack) :
    Yields c s stop (located line answer) := by
  cases answer with
  | ok r => exact hst.next hstep
  | error m => exact ⟨t, s.stack, hst, hstep⟩

/-- An operator written behind some code stands in every chunk that goes on
from there, on its own line. -/
lemma operator_within {b : Builder} {c : Chunk} {op : Opcode} {line : Int64} (hb : b.Aligned)
    (hc : (b.writeOp op.byte line).chunk.Within c) :
    c.code[b.chunk.code.size]? = some op.byte ∧ c.lineAt (b.chunk.code.size : ℤ) = line := by
  have hline : c.lines[b.chunk.code.size]? = some line := by
    refine hc.lines _ _ ?_
    rw [← hb, Builder.lines_writeOp, Array.getElem?_push_size]
  refine ⟨hc.code _ _ (by simp), ?_⟩
  rw [lineAt, if_neg (by omega), Int.toNat_natCast, hline]
  rfl

/-- The code of an expression, wherever it stands, yields its value on top of
whatever is on the stack. -/
lemma emit_yields (e : Expr) {b : Builder} {c : Chunk} (stack : List Value) (hb : b.Aligned)
    (hfits : b.chunk.constants.size + e.literals.length ≤ maxConstants)
    (hc : (e.emit b).chunk.Within c) :
    Yields c ⟨b.chunk.code.size, stack⟩ (e.emit b).chunk.code.size e.eval := by
  induction e generalizing b stack with
  | literal v line =>
      have hindex : (UInt8.ofNat b.chunk.constants.size).toNat = b.chunk.constants.size := by
        simp only [literals, List.length_singleton, maxConstants] at hfits
        rw [UInt8.toNat_ofNat_of_lt']
        exact hfits
      have hstep : step c ⟨b.chunk.code.size, stack⟩ =
          .next ⟨b.chunk.code.size + 2, v :: stack⟩ := by
        refine step_constant (hc.code _ _ ?_)
          (hc.code _ (UInt8.ofNat b.chunk.constants.size) ?_) ?_
        · exact getElem?_push_of_eq_some Array.getElem?_push_size
        · rw [emit, Builder.code_load, Array.getElem?_push, if_pos (by simp)]
        · rw [hindex]
          exact hc.constants _ _ Array.getElem?_push_size
      have hsize : (emit b (literal v line)).chunk.code.size = b.chunk.code.size + 2 := by
        simp [emit]
      rw [hsize]
      exact Relation.ReflTransGen.single hstep
  | unary op line a ih =>
      have ha := ih stack hb hfits ((Builder.within_writeOp _ _ _).trans hc)
      obtain ⟨hop, hline⟩ := operator_within (aligned_emit a hb) hc
      have hsize : (emit b (unary op line a)).chunk.code.size = (a.emit b).chunk.code.size + 1 := by
        simp [emit]
      rw [eval, hsize]
      cases hv : a.eval with
      | error f =>
          rw [hv] at ha
          exact ha
      | ok v =>
          rw [hv] at ha
          have hstep := step_unary hop v stack
          rw [hline] at hstep
          refine yields_of_step ha (hstep.trans ?_)
          cases op.apply v <;> rfl
  | binary op line l r ihl ihr =>
      have hcr := (Builder.within_writeOp (r.emit (l.emit b)) (Opcode.binary op).byte _).trans hc
      have hbl := aligned_emit l hb
      obtain ⟨hop, hline⟩ := operator_within (aligned_emit r hbl) hc
      have hsize : (emit b (binary op line l r)).chunk.code.size =
          (r.emit (l.emit b)).chunk.code.size + 1 := by
        simp [emit]
      have hcount := l.size_constants_emit b
      simp only [literals, List.length_append] at hfits
      have hl := ihl stack hb (by omega) ((within_emit r _).trans hcr)
      rw [eval, hsize]
      cases hv : l.eval with
      | error f =>
          rw [hv] at hl
          exact hl
      | ok v =>
          -- the left value lies below while the right operand is run
          rw [hv] at hl
          have hr := ihr (v :: stack) hbl (by omega) hcr
          cases hw : r.eval with
          | error f =>
              rw [hw] at hr
              obtain ⟨t, left, hsteps, hfail⟩ := hr
              exact ⟨t, left, hl.trans hsteps, hfail⟩
          | ok w =>
              rw [hw] at hr
              have hstep := step_binary hop v w stack
              rw [hline] at hstep
              refine yields_of_step (hl.trans hr) (hstep.trans ?_)
              cases op.apply v w <;> rfl

/-! ### Whole runs -/

/-- What a finished run comes to: the value and an empty stack, or the operator
that failed. -/
def ComesTo (r : Run) : Except Failure Value → Prop
  | .ok v => r.result = .ok v ∧ r.stack = []
  | .error f => r.result = .error ⟨.mismatch f.mismatch, Int64.ofNat f.line⟩

/-- The finished code of an expression comes to its value, whatever an earlier
run has left on the stack. -/
lemma run_assemble (e : Expr) (endLine : ℕ) (before : List Value)
    (hfits : e.literals.length ≤ maxConstants) :
    ComesTo (run (some (e.assemble endLine).chunk) before) e.eval := by
  set c := (e.assemble endLine).chunk with hc
  have haligned : (Builder.new).Aligned := rfl
  have hwithin : ((e.emit .new).writeOp Opcode.ret.byte (Int64.ofNat endLine)).chunk.Within c :=
    Within.refl c
  have hsize : c.code.size ≠ 0 := by simp [hc, assemble]
  have hrun : run (some c) before = runFrom c ⟨0, []⟩ := by rw [run, if_neg hsize]
  have hyields := emit_yields e [] haligned (by simpa [Builder.new, Chunk.empty] using hfits)
    ((Builder.within_writeOp _ _ _).trans hwithin)
  have hret := (operator_within (aligned_emit e haligned) hwithin).1
  rw [hrun]
  cases hv : e.eval with
  | error f =>
      rw [hv] at hyields
      obtain ⟨t, stack, hsteps, hfail⟩ := hyields
      exact (runFrom_of_steps hsteps).1.trans (runFrom_of_fail hfail)
  | ok v =>
      rw [hv] at hyields
      obtain ⟨hresult, hstack⟩ := runFrom_of_steps hyields
      obtain ⟨hresult', hstack'⟩ := runFrom_of_halt (step_ret hret)
      exact ⟨hresult.trans hresult', hstack.trans hstack'⟩

/-- A tree has the literals of its sentence as leaves. -/
lemma length_literals {x : Level} {ts : List Token} {e : Expr} (h : Derives x ts e) :
    e.literals.length = literalCount ts := by
  induction h with
  | operand _ _ ih => exact ih
  | chain hop _ _ _ ihl ihr =>
      have hkind := (Level.ofKind?_of_mem_operators hop).1
      rw [literals, List.length_append, literalCount_append,
        literalCount_cons_of_not (isLiteral_of_binary hkind), ihl, ihr]
  | sign hop _ ih =>
      rw [literals, literalCount_cons_of_not (isLiteral_of_unary (mem_signs_iff.mp hop)), ih]
  | group hl _ hr ih =>
      rw [ih, literalCount_cons_of_not (by simp [Token.isLiteral, hl]), literalCount_append,
        literalCount_cons_of_not (by simp [Token.isLiteral, hr]), literalCount_nil, Nat.add_zero]
  | number h => rw [literalCount_singleton (by simp [Token.isLiteral, h])]; rfl
  | truth h => rw [literalCount_singleton (by simp [Token.isLiteral, h])]; rfl
  | falsity h => rw [literalCount_singleton (by simp [Token.isLiteral, h])]; rfl
  | nothing h => rw [literalCount_singleton (by simp [Token.isLiteral, h])]; rfl

/-- The literals of a text that is read fit into a chunk. -/
lemma length_literals_le {text : List Char} {e : Expr}
    (h : parseAll (tokenize text) = .ok e) : e.literals.length ≤ Chunk.maxConstants := by
  obtain ⟨-, hderives, hcount, -⟩ := parseAll_eq_ok_iff.mp h
  rw [length_literals hderives]
  exact hcount

/-- What an observer sees of a run agrees with the value of an expression: the
value is yielded, the stack is left empty, and the value is printed on a line of
its own, or the run fails as the first operator did, on that operator's line, and
prints nothing. What is printed is told apart from the trace only if the trace
does not go to the same place. -/
def Agrees (o : Observer) : Except Failure Value → Evaluation × Machine → Prop
  | .ok v, (seen, m) => seen.result = .ok v ∧ m.stack = [] ∧
      (o.prints = true → o.tracing ≠ .withOutput → seen.out = v.text ++ "\n")
  | .error f, (seen, _) => ∃ err, seen.result = .error err ∧ err.kind = .runtime ∧
      err.cause = .mismatch f.mismatch ∧ err.cause.message = f.mismatch.message ∧
      err.line = Int64.ofNat f.line ∧
      (o.prints = true → o.tracing ≠ .withOutput → seen.out = "")

lemma agrees_of_comesTo {c : Chunk} {before : List Value} (o : Observer)
    {answer : Except Failure Value} (h : ComesTo (run (some c) before) answer) :
    Agrees o answer ((⟨some c, before⟩ : Machine).evaluate o) := by
  cases answer with
  | ok v =>
      obtain ⟨hresult, hstack⟩ := h
      refine ⟨hresult, hstack, fun hprints htracing => ?_⟩
      simp [hprints, htracing, Run.printed, hresult]
  | error f =>
      refine ⟨_, h, rfl, rfl, rfl, rfl, fun hprints htracing => ?_⟩
      rw [ComesTo] at h
      simp [hprints, htracing, Run.printed, h]

end Expr

open ExprMachine.Expr Machine

/-- **Compiled code computes the value of the expression**: a source that
compiles has exactly one tree under the grammar, and the run of its chunk, on a
machine that may have run before and whoever observes it, agrees with the value
of that tree. -/
theorem Source.evaluate_compile (s : Source) (c : Chunk) (before : List Value) (o : Observer)
    (hc : s.compile = .ok c) :
    ∃ e, Spells s.text e ∧ (∀ e', Spells s.text e' → e' = e) ∧
      Agrees o e.eval ((⟨some c, before⟩ : Machine).evaluate o) := by
  obtain ⟨e, he, rfl⟩ := Source.compile_eq_ok_iff.mp hc
  obtain ⟨hspells, hunique⟩ := spells_of_parseAll he
  obtain ⟨-, hderives, hcount, -⟩ := parseAll_eq_ok_iff.mp he
  have hfits : e.literals.length ≤ Chunk.maxConstants := by
    rw [length_literals hderives]
    exact hcount
  exact ⟨e, hspells, hunique, agrees_of_comesTo o (run_assemble e _ before hfits)⟩

/-- A product with nothing, on the second line of a difference: the run fails on
the line of the product, before the difference is looked at. -/
theorem Source.evaluate_compile_mismatch :
    (Source.ofString "1 -\n2 * nil").compile = .ok ⟨#[1, 0, 1, 1, 1, 2, 5, 4, 0],
        #[1, 1, 2, 2, 2, 2, 2, 1, 2], #[.number 1, .number 2, .nil]⟩ ∧
      ∃ e, Spells (Source.ofString "1 -\n2 * nil").text e ∧
        (∀ e', Spells (Source.ofString "1 -\n2 * nil").text e' → e' = e) ∧
        Agrees ⟨true, .off⟩ e.eval ((⟨some ⟨#[1, 0, 1, 1, 1, 2, 5, 4, 0],
          #[1, 1, 2, 2, 2, 2, 2, 1, 2], #[.number 1, .number 2, .nil]⟩, []⟩ : Machine).evaluate
            ⟨true, .off⟩) :=
  have hc : (Source.ofString "1 -\n2 * nil").compile = .ok ⟨#[1, 0, 1, 1, 1, 2, 5, 4, 0],
      #[1, 1, 2, 2, 2, 2, 2, 1, 2], #[.number 1, .number 2, .nil]⟩ := by decide +kernel
  ⟨hc, Source.evaluate_compile _ _ [] ⟨true, .off⟩ hc⟩

end ExprMachine

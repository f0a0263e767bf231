import ExprMachine.Editor.Diagnose
import ExprMachine.Proofs.Chunk.Code
import ExprMachine.Proofs.Expr.Blame
import ExprMachine.Proofs.Expr.Findings
import ExprMachine.Proofs.Expr.Recovery
import ExprMachine.Proofs.Token.Lines

/-!
Where the marks of a text are.

* `Editor.IsErrorMark`, `Editor.isErrorMark_ofDiagnostic`: the mark of a finding goes
  from the start of its token to the end, and over one character if there is none.
* `Editor.IsLineMark`, `Editor.isLineMark_ofFailure`: the mark of a failed run covers one
  line of the text.
* `Editor.LiesIn`, `Editor.IsLineMark.liesIn`: the operator that fails lies in it.
* `Editor.diagnose_locates`: the marks of every text that is short enough for positions of
  32 bits.
-/

namespace ExprMachine

open Lines ExprMachine.Expr

lemma Blames.isSymbol {x : Level} {ts : List Token} {e : Expr} {t : Token} {m : Mismatch}
    (h : Blames x ts e t m) : t.kind.IsSymbol := by
  obtain ⟨op, hop⟩ | ⟨op, hop⟩ := h.ofKind?
  · exact ⟨_, mem_symbols_of_binary hop⟩
  · exact ⟨_, mem_symbols_of_unary hop⟩

namespace Editor

variable {text : List Char}

/-! ### Marks of findings -/

/-- `IsErrorMark text d mark`: the mark is an error, it starts where the token of the
finding `d` starts and stops behind it, and it is not empty. -/
structure IsErrorMark (text : List Char) (d : Diagnostic) (mark : Mark) : Prop where
  severity : mark.severity = .error
  start : IsPosition text d.start mark.range.start
  stop : IsPosition text (d.start + max d.length 1) mark.range.stop
  before : Before mark.range.start mark.range.stop

lemma isErrorMark_ofDiagnostic (hlen : text.length < 2 ^ 32 - 1) {d : Diagnostic}
    (hd : d.start + d.length ≤ text.length) :
    IsErrorMark text d (.ofDiagnostic (starts text) d) := by
  have hstop : (if d.length = 0 then d.start + 1 else d.start + d.length) =
      d.start + max d.length 1 := by
    split_ifs <;> omega
  have hfirst := isPosition_ofOffset (o := d.start) text (by omega)
  have hlast := isPosition_ofOffset (o := d.start + max d.length 1) text (by omega)
  rw [← hstop] at hlast
  refine ⟨rfl, hfirst, hstop ▸ hlast, before_of_lt hfirst hlast ?_⟩
  omega

/-! ### The mark of a failed run -/

/-- `IsLineMark text mark line`: the mark is a warning over a whole line of the text,
which reads `line` and has the number that the mark says. -/
structure IsLineMark (text : List Char) (mark : Mark) (line : List Char) : Prop where
  severity : mark.severity = .warning
  split : (split text)[mark.range.start.line.toNat]? = some line
  same_line : mark.range.stop.line = mark.range.start.line
  start : mark.range.start.character = 0
  stop : mark.range.stop.character.toNat = line.length

/-- `LiesIn text t r`: the token `t` starts no earlier than the stretch `r`, and stops
no later. -/
def LiesIn (text : List Char) (t : Token) (r : Range) : Prop :=
  ∃ p q, IsPosition text t.start p ∧ IsPosition text t.stop q ∧
    ¬ Before p r.start ∧ ¬ Before r.stop q

variable {t : Token}

/-- A failure on the line of a token marks the line on which the token ends. -/
lemma isLineMark_ofFailure (hlen : text.length < 2 ^ 32 - 1) (ht : t.Placed text)
    (cause : Machine.Cause) :
    let mark := Mark.ofFailure text (starts text) ⟨cause, Int64.ofNat t.line⟩
    mark.range.start.line.toNat = newlinesBefore text t.stop ∧
      IsLineMark text mark ((text.drop (lineStart text t.stop)).takeWhile (· ≠ '\n')) := by
  intro mark
  have hcount := newlinesBefore_le text t.stop
  have hstop := ht.stop_le
  have hline := ht.line
  have hround : (Int64.ofNat t.line).toInt = t.line := Int64.toInt_ofNat_of_lt (by omega)
  have hnumber : ((Int64.ofNat t.line).toInt - 1).toNat = newlinesBefore text t.stop := by
    omega
  have hstart : mark.range.start.line.toNat = newlinesBefore text t.stop := by
    change (UInt32.ofNat ((Int64.ofNat t.line).toInt - 1).toNat).toNat = _
    rw [hnumber]
    exact UInt32.toNat_ofNat_of_lt' (by simp only [UInt32.size]; omega)
  refine ⟨hstart, rfl, ?_, rfl, rfl, ?_⟩
  · rw [hstart, getElem?_split]
  · change (UInt32.ofNat (lengthOf text (starts text)
      ((Int64.ofNat t.line).toInt - 1).toNat)).toNat = _
    rw [hnumber, lengthOf_eq]
    have hwithin : ((text.drop (lineStart text t.stop)).takeWhile (· ≠ '\n')).length ≤
        (text.drop (lineStart text t.stop)).length := (List.takeWhile_prefix _).length_le
    rw [List.length_drop] at hwithin
    exact UInt32.toNat_ofNat_of_lt' (by simp only [UInt32.size]; omega)

/-- An operator lies in the mark of the line on which it ends. -/
lemma IsLineMark.liesIn (hlen : text.length < 2 ^ 32 - 1) {mark : Mark} {line : List Char}
    (h : IsLineMark text mark line)
    (hstart : mark.range.start.line.toNat = newlinesBefore text t.stop)
    (ht : t.Placed text) (hk : t.kind.IsSymbol) : LiesIn text t mark.range := by
  have hstop := ht.stop_le
  have hle := t.start_le_stop
  have hfirst := isPosition_ofOffset (o := t.start) text (by omega)
  have hlast := isPosition_ofOffset (o := t.stop) text (by omega)
  refine ⟨_, _, hfirst, hlast, ?_, ?_⟩
  · -- nothing on a line is before its first character
    rw [Before, UInt32.lt_iff_toNat_lt, UInt32.lt_iff_toNat_lt, hfirst.line, hstart, h.start,
      ht.newlinesBefore_start hk]
    simp
  · have hsplit := h.split
    rw [hstart, getElem?_split, Option.some_inj] at hsplit
    have hend := le_lineStart_add rfl hstop
    rw [hsplit] at hend
    rw [Before, UInt32.lt_iff_toNat_lt, UInt32.lt_iff_toNat_lt, h.same_line, hlast.line, hstart,
      h.stop, hlast.character]
    omega

/-! ### All marks of a text -/

/-- Only a text that comes to a value has no mark. -/
lemma diagnose_eq_nil_iff :
    diagnose text = [] ↔ ∃ c v, compile text = .ok c ∧ c.evaluate = .ok v := by
  rw [diagnose]
  cases hcompile : compile text with
  | error ds =>
      have hne := (parseAll_error_tokens (compile_eq_error_iff.mp hcompile)).1
      simp [hne]
  | ok c => cases hvalue : c.evaluate <;> simp [hvalue]

/-- The findings of a text are about its tokens, and so are their marks. -/
lemma forall₂_diagnose (hlen : text.length < 2 ^ 32 - 1) {ds : List Diagnostic}
    (hds : compile text = .error ds) : List.Forall₂ (IsErrorMark text) ds (diagnose text) := by
  have hdiagnose : diagnose text = ds.map (.ofDiagnostic (starts text)) := by
    rw [diagnose, hds]
  rw [hdiagnose, List.forall₂_map_right_iff, List.forall₂_same]
  intro d hd
  obtain ⟨t, ht, hstart, hlength⟩ :=
    (parseAll_error_tokens (compile_eq_error_iff.mp hds)).2 d hd
  refine isErrorMark_ofDiagnostic hlen ?_
  rw [hstart, hlength]
  exact (placed_of_mem_tokenize ht).stop_le

/-- A run that fails, fails where the tree of the text does. -/
lemma exists_failure_of_compile {c : Chunk} {err : Machine.Error} (hc : compile text = .ok c)
    (herr : c.evaluate = .error err) :
    ∃ e f, IsSentence (tokenize text) ((tokenize text).filter Token.isSignificant) ∧
      Derives .equality ((tokenize text).filter Token.isSignificant) e ∧ e.eval = .error f ∧
      err = ⟨.mismatch f.mismatch, Int64.ofNat f.line⟩ := by
  obtain ⟨e, hparse, rfl⟩ := compile_eq_ok_iff.mp hc
  obtain ⟨hkinds, hderives, -, -⟩ := parseAll_eq_ok_iff.mp hparse
  rw [evaluate_assemble _ _ (length_literals_le hparse)] at herr
  cases hvalue : e.eval with
  | ok v =>
      rw [hvalue] at herr
      cases herr
  | error f =>
      rw [hvalue] at herr
      exact ⟨e, f, isSentence_filter text hkinds, hderives, hvalue, (Except.error.inj herr).symm⟩

/-- **Marks show where the trouble is**. A text has no mark if and only if it compiles
and comes to a value. If it does not compile, there is an error mark for each finding,
in their order, over the token of the finding. If it compiles and the run fails, there
is one warning, over a whole line of the text in which the operator that is not defined
for its operands lies. -/
theorem diagnose_locates (text : List Char) (hlen : text.length < 2 ^ 32 - 1) :
    (diagnose text = [] ↔ ∃ c v, compile text = .ok c ∧ c.evaluate = .ok v) ∧
      (∀ ds, compile text = .error ds → List.Forall₂ (IsErrorMark text) ds (diagnose text)) ∧
        ∀ c err, compile text = .ok c → c.evaluate = .error err →
          ∃ mark line ts e, diagnose text = [mark] ∧ IsLineMark text mark line ∧
            IsSentence (tokenize text) ts ∧ Derives .equality ts e ∧
            (∃ t m, Blames .equality ts e t m ∧ err.cause = .mismatch m) ∧
            ∀ t m, Blames .equality ts e t m → t ∈ tokenize text ∧ LiesIn text t mark.range := by
  refine ⟨diagnose_eq_nil_iff, fun ds => forall₂_diagnose hlen, fun c err hc herr => ?_⟩
  have hdiagnose : diagnose text = [.ofFailure text (starts text) err] := by
    rw [diagnose, hc]
    dsimp only
    rw [herr]
  obtain ⟨e, f, hsentence, hderives, hvalue, rfl⟩ := exists_failure_of_compile hc herr
  have hplaced : ∀ t m, Blames .equality ((tokenize text).filter Token.isSignificant) e t m →
      t ∈ tokenize text ∧ t.Placed text ∧ t.line = f.line := by
    intro t m hblames
    have hmem := (List.mem_filter.mp hblames.mem).1
    refine ⟨hmem, placed_of_mem_tokenize hmem, ?_⟩
    rw [← Except.error.inj (hblames.eval.symm.trans hvalue)]
  obtain ⟨t, hblames, hline⟩ := hderives.exists_blames hvalue
  obtain ⟨-, ht, -⟩ := hplaced t _ hblames
  obtain ⟨hstart, hmark⟩ := isLineMark_ofFailure hlen ht (.mismatch f.mismatch)
  rw [hline] at hstart hmark
  refine ⟨_, _, _, e, hdiagnose, hmark, hsentence, hderives, ⟨t, _, hblames, rfl⟩,
    fun u m hu => ?_⟩
  -- whatever is blamed is on the line of the failure, and so on that of the mark
  obtain ⟨hmem, hu', hline'⟩ := hplaced u m hu
  refine ⟨hmem, hmark.liesIn hlen ?_ hu' hu.isSymbol⟩
  have hl := ht.line
  have hl' := hu'.line
  omega

/-- A comparison over three lines: the line of its operator is marked. -/
theorem diagnose_locates_comparison :
    "(1 // a\n< nil\n) // b\n".toList.length < 2 ^ 32 - 1 ∧
      diagnose "(1 // a\n< nil\n) // b\n".toList =
        [⟨⟨⟨1, 0⟩, ⟨1, 5⟩⟩, .warning,
          "Runtime error: can't compare values of differing types"⟩] ∧
      ∃ t ∈ tokenize "(1 // a\n< nil\n) // b\n".toList, ∃ ts e m,
        Blames .equality ts e t m ∧
          LiesIn "(1 // a\n< nil\n) // b\n".toList t ⟨⟨1, 0⟩, ⟨1, 5⟩⟩ := by
  set text := "(1 // a\n< nil\n) // b\n".toList with htext
  have hlen : text.length < 2 ^ 32 - 1 := by decide +kernel
  have hmarks : diagnose text = [⟨⟨⟨1, 0⟩, ⟨1, 5⟩⟩, .warning,
      "Runtime error: can't compare values of differing types"⟩] := by decide +kernel
  have hc : compile text =
      .ok ⟨#[1, 0, 1, 1, 11, 0], #[1, 1, 2, 2, 2, 4], #[.number 1, .nil]⟩ := by decide +kernel
  have hfails : (Chunk.evaluate ⟨#[1, 0, 1, 1, 11, 0], #[1, 1, 2, 2, 2, 4],
      #[.number 1, .nil]⟩).toOption = none := by decide +kernel
  refine ⟨hlen, hmarks, ?_⟩
  cases herr : Chunk.evaluate ⟨#[1, 0, 1, 1, 11, 0], #[1, 1, 2, 2, 2, 4], #[.number 1, .nil]⟩ with
  | ok v =>
      rw [herr] at hfails
      cases hfails
  | error err =>
      obtain ⟨mark, -, ts, e, hmark, -, -, -, ⟨t, m, hblames, -⟩, hall⟩ :=
        (diagnose_locates text hlen).2.2 _ err hc herr
      obtain rfl := List.singleton_injective (hmarks.symm.trans hmark)
      obtain ⟨hmem, hlies⟩ := hall t m hblames
      exact ⟨t, hmem, ts, e, m, hblames, hlies⟩

end Editor

end ExprMachine

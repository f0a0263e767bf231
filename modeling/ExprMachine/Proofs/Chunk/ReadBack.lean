import ExprMachine.Proofs.Chunk.Composition
import ExprMachine.Proofs.Number.Text

/-!
What is shown of a value is a program for that value.

* `Denotes`: a text that is a sentence with a given value.
* `Denotes.exists_compile`: such a text compiles, and its run yields the value.
* `denotes_word`, `denotes_decimal`, `denotes_negative`: the reserved words that stand
  for values, the text of a decimal, and a minus sign before it.
* `Value.evaluate_text`: the text of a value, printed and read back.
-/

namespace ExprMachine

open Token ExprMachine.Expr Parsed

/-- A token that is read as a value is a sentence. -/
lemma Sentence.literal {t : Token} {v : Value} (h : literal? t = some (.ok v)) :
    Sentence .primary [t] (.literal v t.line) := by
  obtain ⟨hderives, hliteral, hrange⟩ := derives_of_literal? h
  have hkind := hliteral
  simp only [isLiteral, decide_eq_true_eq] at hkind
  refine ⟨fun u hu => ⟨?_, hrange u hu⟩, ?_, ?_⟩
  · obtain rfl := List.mem_singleton.mp hu
    rcases hkind with h | h | h | h <;> simp [h]
  · have hsignificant : t.isSignificant = true := by
      rcases hkind with h | h | h | h <;> simp [isSignificant, h]
    rwa [List.filter_cons_of_pos hsignificant]
  · rw [literalCount_singleton hliteral]
    decide

/-- `Denotes text v`: the text is of single bytes, and its tokens are a sentence that has
the value `v`. -/
def Denotes (text : String) (v : Value) : Prop :=
  Utf8.IsAscii text.toList ∧ ∃ ts e, Sentence .equality ts e ∧
    contents text.toList = ts.map Token.content ++ [(.eof, "")] ∧ e.eval = .ok v

namespace Denotes

variable {text : String} {v : Value}

/-- A text that denotes a value compiles, and every run of it yields the value. -/
lemma exists_compile (h : Denotes text v) :
    ∃ c, (Source.ofString text).compile = .ok c ∧
      ∀ before o, Agrees o (.ok v) ((⟨some c, before⟩ : Machine).evaluate o) := by
  obtain ⟨hascii, ts, e, hts, hcontents, heval⟩ := h
  rw [← Source.text_ofString hascii] at hcontents
  obtain ⟨e', he', hsame⟩ := Source.exists_parseAll_of_contents hts hcontents
  have heval' : e'.eval = .ok v := by
    obtain ⟨w, hw, hw'⟩ | ⟨m, line, -, hfail, -⟩ := eval_of_unplaced_eq hsame
    · rw [heval] at hw
      rw [hw', ← Except.ok.inj hw]
    · rw [heval] at hfail
      cases hfail
  refine ⟨_, Source.compile_eq_ok_iff.mpr ⟨e', he', rfl⟩, fun before o => ?_⟩
  have hrun := agrees_of_comesTo o (e'.run_assemble
    (endToken (tokenize (Source.ofString text).text)).line before (length_literals_le he'))
  rwa [heval'] at hrun

end Denotes

/-! ### The texts of values -/

/-- A reserved word that is read as a value denotes it. -/
lemma denotes_word {k : Keyword} {v : Value} (hascii : Utf8.IsAscii k.word.toList)
    (h : literal? ⟨.keyword k, k.word, 0, 0, 0⟩ = some (.ok v)) : Denotes k.word v := by
  refine ⟨hascii, _, _, (Sentence.literal h).loosen (by decide), ?_, rfl⟩
  rw [contents_of_matches (.keyword k) fun _ => rfl, String.ofList_toList]
  rfl

lemma isAscii_text (d : Decimal) : Utf8.IsAscii d.text.toList := by
  intro c hc
  rcases Decimal.isDigit_or_eq_of_mem_text hc with hdigit | rfl
  · have hle : c ≤ '9' := (of_decide_eq_true hdigit).2
    exact lt_of_le_of_lt (Char.le_def.mp hle) (by decide)
  · decide

variable {d : Decimal}

/-- The text of a decimal denotes the double nearest to it. -/
lemma denotes_decimal (h : Number.InRange d.text) :
    Denotes d.text (.number (Number.nearest d.text)) := by
  have hliteral : literal? ⟨.number, d.text, 0, 0, 0⟩ =
      some (.ok (.number (Number.nearest d.text))) := literal?_number rfl h
  refine ⟨isAscii_text d, _, _, (Sentence.literal hliteral).loosen (by decide), ?_, rfl⟩
  rw [contents_of_matches d.matches_text fun _ => rfl, String.ofList_toList]
  rfl

/-- Behind a minus sign, it denotes the opposite. -/
lemma denotes_negative (h : Number.InRange d.text) :
    Denotes ("-" ++ d.text) (.number (-Number.nearest d.text)) := by
  have hliteral : literal? ⟨.number, d.text, 0, 0, 0⟩ =
      some (.ok (.number (Number.nearest d.text))) := literal?_number rfl h
  have hsign := ((Sentence.literal hliteral).loosen (by decide)).sign
    (t := ⟨.minus, "-", 0, 0, 0⟩) rfl
  have htext : ("-" ++ d.text).toList = '-' :: d.text.toList := by
    rw [String.toList_append]
    rfl
  refine ⟨?_, _, _, hsign.loosen (by decide), ?_, rfl⟩
  · rw [String.toList_append]
    exact Utf8.IsAscii.append (by decide) (isAscii_text d)
  · rw [htext, contents_cons_minus, contents_of_matches d.matches_text fun _ => rfl,
      String.ofList_toList]
    rfl

/-- Every value but those that are no numbers or infinite is denoted by its text. -/
lemma denotes_text {v : Value} (hfinite : ∀ x, v = .number x → Number.IsFinite x) :
    Denotes v.text v := by
  cases v with
  | nil => exact denotes_word (k := .nilWord) (by decide) rfl
  | boolean b =>
      cases b with
      | true => exact denotes_word (k := .trueWord) (by decide) rfl
      | false => exact denotes_word (k := .falseWord) (by decide) rfl
  | number x =>
      obtain ⟨d, hrange, ⟨htext, hx⟩ | ⟨htext, hx⟩⟩ := Number.text_cases (hfinite x rfl)
      · have hdenotes := denotes_decimal hrange
        rwa [hx, ← htext] at hdenotes
      · have hdenotes := denotes_negative hrange
        rwa [hx, ← htext] at hdenotes

/-- **What is printed is a program for what was printed**: the text of a value that is
nothing, a truth value or a finite number compiles, and a run of it, on a machine that
may have run before and whoever observes it, yields that very value and prints its
text. -/
theorem Value.evaluate_text (v : Value) (hfinite : ∀ x, v = .number x → Number.IsFinite x) :
    ∃ c, (Source.ofString v.text).compile = .ok c ∧ ∀ (before : List Value) (o : Machine.Observer),
      ((⟨some c, before⟩ : Machine).evaluate o).1.result = .ok v ∧
        (o.prints = true → o.tracing ≠ .withOutput →
          ((⟨some c, before⟩ : Machine).evaluate o).1.out = v.text ++ "\n") := by
  obtain ⟨c, hc, hruns⟩ := (denotes_text hfinite).exists_compile
  refine ⟨c, hc, fun before o => ?_⟩
  obtain ⟨hresult, -, hout⟩ := hruns before o
  exact ⟨hresult, hout⟩

/-- Zero with a minus sign comes back with it. -/
theorem Value.evaluate_text_negativeZero :
    Value.text (.number (Float.ofBits Number.negativeZeroBits)) = "-0" ∧
    (∀ x, Value.number (Float.ofBits Number.negativeZeroBits) = .number x →
      Number.IsFinite x) ∧
    ∃ c, (Source.ofString "-0").compile = .ok c ∧
      ∀ (before : List Value) (o : Machine.Observer),
        ((⟨some c, before⟩ : Machine).evaluate o).1.result =
          .ok (.number (Float.ofBits Number.negativeZeroBits)) ∧
        (o.prints = true → o.tracing ≠ .withOutput →
          ((⟨some c, before⟩ : Machine).evaluate o).1.out = "-0" ++ "\n") := by
  have htext : Value.text (.number (Float.ofBits Number.negativeZeroBits)) = "-0" := by
    decide +kernel
  have hfinite : ∀ x, Value.number (Float.ofBits Number.negativeZeroBits) = .number x →
      Number.IsFinite x := by
    rintro x hx
    obtain rfl := Value.number.inj hx
    exact ⟨true, 0, -1074, by decide +kernel⟩
  have hread := Value.evaluate_text _ hfinite
  rw [htext] at hread
  exact ⟨htext, hfinite, hread⟩

end ExprMachine

import ExprMachine.Chunk.Compile
import ExprMachine.Proofs.Expr.Climbing
import ExprMachine.Proofs.Token.Stream

/-!
The language of the compiler.

* `Expr.parseTokens_eq_ok_iff`: an expression and then the end are read off
  exactly the sentences whose numbers are in range and whose literals are not
  too many.
* `Expr.parseAll_eq_ok_iff`: the same for the tokens of a text, which must not
  hold an error. A fault is never lost, and no error token goes unread when
  the parse has come to the end.
* `Source.exists_compile_eq_ok_iff`: the texts that compile.
* `Spells`, `spells_of_parseAll`: the tree of a text. The grammar gives a text that
  compiles no second one.
-/

namespace ExprMachine

namespace Expr

open Parsed

variable (eof : Token)

/-- A parse of a whole text that has no fault has left nothing over. -/
lemma rest_parseTokens {ts : List Token} {e : Expr} (h : (parseTokens eof ts).result = .ok e) :
    parseTokens eof ts = (parse eof 1 0 ts).val ∧ (parse eof 1 0 ts).val.rest = [] := by
  unfold parseTokens at h ⊢
  dsimp only at h ⊢
  cases hrest : (parse eof 1 0 ts).val.rest with
  | nil => exact ⟨rfl, rfl⟩
  | cons t us =>
      rw [hrest] at h
      cases hresult : (parse eof 1 0 ts).val.result <;> simp [hresult, Except.bind] at h

/-- A whole text is read exactly when it is a sentence within the bounds. -/
lemma parseTokens_eq_ok_iff {ts : List Token} {e : Expr} :
    (parseTokens eof ts).result = .ok e ↔
      Derives .equality ts e ∧ literalCount ts ≤ maxLiterals ∧ NumbersInRange ts := by
  constructor
  · intro h
    obtain ⟨hparse, hrest⟩ := rest_parseTokens eof h
    rw [hparse] at h
    obtain ⟨⟨x, -, -, ⟨us, hts, hderives, hcount, hrange⟩, hbound⟩, -⟩ :=
      parse_sound (by decide) ts e h
    obtain rfl : us = ts := by rw [hts, hrest, List.append_nil]
    exact ⟨hderives.loosen x.rank_pos, by omega, hrange⟩
  · rintro ⟨hderives, hcount, hrange⟩
    have hparse : (parse eof 1 0 ts).val = ⟨.ok e, 0 + literalCount ts, []⟩ := by
      have h : (parse eof 1 0 (ts ++ [])).val =
          (climb eof 1 ⟨.ok e, 0 + literalCount ts, []⟩).val :=
        parse_complete eof hderives le_rfl (stops_nil _) hrange (by omega)
      rw [List.append_nil] at h
      rw [h]
      exact climb_of_stops (stops_nil _)
    simp [parseTokens, hparse]

/-- The tokens of a text are read exactly when none is an error and they are a
sentence within the bounds. -/
lemma parseAll_eq_ok_iff {text : List Char} {e : Expr} :
    parseAll (tokenize text) = .ok e ↔
      (∀ t ∈ tokenize text, t.kind ≠ .error) ∧
        Derives .equality ((tokenize text).filter Token.isSignificant) e ∧
        literalCount ((tokenize text).filter Token.isSignificant) ≤ maxLiterals ∧
        NumbersInRange ((tokenize text).filter Token.isSignificant) := by
  set eof := endToken (tokenize text) with heof
  set ts := (tokenize text).filter Token.isSignificant with hts
  rw [← parseTokens_eq_ok_iff eof, ← lexicalErrors_endToken, ← heof]
  unfold parseAll
  dsimp only
  rw [← heof, ← hts]
  cases hresult : (parseTokens eof ts).result with
  | error fault =>
      dsimp only
      split_ifs <;> simp
  | ok a =>
      -- a parse without a fault has come to the end token
      obtain ⟨hparse, hrest⟩ := rest_parseTokens eof hresult
      have hcurrent : current eof (parseTokens eof ts).rest = eof := by
        rw [hparse, hrest]
        rfl
      rw [hcurrent]
      dsimp only
      split_ifs with hnone
      · simp_all
      · simp_all

/-- What is found in tokens that are not read: the errors of the token reader as far as
the parse has read, and before them its fault if it was met before the first of them. -/
lemma parseAll_eq_error {tokens : List Token} {ds : List Diagnostic}
    (h : parseAll tokens = .error ds) :
    let p := parseTokens (endToken tokens) (tokens.filter Token.isSignificant)
    let lexical := lexicalErrors tokens (current (endToken tokens) p.rest)
    (∃ e, p.result = .ok e ∧ lexical ≠ [] ∧ ds = lexical) ∨
      ∃ fault, p.result = .error fault ∧
        (lexicalErrors tokens fault.lookahead = [] ∧
            ds = .atToken fault.token fault.message :: lexical ∨
          lexicalErrors tokens fault.lookahead ≠ [] ∧ ds = lexical) := by
  dsimp only
  unfold parseAll at h
  dsimp only at h
  cases hresult : (parseTokens (endToken tokens) (tokens.filter Token.isSignificant)).result with
  | ok e =>
      simp only [hresult] at h
      split_ifs at h with hempty
      exact .inl ⟨e, rfl, by simpa using hempty, (Except.error.inj h).symm⟩
  | error fault =>
      simp only [hresult] at h
      refine .inr ⟨fault, rfl, ?_⟩
      split_ifs at h with hempty
      · exact .inl ⟨by simpa using hempty, (Except.error.inj h).symm⟩
      · exact .inr ⟨by simpa using hempty, (Except.error.inj h).symm⟩

end Expr

open ExprMachine.Expr

/-! ### Texts that compile -/

/-- Compiling is parsing and then writing the code of the tree. -/
lemma compile_eq_ok_iff {text : List Char} {c : Chunk} :
    compile text = .ok c ↔ ∃ e, parseAll (tokenize text) = .ok e ∧
      c = (e.assemble (endToken (tokenize text)).line).chunk := by
  rw [compile, compileBuilder]
  cases h : parseAll (tokenize text) with
  | error ds => simp [Except.map]
  | ok e => simp [Except.map, eq_comm]

lemma Source.compile_eq_ok_iff {s : Source} {c : Chunk} :
    s.compile = .ok c ↔ ∃ e, parseAll (tokenize s.text) = .ok e ∧
      c = (e.assemble (endToken (tokenize s.text)).line).chunk :=
  ExprMachine.compile_eq_ok_iff

/-- `Spells text e`: the sentence of the text has the tree `e`. -/
def Spells (text : List Char) (e : Expr) : Prop :=
  ∃ ts, IsSentence (tokenize text) ts ∧ Derives .equality ts e

/-- What the parser reads off a text is its tree, and the only one. -/
lemma spells_of_parseAll {text : List Char} {e : Expr} (h : parseAll (tokenize text) = .ok e) :
    Spells text e ∧ ∀ e', Spells text e' → e' = e := by
  obtain ⟨herr, hderives, hcount, hrange⟩ := parseAll_eq_ok_iff.mp h
  refine ⟨⟨_, isSentence_filter text herr, hderives⟩, ?_⟩
  rintro e' ⟨ts, hts, hderives'⟩
  -- a second tree would have been read as well
  obtain rfl := hts.unique (isSentence_filter text herr)
  have h' := parseAll_eq_ok_iff.mpr ⟨herr, hderives', hcount, hrange⟩
  exact Except.ok.inj (h'.symm.trans h)

/-- **The compiler accepts exactly its language**: a source compiles if and only
if its tokens hold no error and are, without comments and with the end token
behind them, a sentence of the grammar with at most 256 literals, in which all
numbers are in the range of doubles. -/
theorem Source.exists_compile_eq_ok_iff (s : Source) :
    (∃ c, s.compile = .ok c) ↔
      (∀ t ∈ tokenize s.text, t.kind ≠ .error) ∧
        ∃ ts e, IsSentence (tokenize s.text) ts ∧ Derives .equality ts e ∧
          literalCount ts ≤ 256 ∧ NumbersInRange ts := by
  constructor
  · rintro ⟨c, hc⟩
    obtain ⟨e, he, -⟩ := Source.compile_eq_ok_iff.mp hc
    obtain ⟨herr, hderives, hcount, hrange⟩ := parseAll_eq_ok_iff.mp he
    exact ⟨herr, _, e, isSentence_filter s.text herr, hderives, hcount, hrange⟩
  · rintro ⟨herr, ts, e, hts, hderives, hcount, hrange⟩
    obtain rfl := hts.unique (isSentence_filter s.text herr)
    have he := parseAll_eq_ok_iff.mpr ⟨herr, hderives, hcount, hrange⟩
    exact ⟨_, Source.compile_eq_ok_iff.mpr ⟨e, he, rfl⟩⟩

end ExprMachine

import ExprMachine.Expr.Parser
import Mathlib.Tactic

/-!
The tokens of a text as a stream: tokens, then one end token behind them all.

* `Scanner.offset_le_start_scan`, `Scanner.start_lt_offset_scan`: one token
  lies between the place where its scan began and the place where it ended.
* `Scanner.scan_induction`: the induction of the token reader, on what is left
  of its text.
* `Scanner.exists_tokens_eq`: the stream ends in the only end token, and every
  other token starts before it.
* `Scanner.pairwise_tokens`: the tokens start one behind the other.
* `IsSentence`: what is left of a stream without its comments and its end
  token.
* `IsSentence.unique`, `isSentence_filter`: there is only one such sentence, and
  in a stream without error tokens it is what the parser sees.
* `IsSentence.filter_eq`: it stands before the end token of the stream.
* `lexicalErrors_endToken`: an error token anywhere is found.
-/

namespace ExprMachine

namespace Scanner

/-! ### One token -/

/-- A token starts no earlier than its scan. -/
lemma offset_le_start_scan (s : Scanner) : s.offset ≤ s.scan.1.start := by
  rw [scan]
  simp only [skipBlank]
  split <;> simp

/-- A token other than the end token has a first character, so the scan ends
behind the token's start. -/
lemma start_lt_offset_scan (s : Scanner) (h : s.scan.1.kind ≠ .eof) :
    s.scan.1.start < s.scan.2.offset := by
  rw [scan] at h ⊢
  simp only [skipBlank] at h ⊢
  split at h
  · simp at h
  · simp only
    omega

/-- The line reached is that of the token. -/
lemma line_snd_scan (s : Scanner) : s.scan.2.line = s.scan.1.line := by
  rw [scan]
  dsimp only
  split <;> rfl

/-! ### The whole stream -/

/-- The end token ends the stream. -/
lemma tokens_of_eof {s : Scanner} (h : s.scan.1.kind = .eof) : s.tokens = [s.scan.1] := by
  rw [tokens, dif_pos h]

/-- Any other token is followed by the stream from behind it. -/
lemma tokens_of_ne {s : Scanner} (h : s.scan.1.kind ≠ .eof) :
    s.tokens = s.scan.1 :: s.scan.2.tokens := by
  rw [tokens, dif_neg h]

/-- What holds of a reading at the end of its text, and before a token if it holds behind
the token, holds of every reading. -/
@[elab_as_elim]
lemma scan_induction {motive : Scanner → Prop}
    (eof : ∀ s : Scanner, s.scan.1.kind = .eof → motive s)
    (token : ∀ s : Scanner, s.scan.1.kind ≠ .eof → motive s.scan.2 → motive s) (s : Scanner) :
    motive s :=
  tokens.induct motive eof token s

/-- There is always a token. -/
lemma tokens_ne_nil (s : Scanner) : s.tokens ≠ [] := by
  by_cases h : s.scan.1.kind = .eof
  · rw [tokens_of_eof h]
    exact List.cons_ne_nil _ _
  · rw [tokens_of_ne h]
    exact List.cons_ne_nil _ _

/-- A stream is tokens and then the only end token, before which they all
start. -/
lemma exists_tokens_eq (s : Scanner) :
    ∃ init eof, s.tokens = init ++ [eof] ∧ eof.kind = .eof ∧ s.offset ≤ eof.start ∧
      ∀ t ∈ init, t.kind ≠ .eof ∧ t.start < eof.start := by
  induction s using scan_induction with
  | eof s heof =>
      exact ⟨[], s.scan.1, tokens_of_eof heof, heof, s.offset_le_start_scan, by simp⟩
  | token s hne ih =>
      obtain ⟨init, eof, htokens, heof, hle, hinit⟩ := ih
      have hstart := s.start_lt_offset_scan hne
      have hoff := s.offset_le_start_scan
      refine ⟨s.scan.1 :: init, eof, ?_, heof, by omega, ?_⟩
      · rw [tokens_of_ne hne, htokens, List.cons_append]
      · intro t ht
        rcases List.mem_cons.mp ht with rfl | ht
        · exact ⟨hne, by omega⟩
        · exact hinit t ht

/-- No token of a stream starts before the place reached. -/
lemma offset_le_of_mem_tokens (s : Scanner) : ∀ t ∈ s.tokens, s.offset ≤ t.start := by
  induction s using scan_induction with
  | eof s heof =>
      intro t ht
      rw [tokens_of_eof heof, List.mem_singleton] at ht
      exact ht ▸ s.offset_le_start_scan
  | token s hne ih =>
      intro t ht
      have hstart := s.offset_le_start_scan
      have hoff := s.start_lt_offset_scan hne
      rw [tokens_of_ne hne, List.mem_cons] at ht
      rcases ht with rfl | ht
      · exact hstart
      · exact (hstart.trans hoff.le).trans (ih t ht)

/-- The tokens of a stream start one behind the other. -/
lemma pairwise_tokens (s : Scanner) : s.tokens.Pairwise fun t u => t.start < u.start := by
  induction s using scan_induction with
  | eof s heof =>
      rw [tokens_of_eof heof]
      exact List.pairwise_singleton _ _
  | token s hne ih =>
      rw [tokens_of_ne hne]
      refine List.pairwise_cons.mpr ⟨fun t ht => ?_, ih⟩
      exact (s.start_lt_offset_scan hne).trans_le (s.scan.2.offset_le_of_mem_tokens t ht)

end Scanner

/-- The tokens of a text are tokens and then the only end token, before which
they all start. -/
lemma exists_tokenize_eq (text : List Char) :
    ∃ init, tokenize text = init ++ [Expr.endToken (tokenize text)] ∧
      (Expr.endToken (tokenize text)).kind = .eof ∧
      ∀ t ∈ init, t.kind ≠ .eof ∧ t.start < (Expr.endToken (tokenize text)).start := by
  obtain ⟨init, eof, htokens, heof, -, hinit⟩ := (Scanner.start text).exists_tokens_eq
  have hlast : Expr.endToken (tokenize text) = eof := by
    rw [tokenize, htokens, Expr.endToken]
    simp
  rw [hlast]
  exact ⟨init, htokens, heof, hinit⟩

/-- The end token takes no part in the grammar. -/
lemma filter_isSignificant_concat {eof : Token} (heof : eof.kind = .eof) (ts : List Token) :
    (ts ++ [eof]).filter Token.isSignificant = ts.filter Token.isSignificant := by
  simp [List.filter_append, Token.isSignificant, heof]

/-! ### Sentences -/

/-- `IsSentence tokens ts`: without its comments, the stream `tokens` is `ts`
and an end token. -/
def IsSentence (tokens ts : List Token) : Prop :=
  ∃ eof : Token, eof.kind = .eof ∧ tokens.filter (fun t => t.kind ≠ .comment) = ts ++ [eof]

/-- A stream has at most one sentence. -/
lemma IsSentence.unique {tokens ts us : List Token} (ht : IsSentence tokens ts)
    (hu : IsSentence tokens us) : ts = us := by
  obtain ⟨e, -, he⟩ := ht
  obtain ⟨f, -, hf⟩ := hu
  exact (List.append_inj' (he.symm.trans hf) rfl).1

/-- The significant tokens of a text without error tokens are its sentence. -/
lemma isSentence_filter (text : List Char) (h : ∀ t ∈ tokenize text, t.kind ≠ .error) :
    IsSentence (tokenize text) ((tokenize text).filter Token.isSignificant) := by
  obtain ⟨init, htokens, heof, hinit⟩ := exists_tokenize_eq text
  refine ⟨Expr.endToken (tokenize text), heof, ?_⟩
  generalize Expr.endToken (tokenize text) = eof at htokens heof hinit ⊢
  have hsame : init.filter (fun t => t.kind ≠ .comment) = init.filter Token.isSignificant := by
    refine List.filter_congr fun t ht => ?_
    have hne := (hinit t ht).1
    have herr := h t (by rw [htokens]; exact List.mem_append_left _ ht)
    simp [Token.isSignificant, hne, herr]
  rw [htokens, filter_isSignificant_concat heof, List.filter_append, hsame]
  simp [heof]

/-- A sentence of a text is what stands before its end token. -/
lemma IsSentence.filter_eq {text : List Char} {ts : List Token}
    (h : IsSentence (tokenize text) ts) :
    (tokenize text).filter (fun t => t.kind ≠ .comment) =
      ts ++ [Expr.endToken (tokenize text)] := by
  obtain ⟨eof, -, hfilter⟩ := h
  obtain ⟨init, htokens, heof, -⟩ := exists_tokenize_eq text
  have hkept : (tokenize text).filter (fun t => t.kind ≠ .comment) =
      init.filter (fun t => t.kind ≠ .comment) ++ [Expr.endToken (tokenize text)] := by
    conv_lhs => rw [htokens]
    simp [List.filter_append, heof]
  obtain ⟨-, hlast⟩ := List.append_inj' (hfilter.symm.trans hkept) rfl
  rw [hfilter, hlast]

/-! ### What the token reader finds -/

/-- Before the end token of a text, the errors found are all of them. -/
lemma lexicalErrors_endToken (text : List Char) :
    Expr.lexicalErrors (tokenize text) (Expr.endToken (tokenize text)) = [] ↔
      ∀ t ∈ tokenize text, t.kind ≠ .error := by
  obtain ⟨init, htokens, heof, hinit⟩ := exists_tokenize_eq text
  rw [Expr.lexicalErrors, List.map_eq_nil_iff, List.filter_eq_nil_iff]
  constructor
  · intro h t ht herr
    have hmem := ht
    rw [htokens, List.mem_append, List.mem_singleton] at hmem
    rcases hmem with hmem | rfl
    · exact h t ht (by simp [herr, (hinit t hmem).2])
    · rw [heof] at herr
      cases herr
  · intro h t ht hfound
    have hkind := h t ht
    simp [hkind] at hfound

end ExprMachine

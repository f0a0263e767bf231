import ExprMachine.Proofs.Chunk.Code
import ExprMachine.Proofs.Expr.Recovery

/-!
What is compiled does not depend on where tokens stand.

Two texts whose tokens are alike but for comments compile to the same code and the
same constants, or have the same findings but for their places.

* `Counterparts`: two tokens that stand at the same place of two streams. The tokens
  before them are alike, and so are the errors among these
  (`Counterparts.lexicalErrors_eq`).
* `Diagnostic.content`: a finding without its place.
* `Expr.parseAll_alike`: what is read off two such texts. The parser keeps
  counterparts, so that it meets a fault at one place of both streams and leaves off
  at one place of both.
* `Source.compile_alike`: what follows for sources that compile and for those that
  do not.
-/

namespace ExprMachine

/-- The tokens of a stream but for comments. -/
def uncommented (tokens : List Token) : List Token :=
  tokens.filter fun t => t.kind ≠ .comment

/-- What a finding says, wherever its token stands. -/
def Diagnostic.content (d : Diagnostic) : String × String × Bool :=
  (d.place, d.message, d.lexical)

lemma Diagnostic.content_atToken {t u : Token} (h : t.Alike u) (message : String) :
    (Diagnostic.atToken t message).content = (Diagnostic.atToken u message).content := by
  simp [content, atToken, h.kind, h.lexeme]

/-- Findings that say the same are equally many. -/
lemma isEmpty_of_map_content {ds ds' : List Diagnostic}
    (h : ds.map Diagnostic.content = ds'.map Diagnostic.content) : ds.isEmpty = ds'.isEmpty := by
  rw [← List.isEmpty_map (f := Diagnostic.content), h, List.isEmpty_map]

/-! ### Tokens at the same place -/

/-- `Counterparts ts us t u`: the token `t` stands among the tokens `ts` where `u`
stands among `us`, behind tokens that are alike. -/
def Counterparts (ts us : List Token) (t u : Token) : Prop :=
  ∃ before before' behind behind', ts = before ++ t :: behind ∧ us = before' ++ u :: behind' ∧
    List.Forall₂ Token.Alike before before' ∧ t.Alike u

lemma Counterparts.alike {ts us : List Token} {t u : Token} (h : Counterparts ts us t u) :
    t.Alike u := by
  obtain ⟨-, -, -, -, -, -, -, halike⟩ := h
  exact halike

/-- Tokens that are alike one by one are counterparts one by one. -/
lemma forall₂_counterparts {ts us : List Token} (h : List.Forall₂ Token.Alike ts us) :
    List.Forall₂ (Counterparts ts us) ts us := by
  -- what has been passed is carried along on both sides
  have key : ∀ before before' : List Token, List.Forall₂ Token.Alike before before' →
      List.Forall₂ (Counterparts (before ++ ts) (before' ++ us)) ts us := by
    induction h with
    | nil => exact fun _ _ _ => .nil
    | @cons t u ts us halike _ ih =>
        intro before before' hbefore
        refine .cons ⟨before, before', ts, us, rfl, rfl, hbefore, halike⟩ ?_
        have hrest := ih (before ++ [t]) (before' ++ [u])
          (List.rel_append hbefore (.cons halike .nil))
        simpa using hrest
  exact key [] [] .nil

/-- The errors before a token are those among the tokens that it stands behind. -/
lemma lexicalErrors_of_eq {text : List Char} {before behind : List Token} {t : Token}
    (h : uncommented (tokenize text) = before ++ t :: behind) :
    Expr.lexicalErrors (tokenize text) t =
      (before.filter fun u => u.kind = .error).map .ofErrorToken := by
  have hpairwise : (before ++ t :: behind).Pairwise fun t u => t.start < u.start := by
    rw [← h]
    exact ((Scanner.start text).pairwise_tokens).filter _
  obtain ⟨-, hbehind, hbefore⟩ := List.pairwise_append.mp hpairwise
  have hcomment : (tokenize text).filter (fun u => u.kind = .error ∧ u.start < t.start) =
      (uncommented (tokenize text)).filter (fun u => u.kind = .error ∧ u.start < t.start) := by
    rw [uncommented, List.filter_filter]
    refine List.filter_congr fun u _ => ?_
    by_cases herr : u.kind = .error <;> simp [herr]
  have hleft : before.filter (fun u => u.kind = .error ∧ u.start < t.start) =
      before.filter fun u => u.kind = .error := by
    refine List.filter_congr fun u hu => ?_
    simp [hbefore u hu t List.mem_cons_self]
  have hright : (t :: behind).filter (fun u => u.kind = .error ∧ u.start < t.start) = [] := by
    refine List.filter_eq_nil_iff.mpr fun u hu => ?_
    have hle : t.start ≤ u.start := by
      rcases List.mem_cons.mp hu with rfl | hu
      · exact le_rfl
      · exact ((List.pairwise_cons.mp hbehind).1 u hu).le
    simp [hle]
  rw [Expr.lexicalErrors, hcomment, h, List.filter_append, hleft, hright, List.append_nil]

/-- The errors among tokens that are alike say the same. -/
lemma map_content_errors {ts us : List Token} (h : List.Forall₂ Token.Alike ts us) :
    ((ts.filter fun t => t.kind = .error).map Diagnostic.ofErrorToken).map Diagnostic.content =
      ((us.filter fun t => t.kind = .error).map Diagnostic.ofErrorToken).map
        Diagnostic.content := by
  induction h with
  | nil => rfl
  | @cons t u ts us halike _ ih =>
      have hcontent :
          (Diagnostic.ofErrorToken t).content = (Diagnostic.ofErrorToken u).content := by
        simp [Diagnostic.content, Diagnostic.ofErrorToken, halike.lexeme]
      by_cases herr : u.kind = .error
      · simpa [List.filter_cons, halike.kind, herr, hcontent] using ih
      · simpa [List.filter_cons, halike.kind, herr] using ih

/-- Before counterparts, the token reader finds the same errors. -/
lemma Counterparts.lexicalErrors_eq {text text' : List Char} {t u : Token}
    (h : Counterparts (uncommented (tokenize text)) (uncommented (tokenize text')) t u) :
    (Expr.lexicalErrors (tokenize text) t).map Diagnostic.content =
      (Expr.lexicalErrors (tokenize text') u).map Diagnostic.content := by
  obtain ⟨before, before', behind, behind', hts, hus, hbefore, -⟩ := h
  rw [lexicalErrors_of_eq hts, lexicalErrors_of_eq hus, map_content_errors hbefore]

/-- The end tokens of two streams that are alike are counterparts. -/
lemma counterparts_endToken {text text' : List Char}
    (h : List.Forall₂ Token.Alike (uncommented (tokenize text)) (uncommented (tokenize text'))) :
    Counterparts (uncommented (tokenize text)) (uncommented (tokenize text'))
      (Expr.endToken (tokenize text)) (Expr.endToken (tokenize text')) := by
  have hends : ∀ text, ∃ init, uncommented (tokenize text) =
      init ++ [Expr.endToken (tokenize text)] := by
    intro text
    obtain ⟨init, htokens, heof, -⟩ := exists_tokenize_eq text
    refine ⟨uncommented init, ?_⟩
    conv_lhs => rw [htokens]
    simp [uncommented, List.filter_append, heof]
  obtain ⟨init, hinit⟩ := hends text
  obtain ⟨init', hinit'⟩ := hends text'
  have hcounterparts := List.forall₂_reverse_iff.mpr (forall₂_counterparts h)
  generalize Counterparts _ _ = R at hcounterparts ⊢
  rw [hinit, hinit', List.reverse_concat, List.reverse_concat] at hcounterparts
  exact (List.forall₂_cons.mp hcounterparts).1

/-- The tokens that take part in the grammar are no comments. -/
lemma filter_isSignificant_uncommented (tokens : List Token) :
    (uncommented tokens).filter Token.isSignificant = tokens.filter Token.isSignificant := by
  rw [uncommented, List.filter_filter]
  refine List.filter_congr fun t _ => ?_
  by_cases hk : t.kind = .comment <;> simp [Token.isSignificant, hk]

/-! ### What is read -/

namespace Expr

open Parsed

/-- Two texts whose tokens are alike but for comments have one tree but for the lines,
or the same findings but for their places. -/
lemma parseAll_alike {text text' : List Char}
    (h : List.Forall₂ Token.Alike (uncommented (tokenize text)) (uncommented (tokenize text'))) :
    (∃ e e', parseAll (tokenize text) = .ok e ∧ parseAll (tokenize text') = .ok e' ∧
        e.unplaced = e'.unplaced) ∨
      ∃ ds ds', parseAll (tokenize text) = .error ds ∧ parseAll (tokenize text') = .error ds' ∧
        ds.map Diagnostic.content = ds'.map Diagnostic.content := by
  set R := Counterparts (uncommented (tokenize text)) (uncommented (tokenize text')) with hR
  have halike : ∀ t u, R t u → t.Alike u := fun _ _ h => h.alike
  have heof : R (endToken (tokenize text)) (endToken (tokenize text')) := counterparts_endToken h
  have hsignificant := forall₂_filter_isSignificant halike (forall₂_counterparts h)
  rw [filter_isSignificant_uncommented, filter_isSignificant_uncommented] at hsignificant
  have hparse := parseTokens_corresponds halike heof hsignificant
  have hresult := hparse.result
  -- errors are found as far as both parses have read
  have hlexical := (current_related heof hparse.rest).lexicalErrors_eq
  rw [parseAll, parseAll]
  generalize (parseTokens (endToken (tokenize text))
    ((tokenize text).filter Token.isSignificant)).result = result at hresult ⊢
  generalize (parseTokens (endToken (tokenize text'))
    ((tokenize text').filter Token.isSignificant)).result = result' at hresult ⊢
  cases hresult with
  | @ok e e' he =>
      simp only [isEmpty_of_map_content hlexical]
      split_ifs
      · exact .inl ⟨e, e', rfl, rfl, he⟩
      · exact .inr ⟨_, _, rfl, rfl, hlexical⟩
  | error message htoken hahead =>
      refine .inr ?_
      simp only [isEmpty_of_map_content hahead.lexicalErrors_eq]
      split_ifs
      · refine ⟨_, _, rfl, rfl, ?_⟩
        rw [List.map_cons, List.map_cons, hlexical, Diagnostic.content_atToken htoken.alike]
      · exact ⟨_, _, rfl, rfl, hlexical⟩

end Expr

/-! ### What is compiled -/

open ExprMachine.Expr

/-- **Only the kinds and the texts of tokens are compiled**: two sources whose tokens
agree in these, comments apart, both compile or both do not. If they do, they have the
same code and the same constants, and the two chunks yield the same value or fail for
the same mismatch of operands. If they do not, they have the same findings, each with
the same wording of its place, the same message and the same origin. -/
theorem Source.compile_alike (s s' : Source)
    (h : ((tokenize s.text).filter fun t => t.kind ≠ .comment).map Token.content =
      ((tokenize s'.text).filter fun t => t.kind ≠ .comment).map Token.content) :
    (∃ c c', s.compile = .ok c ∧ s'.compile = .ok c' ∧ c.code = c'.code ∧
        c.constants = c'.constants ∧
        ((∃ v, c.evaluate = .ok v ∧ c'.evaluate = .ok v) ∨
          ∃ m line line', c.evaluate = .error ⟨.mismatch m, line⟩ ∧
            c'.evaluate = .error ⟨.mismatch m, line'⟩)) ∨
      ∃ ds ds', s.compile = .error ds ∧ s'.compile = .error ds' ∧
        ds.map (fun d => (d.place, d.message, d.lexical)) =
          ds'.map fun d => (d.place, d.message, d.lexical) := by
  obtain ⟨e, e', he, he', hsame⟩ | ⟨ds, ds', hds, hds', hsame⟩ :=
    parseAll_alike (forall₂_alike_of_map_content h)
  · refine .inl ⟨_, _, Source.compile_eq_ok_iff.mpr ⟨e, he, rfl⟩,
      Source.compile_eq_ok_iff.mpr ⟨e', he', rfl⟩, ?_, ?_, ?_⟩
    · rw [← Array.toList_inj, code_assemble, code_assemble, ← e.code_unplaced, hsame,
        e'.code_unplaced]
    · rw [constants_assemble, constants_assemble, ← e.literals_unplaced, hsame,
        e'.literals_unplaced]
    · rw [e.evaluate_assemble _ (length_literals_le he),
        e'.evaluate_assemble _ (length_literals_le he')]
      obtain ⟨v, hv, hv'⟩ | ⟨m, line, line', hv, hv'⟩ := eval_of_unplaced_eq hsame
      · rw [hv, hv']
        exact .inl ⟨v, rfl, rfl⟩
      · rw [hv, hv']
        exact .inr ⟨m, _, _, rfl, rfl⟩
  · exact .inr ⟨ds, ds', Source.compile_eq_error_iff.mpr hds,
      Source.compile_eq_error_iff.mpr hds', hsame⟩

/-- A difference that fails, on one line and on three with a comment: the failure is
found on another line, for the same reason. -/
theorem Source.compile_alike_difference :
    ((tokenize (Source.ofString "-nil - 1").text).filter fun t => t.kind ≠ .comment).map
        Token.content =
      ((tokenize (Source.ofString "// a\n-nil // b\n-1").text).filter fun t =>
        t.kind ≠ .comment).map Token.content ∧
    ∃ c c', (Source.ofString "-nil - 1").compile = .ok c ∧
      (Source.ofString "// a\n-nil // b\n-1").compile = .ok c' ∧ c.lines ≠ c'.lines ∧
      c.code = c'.code ∧
      ∃ m line line', c.evaluate = .error ⟨.mismatch m, line⟩ ∧
        c'.evaluate = .error ⟨.mismatch m, line'⟩ := by
  have h : ((tokenize (Source.ofString "-nil - 1").text).filter fun t =>
        t.kind ≠ .comment).map Token.content =
      ((tokenize (Source.ofString "// a\n-nil // b\n-1").text).filter fun t =>
        t.kind ≠ .comment).map Token.content := by decide +kernel
  have hc : (Source.ofString "-nil - 1").compile =
      .ok ⟨#[1, 0, 2, 1, 1, 4, 0], #[1, 1, 1, 1, 1, 1, 1], #[.nil, .number 1]⟩ := by decide +kernel
  have hc' : (Source.ofString "// a\n-nil // b\n-1").compile =
      .ok ⟨#[1, 0, 2, 1, 1, 4, 0], #[2, 2, 2, 3, 3, 3, 3], #[.nil, .number 1]⟩ := by decide +kernel
  refine ⟨h, _, _, hc, hc', by decide, ?_⟩
  obtain ⟨c, c', h₁, h₂, hcode, -, hrun⟩ | ⟨ds, -, hds, -⟩ := Source.compile_alike _ _ h
  · obtain rfl := Except.ok.inj (hc.symm.trans h₁)
    obtain rfl := Except.ok.inj (hc'.symm.trans h₂)
    have hfails : (Chunk.evaluate ⟨#[1, 0, 2, 1, 1, 4, 0], #[1, 1, 1, 1, 1, 1, 1],
        #[.nil, .number 1]⟩).toOption = none := by decide +kernel
    refine ⟨hcode, hrun.resolve_left ?_⟩
    rintro ⟨v, hv, -⟩
    rw [hv] at hfails
    cases hfails
  · rw [hc] at hds
    cases hds

end ExprMachine

import ExprMachine.Proofs.Expr.Alike

/-!
What is found in a text that is not read.

* `Parsed.ReadsOn`: a parse leaves off behind its tokens, and its fault was met no further
  on. Each way to go on with a parse keeps this.
* `Expr.parse_climb_readsOn`: the parser keeps it, by the parser's own induction.
* `Expr.parseAll_error_tokens`: there is something to be found, and each finding is about
  one of the tokens of the text.
-/

namespace ExprMachine

namespace Parsed

/-- `ReadsOn eof ts p`: before the tokens `ts`, the parse `p` has left some of them, and if
it has met a fault, then at a place from which it has read on, if at all. -/
structure ReadsOn (eof : Token) (ts : List Token) (p : Parsed) : Prop where
  rest_suffix : p.rest <:+ ts
  fault_ahead : ∀ f, p.result = .error f →
    ∃ us, us <:+ ts ∧ p.rest <:+ us ∧ f.lookahead = current eof us

variable {eof t : Token} {n : ℕ} {ts us : List Token} {p q : Parsed}

lemma ReadsOn.mono (h : ReadsOn eof us p) (hsuffix : us <:+ ts) : ReadsOn eof ts p := by
  refine ⟨h.rest_suffix.trans hsuffix, fun f hf => ?_⟩
  obtain ⟨vs, hvs, hrest, hahead⟩ := h.fault_ahead f hf
  exact ⟨vs, hvs.trans hsuffix, hrest, hahead⟩

lemma readsOn_faultBefore (eof t : Token) (message : String) (n : ℕ) (ts : List Token) :
    ReadsOn eof ts (faultBefore eof t message n ts) := by
  refine ⟨List.suffix_rfl, fun f hf => ⟨ts, List.suffix_rfl, List.suffix_rfl, ?_⟩⟩
  rw [← Except.error.inj hf]

lemma readsOn_ofLiteral (eof t : Token) (v : Except String Value) (n : ℕ) (ts : List Token) :
    ReadsOn eof ts (ofLiteral eof t v n ts) := by
  cases v with
  | error message => exact readsOn_faultBefore _ _ _ _ _
  | ok v =>
      rw [ofLiteral]
      split_ifs
      · exact ⟨List.suffix_rfl, fun f hf => by cases hf⟩
      · exact readsOn_faultBefore _ _ _ _ _

/-- A fault at the next token, where there is none yet. -/
lemma ReadsOn.faultAt (h : ReadsOn eof ts p) (ht : t = current eof p.rest) (message : String) :
    ReadsOn eof ts { p with result := p.result.bind fun _ => .error ⟨t, message, t⟩ } := by
  refine ⟨h.rest_suffix, fun f hf => ?_⟩
  cases hp : p.result with
  | error g =>
      simp only [hp] at hf
      obtain rfl : g = f := Except.error.inj hf
      exact h.fault_ahead g hp
  | ok e =>
      simp only [hp] at hf
      refine ⟨p.rest, h.rest_suffix, List.suffix_rfl, ?_⟩
      rw [← Except.error.inj hf, ht]

lemma ReadsOn.closeParen (h : ReadsOn eof ts p) : ReadsOn eof ts (closeParen eof p) := by
  unfold Parsed.closeParen
  split
  · rename_i t us hrest
    split_ifs
    · refine ⟨?_, fun f hf => ?_⟩
      · exact (List.suffix_cons t us).trans (hrest ▸ h.rest_suffix)
      · obtain ⟨vs, hvs, hsuffix, hahead⟩ := h.fault_ahead f hf
        exact ⟨vs, hvs, (List.suffix_cons t us).trans (hrest ▸ hsuffix), hahead⟩
    · exact h.faultAt (by rw [hrest]; rfl) _
  · rename_i hrest
    exact h.faultAt (by rw [hrest]; rfl) _

lemma ReadsOn.applyUnary (op : UnaryOp) (line : ℕ) (h : ReadsOn eof ts p) :
    ReadsOn eof ts (applyUnary op line p) := by
  refine ⟨h.rest_suffix, fun f hf => ?_⟩
  cases hp : p.result with
  | error g =>
      simp only [Parsed.applyUnary, hp] at hf
      obtain rfl : g = f := Except.error.inj hf
      exact h.fault_ahead g hp
  | ok e =>
      simp only [Parsed.applyUnary, hp] at hf
      cases hf

lemma ReadsOn.applyBinary (op : BinaryOp) (line : ℕ) (hp : ReadsOn eof ts p)
    (hrest : p.rest = t :: us) (hq : ReadsOn eof us q) :
    ReadsOn eof ts (applyBinary op line p q) := by
  have hus : us <:+ p.rest := hrest ▸ List.suffix_cons t us
  refine ⟨(hq.rest_suffix.trans hus).trans hp.rest_suffix, fun f hf => ?_⟩
  cases hresult : p.result with
  | error g =>
      simp only [Parsed.applyBinary, hresult] at hf
      obtain rfl : g = f := Except.error.inj hf
      obtain ⟨vs, hvs, hsuffix, hahead⟩ := hp.fault_ahead g hresult
      exact ⟨vs, hvs, (hq.rest_suffix.trans hus).trans hsuffix, hahead⟩
  | ok a =>
      cases hresult' : q.result with
      | error g =>
          simp only [Parsed.applyBinary, hresult, hresult'] at hf
          obtain rfl : g = f := Except.error.inj hf
          exact (hq.mono (hus.trans hp.rest_suffix)).fault_ahead g hresult'
      | ok b =>
          simp only [Parsed.applyBinary, hresult, hresult'] at hf
          cases hf

end Parsed

namespace Expr

open Parsed

/-- The parser reads on from where it has met a fault. -/
lemma parse_climb_readsOn (eof : Token) :
    (∀ level n ts, ReadsOn eof ts (parse eof level n ts).val) ∧
      ∀ level left, ∀ ts, ReadsOn eof ts left → ReadsOn eof ts (climb eof level left).val := by
  refine parse_climb_induction eof (P := fun _ _ ts p => ReadsOn eof ts p)
    (C := fun _ left p => ∀ ts, ReadsOn eof ts left → ReadsOn eof ts p) ?_ ?_ ?_ ?_ ?_ ?_ ?_
  · -- no token is left
    intro level n
    exact readsOn_faultBefore _ _ _ _ _
  · -- an opening parenthesis
    intro level n t ts inner whole _ hinner hwhole
    exact hwhole _ (hinner.closeParen.mono (List.suffix_cons t ts))
  · -- a sign
    intro level n t ts op inner whole _ hinner hwhole
    exact hwhole _ ((hinner.applyUnary op _).mono (List.suffix_cons t ts))
  · -- a literal
    intro level n t ts v whole _ hwhole
    exact hwhole _ ((readsOn_ofLiteral eof t v n ts).mono (List.suffix_cons t ts))
  · -- any other token
    intro level n t ts _ _ _
    exact (readsOn_faultBefore _ _ _ _ _).mono (List.suffix_cons t ts)
  · -- the loop stops
    intro level left _ ts h
    exact h
  · -- the loop before an operator that is strong enough
    intro level result n t us op right whole _ _ hright hwhole ts h
    exact hwhole ts (h.applyBinary op t.line rfl hright)

lemma readsOn_parseTokens (eof : Token) (ts : List Token) :
    ReadsOn eof ts (parseTokens eof ts) := by
  have hparse := (parse_climb_readsOn eof).1 1 0 ts
  unfold parseTokens
  dsimp only
  split
  · exact hparse
  · rename_i t us hrest
    exact hparse.faultAt (by rw [hrest]; rfl) _

/-! ### Findings -/

/-- Where tokens start one behind the other, the next token starts no earlier after more of
them have been read. -/
lemma start_current_le {eof : Token} {us vs : List Token} (hsuffix : us <:+ vs)
    (h : (vs ++ [eof]).Pairwise fun t u => t.start < u.start) :
    (current eof vs).start ≤ (current eof us).start := by
  obtain ⟨before, rfl⟩ := hsuffix
  cases before with
  | nil => exact le_rfl
  | cons t before =>
      rw [List.cons_append, List.cons_append] at h
      refine ((List.pairwise_cons.mp h).1 _ ?_).le
      cases us with
      | nil => exact List.mem_append_right _ List.mem_cons_self
      | cons u us => simp [current]

/-- The tokens of a text that take part in the grammar, and the end token behind them. -/
lemma sublist_tokenize (text : List Char) :
    ((tokenize text).filter Token.isSignificant ++ [endToken (tokenize text)]).Sublist
      (tokenize text) := by
  obtain ⟨init, htokens, heof, -⟩ := exists_tokenize_eq text
  generalize endToken (tokenize text) = eof at htokens heof ⊢
  rw [htokens, filter_isSignificant_concat heof]
  exact List.filter_sublist.append_right [eof]

/-- The errors before a token are found before a later one. -/
lemma lexicalErrors_ne_nil {tokens : List Token} {t u : Token} (hle : t.start ≤ u.start)
    (h : lexicalErrors tokens t ≠ []) : lexicalErrors tokens u ≠ [] := by
  obtain ⟨d, hd⟩ := List.exists_mem_of_ne_nil _ h
  obtain ⟨v, hv, rfl⟩ := List.mem_map.mp hd
  simp only [List.mem_filter, decide_eq_true_eq] at hv
  refine List.ne_nil_of_mem (List.mem_map.mpr ⟨v, List.mem_filter.mpr ⟨hv.1, ?_⟩, rfl⟩)
  exact decide_eq_true ⟨hv.2.1, hv.2.2.trans_le hle⟩

/-- A text that is not read has findings, and each is about one of its tokens. -/
lemma parseAll_error_tokens {text : List Char} {ds : List Diagnostic}
    (h : parseAll (tokenize text) = .error ds) :
    ds ≠ [] ∧ ∀ d ∈ ds, ∃ t ∈ tokenize text, d.start = t.start ∧ d.length = t.length := by
  set eof := endToken (tokenize text)
  set ts := (tokenize text).filter Token.isSignificant
  have hsublist : (ts ++ [eof]).Sublist (tokenize text) := sublist_tokenize text
  have hlexical : ∀ before, ∀ d ∈ lexicalErrors (tokenize text) before,
      ∃ t ∈ tokenize text, d.start = t.start ∧ d.length = t.length := by
    intro before d hd
    obtain ⟨t, ht, rfl⟩ := List.mem_map.mp hd
    exact ⟨t, (List.mem_filter.mp ht).1, rfl, rfl⟩
  obtain ⟨e, -, hne, rfl⟩ | ⟨fault, hresult, ⟨-, rfl⟩ | ⟨hne, rfl⟩⟩ := parseAll_eq_error h
  · exact ⟨hne, hlexical _⟩
  · have hfault : fault.token ∈ tokenize text :=
      token_of_parseTokens_error (hsublist.subset (List.mem_append_right ts List.mem_cons_self))
        (fun t ht => (List.mem_filter.mp ht).1) hresult
    refine ⟨List.cons_ne_nil _ _, fun d hd => ?_⟩
    rcases List.mem_cons.mp hd with rfl | hd
    · exact ⟨fault.token, hfault, rfl, rfl⟩
    · exact hlexical _ d hd
  · -- the error that hides the fault stands before the place where the parse leaves off
    obtain ⟨us, hus, hrest, hahead⟩ := (readsOn_parseTokens eof ts).fault_ahead fault hresult
    have hpairwise := ((Scanner.start text).pairwise_tokens).sublist hsublist
    have hle := start_current_le hrest (hpairwise.sublist (hus.sublist.append_right [eof]))
    rw [← hahead] at hle
    exact ⟨lexicalErrors_ne_nil hle hne, hlexical _⟩

end Expr

end ExprMachine

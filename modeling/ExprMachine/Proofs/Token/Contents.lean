import ExprMachine.Proofs.Token.Newline

/-!
What the tokens of a text say, apart from where they stand.

* `Token.content`, `Token.Alike`: the kind and the text of a token; tokens that agree
  in these.
* `contents`: what the tokens of a text say, one after the other. It is told from the
  characters that are left, whatever has been read before
  (`Scanner.map_content_tokens`, `contents_of_cons`).
* `contents_append_newline`: where a text without errors ends, and a newline behind
  it, the reading starts afresh.
* `contents_append_leftParen`, `contents_of_matches`: an operator before a parenthesis,
  and a text that is one token, are read as they are.
-/

namespace ExprMachine

namespace Token

/-- What a token says, wherever it stands. -/
def content (t : Token) : Kind × String :=
  (t.kind, t.lexeme)

/-- `t.Alike u`: the tokens `t` and `u` are of one kind and have one text, wherever
they stand. -/
structure Alike (t u : Token) : Prop where
  kind : t.kind = u.kind
  lexeme : t.lexeme = u.lexeme

lemma alike_iff {t u : Token} : t.Alike u ↔ t.content = u.content := by
  rw [content, content, Prod.mk.injEq]
  exact ⟨fun h => ⟨h.kind, h.lexeme⟩, fun h => ⟨h.1, h.2⟩⟩

end Token

/-- Lists of tokens that say the same are alike token by token. -/
lemma forall₂_alike_of_map_content {ts us : List Token}
    (h : ts.map Token.content = us.map Token.content) : List.Forall₂ Token.Alike ts us := by
  have hmap : List.Forall₂ Eq (ts.map Token.content) (us.map Token.content) := by
    rw [h]
    exact List.forall₂_refl _
  rw [List.forall₂_map_left_iff, List.forall₂_map_right_iff] at hmap
  exact hmap.imp fun _ _ => Token.alike_iff.mpr

/-- What the tokens of a text say. -/
def contents (text : List Char) : List (Token.Kind × String) :=
  (tokenize text).map Token.content

open Token

/-! ### Reading on -/

/-- What is read is told by what is left but for blanks. -/
lemma Scanner.map_content_tokens (s : Scanner) : ∀ s' : Scanner,
    s.rest.dropWhile isBlank = s'.rest.dropWhile isBlank →
      s.tokens.map Token.content = s'.tokens.map Token.content := by
  induction s using scan_induction with
  | eof s heof =>
      intro s' h
      have hrest := kind_scan_eq_eof_iff.mp heof
      have hrest' : s'.rest.dropWhile isBlank = [] := h ▸ hrest
      rw [tokens_of_eof heof, tokens_of_eof (kind_scan_eq_eof_iff.mpr hrest'),
        scan_of_nil hrest, scan_of_nil hrest']
      rfl
  | token s hne ih =>
      intro s' h
      obtain ⟨c, cs, hrest⟩ := exists_cons_of_kind_ne hne
      have hscan := scan_of_cons hrest
      have hscan' := scan_of_cons (h ▸ hrest : s'.rest.dropWhile isBlank = c :: cs)
      have hne' : s'.scan.1.kind ≠ .eof := by
        rw [hscan']
        exact lex_kind_ne_eof c cs
      have hrests : s.scan.2.rest = s'.scan.2.rest := by rw [hscan, hscan']
      rw [tokens_of_ne hne, tokens_of_ne hne', List.map_cons, List.map_cons,
        ih s'.scan.2 (congrArg _ hrests), hscan, hscan']
      rfl

variable {c : Char} {cs ds : List Char}

/-- Blanks alone are followed by the end. -/
lemma contents_of_nil (h : cs.dropWhile isBlank = []) : contents cs = [(.eof, "")] := by
  have hscan := Scanner.scan_of_nil (s := .start cs) h
  rw [contents, tokenize, Scanner.tokens_of_eof (by rw [hscan]), hscan]
  rfl

lemma contents_nil : contents [] = [(.eof, "")] := contents_of_nil rfl

/-- The first token is the one that the first character opens, and the others are read
from behind it. -/
lemma contents_of_cons (h : cs.dropWhile isBlank = c :: ds) :
    contents cs =
      ((lex c ds).kind, (lex c ds).lexeme) :: contents (ds.drop (lex c ds).further) := by
  have hscan := Scanner.scan_of_cons (s := .start cs) h
  have hne : (Scanner.start cs).scan.1.kind ≠ .eof := by
    rw [hscan]
    exact lex_kind_ne_eof c ds
  have hrest : (Scanner.start cs).scan.2.tokens.map Token.content =
      contents (ds.drop (lex c ds).further) :=
    Scanner.map_content_tokens _ _ (by rw [hscan]; rfl)
  rw [contents, tokenize, Scanner.tokens_of_ne hne, List.map_cons, hrest, hscan]
  rfl

/-- The end token has no text. -/
lemma Scanner.lexeme_of_eof (s : Scanner) : ∀ t ∈ s.tokens, t.kind = .eof → t.lexeme = "" := by
  induction s using scan_induction with
  | eof s heof =>
      intro t ht _
      rw [tokens_of_eof heof, List.mem_singleton] at ht
      rw [ht, scan_of_nil (kind_scan_eq_eof_iff.mp heof)]
  | token s hne ih =>
      intro t ht heof
      rw [tokens_of_ne hne, List.mem_cons] at ht
      rcases ht with rfl | ht
      · exact absurd heof hne
      · exact ih t ht heof

/-- A text says what its tokens before the end say, and then that it ends. -/
lemma exists_contents_eq (text : List Char) :
    ∃ init, tokenize text = init ++ [Expr.endToken (tokenize text)] ∧
      (Expr.endToken (tokenize text)).kind = .eof ∧
      contents text = init.map Token.content ++ [(.eof, "")] := by
  obtain ⟨init, htokens, heof, -⟩ := exists_tokenize_eq text
  generalize Expr.endToken (tokenize text) = eof at htokens heof ⊢
  have hmem : eof ∈ tokenize text := htokens ▸ List.mem_append_right _ List.mem_cons_self
  have hlexeme := (Scanner.start text).lexeme_of_eof eof hmem heof
  refine ⟨init, htokens, heof, ?_⟩
  rw [contents, htokens, List.map_append, List.map_singleton, content, heof, hlexeme]

/-! ### Behind the end of a line -/

/-- **Behind a text without errors, a newline lets the reading start afresh**: the tokens
of the text are followed by those of what stands behind the newline. -/
lemma contents_append_newline {ps : List (Kind × String)} (h : contents cs = ps ++ [(.eof, "")])
    (herr : ∀ p ∈ ps, p.1 ≠ .error) (rest : List Char) :
    contents (cs ++ '\n' :: rest) = ps ++ contents rest := by
  obtain ⟨init, htokens, heof, hcontents⟩ := exists_contents_eq cs
  obtain rfl : init.map Token.content = ps := List.append_cancel_right (hcontents.symm.trans h)
  have hclosed : ∀ t ∈ tokenize cs, ¬ t.kind.IsUnterminated t.lexeme := by
    intro t ht hopen
    rw [htokens, List.mem_append, List.mem_singleton] at ht
    rcases ht with ht | rfl
    · exact herr _ (List.mem_map_of_mem ht) hopen.1
    · rw [heof] at hopen
      cases hopen.1
  have hinit : (tokenize cs).dropLast = init := by rw [htokens, List.dropLast_concat]
  rw [contents, tokenize_append_newline hclosed, hinit, List.map_append, List.map_map]
  rfl

/-! ### Single tokens -/

/-- A character that is a token of its own is the first token. -/
lemma contents_cons_mark {k : Kind} (hblank : isBlank c = false)
    (hlex : lex c cs = verbatim k c cs 0) :
    contents (c :: cs) = (k, String.ofList [c]) :: contents cs := by
  have hcons : (c :: cs).dropWhile isBlank = c :: cs :=
    List.dropWhile_cons_of_neg (by simp [hblank])
  rw [contents_of_cons hcons, hlex]
  rfl

lemma contents_cons_leftParen (cs : List Char) :
    contents ('(' :: cs) = (.leftParen, "(") :: contents cs :=
  contents_cons_mark rfl rfl

lemma contents_cons_rightParen (cs : List Char) :
    contents (')' :: cs) = (.rightParen, ")") :: contents cs :=
  contents_cons_mark rfl rfl

lemma contents_cons_minus (cs : List Char) :
    contents ('-' :: cs) = (.minus, "-") :: contents cs :=
  contents_cons_mark rfl rfl

/-! ### Operators -/

lemma mem_symbols_of_unary {k : Kind} {op : UnaryOp} (h : UnaryOp.ofKind? k = some op) :
    (k, k.name.toList) ∈ symbols := by
  simp only [UnaryOp.ofKind?] at h
  split at h <;> cases h <;> decide

lemma mem_symbols_of_binary {k : Kind} {op : BinaryOp} (h : BinaryOp.ofKind? k = some op) :
    (k, k.name.toList) ∈ symbols := by
  simp only [BinaryOp.ofKind?] at h
  split at h <;> cases h <;> decide

/-- An operator or a punctuation mark is read as it is before an opening parenthesis. -/
lemma lex_of_mem_symbols {p : Kind × List Char} (hp : p ∈ symbols) (rest : List Char) :
    ∃ c cs, p.2 = c :: cs ∧ isBlank c = false ∧
      lex c (cs ++ '(' :: rest) = ⟨p.1, String.ofList p.2, cs.length⟩ := by
  unfold symbols at hp
  fin_cases hp
  all_goals exact ⟨_, _, rfl, rfl, rfl⟩

/-- So it is the first token there. -/
lemma contents_append_leftParen {k : Kind} {w : List Char} (h : (k, w) ∈ symbols)
    (rest : List Char) :
    contents (w ++ '(' :: rest) = (k, String.ofList w) :: contents ('(' :: rest) := by
  obtain ⟨c, cs, hw, hblank, hlex⟩ := lex_of_mem_symbols h rest
  obtain rfl : w = c :: cs := hw
  have hcons : (c :: cs ++ '(' :: rest).dropWhile isBlank = c :: (cs ++ '(' :: rest) :=
    List.dropWhile_cons_of_neg (by simp [hblank])
  rw [contents_of_cons hcons, hlex, List.drop_left]

/-- A blank opens no token. -/
lemma lex_of_isBlank (h : isBlank c = true) (cs : List Char) : (lex c cs).kind = .error := by
  simp only [isBlank, decide_eq_true_eq] at h
  rcases h with rfl | rfl | rfl | rfl <;> rfl

lemma matches_ne_nil {k : Kind} {w : List Char} (h : Matches k w) : w ≠ [] := by
  cases h with
  | digits hne _ => exact hne
  | fraction _ _ _ _ => simp
  | keyword k => cases k <;> decide
  | identifier _ _ _ => simp
  | symbol h =>
      have hall : ∀ p ∈ symbols, p.2 ≠ [] := by decide
      exact hall _ h
  | comment _ => simp
  | string _ => simp

/-- A text that is written as one token, and that is shown as it is written, is that
token. -/
lemma contents_of_matches {k : Kind} {w : List Char} (h : Matches k w)
    (hk : ∀ lexeme, k.written? lexeme = some lexeme.toList) :
    contents w = [(k, String.ofList w), (.eof, "")] := by
  obtain ⟨c, cs, rfl⟩ := List.exists_cons_of_ne_nil (matches_ne_nil h)
  have hlongest : LongestMatch (c :: cs) k (c :: cs) :=
    ⟨h, List.prefix_rfl, fun _ _ _ hp => hp.length_le⟩
  obtain ⟨hkind, hlength⟩ := lex_of_longestMatch hlongest
  have hfurther : (lex c cs).further = cs.length := by simpa using hlength
  have hblank : isBlank c ≠ true := fun hblank =>
    (lex_of_matches h List.prefix_rfl).kind_ne (lex_of_isBlank hblank cs)
  have hlexeme : (lex c cs).lexeme.toList = c :: cs := by
    have hwritten := eq_of_written?_lex (hkind.symm ▸ hk (lex c cs).lexeme)
    rwa [hfurther, List.take_length] at hwritten
  rw [contents_of_cons (List.dropWhile_cons_of_neg hblank), hkind, hfurther,
    List.drop_length, contents_nil, ← hlexeme, String.ofList_toList]

end ExprMachine

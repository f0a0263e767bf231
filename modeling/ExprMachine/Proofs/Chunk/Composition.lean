import ExprMachine.Proofs.Chunk.Code
import ExprMachine.Proofs.Text.Utf8

/-!
The code of a source that is put together from others.

A source in parentheses, with a newline before the closing one so that a comment ends,
is read as it is read alone. So an operator before it or between two of them adds one
byte to the code, and the constants of the second are numbered behind those of the
first.

* `Sentence`: tokens that can be compiled, with their tree; `Sentence.group`,
  `Sentence.sign`, `Sentence.chain` put sentences together.
* `Source.exists_sentence`, `Source.exists_compile_of_contents`: a source compiles if
  what its tokens say is what some sentence says, wherever the tokens of that sentence
  stand.
* `Source.grouped`, `Source.contents_grouped`: a source in parentheses, and what its
  tokens say.
* `Source.compile_composition`: the code and the constants of what is put together.
-/

namespace ExprMachine

/-! ### Sentences -/

namespace Token

/-- Whether a token may stand in a text that compiles: it is no error, and if it is a
number, it is in the range of doubles. -/
def Sound (t : Token) : Prop :=
  t.kind ≠ .error ∧ (t.kind = .number → Number.InRange t.lexeme)

/-- Whether a token takes part in the grammar and stands for no value. -/
def IsMark (t : Token) : Prop :=
  t.isSignificant = true ∧ t.isLiteral = false

variable {t : Token}

lemma IsMark.sound (h : t.IsMark) : t.Sound := by
  obtain ⟨hsignificant, hliteral⟩ := h
  simp only [isSignificant, decide_eq_true_eq] at hsignificant
  refine ⟨hsignificant.2.1, fun hnumber => ?_⟩
  simp [isLiteral, hnumber] at hliteral

lemma isMark_of_leftParen (h : t.kind = .leftParen) : t.IsMark := by
  simp [IsMark, isSignificant, isLiteral, h]

lemma isMark_of_rightParen (h : t.kind = .rightParen) : t.IsMark := by
  simp [IsMark, isSignificant, isLiteral, h]

lemma isMark_of_unary {op : UnaryOp} (h : UnaryOp.ofKind? t.kind = some op) : t.IsMark := by
  refine ⟨?_, Expr.isLiteral_of_unary h⟩
  simp only [UnaryOp.ofKind?] at h
  split at h <;> simp_all [isSignificant]

lemma isMark_of_binary {op : BinaryOp} (h : BinaryOp.ofKind? t.kind = some op) : t.IsMark := by
  refine ⟨?_, Expr.isLiteral_of_binary h⟩
  simp only [BinaryOp.ofKind?] at h
  split at h <;> simp_all [isSignificant]

end Token

open Token ExprMachine.Expr Parsed

/-- All literals take part in the grammar. -/
lemma literalCount_filter (ts : List Token) :
    literalCount (ts.filter Token.isSignificant) = literalCount ts := by
  rw [literalCount, literalCount, List.countP_filter]
  refine List.countP_congr fun t _ => ?_
  simp only [Bool.and_eq_true, and_iff_left_iff_imp]
  intro h
  simp only [isLiteral, isSignificant, decide_eq_true_eq] at h ⊢
  rcases h with h | h | h | h <;> simp [h]

/-- `Sentence x ts e`: the tokens `ts` can be compiled, and those of them that take part
in the grammar are a sentence of the level `x` with the tree `e`. -/
structure Sentence (x : Level) (ts : List Token) (e : Expr) : Prop where
  sound : ∀ t ∈ ts, t.Sound
  derives : Derives x (ts.filter Token.isSignificant) e
  count : literalCount ts ≤ maxLiterals

namespace Sentence

variable {x y : Level} {ts us : List Token} {l r t : Token} {a b e : Expr}

lemma loosen (h : Sentence y ts e) (hle : x.rank ≤ y.rank) : Sentence x ts e :=
  ⟨h.sound, h.derives.loosen hle, h.count⟩

/-- A sentence in parentheses is one, with the same tree. -/
lemma group (hl : l.kind = .leftParen) (h : Sentence .equality ts e)
    (hr : r.kind = .rightParen) : Sentence .primary (l :: (ts ++ [r])) e where
  sound := by
    refine List.forall_mem_cons.mpr ⟨(isMark_of_leftParen hl).sound, ?_⟩
    refine List.forall_mem_append.mpr ⟨h.sound, ?_⟩
    exact List.forall_mem_singleton.mpr (isMark_of_rightParen hr).sound
  derives := by
    rw [List.filter_cons_of_pos (isMark_of_leftParen hl).1, List.filter_append,
      List.filter_cons_of_pos (isMark_of_rightParen hr).1]
    exact .group hl h.derives hr
  count := by
    rw [literalCount_cons_of_not (isMark_of_leftParen hl).2, literalCount_append,
      literalCount_cons_of_not (isMark_of_rightParen hr).2]
    exact h.count

/-- A sign before a sentence. -/
lemma sign {op : UnaryOp} (hop : UnaryOp.ofKind? t.kind = some op) (h : Sentence .unary ts a) :
    Sentence .unary (t :: ts) (.unary op t.line a) where
  sound := List.forall_mem_cons.mpr ⟨(isMark_of_unary hop).sound, h.sound⟩
  derives := by
    rw [List.filter_cons_of_pos (isMark_of_unary hop).1]
    exact .sign (mem_signs_iff.mpr hop) h.derives
  count := by
    rw [literalCount_cons_of_not (isMark_of_unary hop).2]
    exact h.count

/-- An operator between two sentences. -/
lemma chain {op : BinaryOp} (hop : (t.kind, op) ∈ x.operators) (hxy : x.tighter? = some y)
    (left : Sentence x ts a) (right : Sentence y us b)
    (hfits : literalCount ts + literalCount us ≤ maxLiterals) :
    Sentence x (ts ++ t :: us) (.binary op t.line a b) where
  sound := by
    have hmark := isMark_of_binary (Level.ofKind?_of_mem_operators hop).1
    exact List.forall_mem_append.mpr
      ⟨left.sound, List.forall_mem_cons.mpr ⟨hmark.sound, right.sound⟩⟩
  derives := by
    rw [List.filter_append,
      List.filter_cons_of_pos (isMark_of_binary (Level.ofKind?_of_mem_operators hop).1).1]
    exact .chain hop hxy left.derives right.derives
  count := by
    rw [literalCount_append,
      literalCount_cons_of_not (isMark_of_binary (Level.ofKind?_of_mem_operators hop).1).2]
    exact hfits

/-- A sentence has as many literals as its tree has leaves. -/
lemma length_literals (h : Sentence x ts e) : e.literals.length = literalCount ts := by
  rw [Expr.length_literals h.derives, literalCount_filter]

end Sentence

/-! ### Sources that compile -/

namespace Source

variable {s s' : Source} {c c' : Chunk} {ts us : List Token} {e : Expr}

/-- A source that compiles is a sentence, and its code and its constants are those of the
tree. -/
lemma exists_sentence (hc : s.compile = .ok c) :
    ∃ ts e, Sentence .equality ts e ∧ contents s.text = ts.map Token.content ++ [(.eof, "")] ∧
      literalCount (tokenize s.text) = literalCount ts ∧
      c.code.toList = e.code 0 ++ [Opcode.ret.byte] ∧ c.constants = e.literals.toArray := by
  obtain ⟨e, he, rfl⟩ := Source.compile_eq_ok_iff.mp hc
  obtain ⟨herror, hderives, hcount, hrange⟩ := parseAll_eq_ok_iff.mp he
  obtain ⟨init, htokens, heof, hcontents⟩ := exists_contents_eq s.text
  have hfilter : (tokenize s.text).filter Token.isSignificant =
      init.filter Token.isSignificant := by
    rw [htokens, filter_isSignificant_concat heof]
  have hliterals : literalCount (tokenize s.text) = literalCount init := by
    rw [← literalCount_filter, hfilter, literalCount_filter]
  rw [hfilter] at hderives hcount hrange
  refine ⟨init, e, ⟨fun t ht => ⟨?_, fun hnumber => ?_⟩, hderives, ?_⟩, hcontents, hliterals,
    e.code_assemble _, e.constants_assemble _⟩
  · exact herror t (htokens ▸ List.mem_append_left _ ht)
  · refine hrange t (List.mem_filter.mpr ⟨ht, ?_⟩) hnumber
    simp [isSignificant, hnumber]
  · rwa [literalCount_filter] at hcount

/-- A source whose tokens say what a sentence says has the tree of that sentence, but for
the lines. -/
lemma exists_parseAll_of_contents (hts : Sentence .equality ts e)
    (h : contents s.text = ts.map Token.content ++ [(.eof, "")]) :
    ∃ e', parseAll (tokenize s.text) = .ok e' ∧ e.unplaced = e'.unplaced := by
  set eof : Token := ⟨.eof, "", 0, 0, 0⟩
  have halike : List.Forall₂ Token.Alike (ts ++ [eof]) (tokenize s.text) := by
    refine forall₂_alike_of_map_content ?_
    rw [List.map_append]
    exact h.symm
  have hsignificant := forall₂_filter_isSignificant (fun _ _ htu => htu) halike
  rw [filter_isSignificant_concat rfl] at hsignificant
  have herror : ∀ u ∈ tokenize s.text, u.kind ≠ .error := by
    intro u hu
    have hmem : u.content ∈ contents s.text := List.mem_map_of_mem hu
    rw [h, List.mem_append, List.mem_map, List.mem_singleton] at hmem
    obtain ⟨t, ht, htu⟩ | heq := hmem
    · rw [← (alike_iff.mpr htu).kind]
      exact (hts.sound t ht).1
    · have hkind : u.kind = .eof := congrArg Prod.fst heq
      simp [hkind]
  have hcount : literalCount (ts.filter Token.isSignificant) ≤ maxLiterals := by
    rw [literalCount_filter]
    exact hts.count
  have hrange : NumbersInRange (ts.filter Token.isSignificant) := fun t ht =>
    (hts.sound t (List.mem_filter.mp ht).1).2
  obtain ⟨e', hderives', hcount', hrange', hsame⟩ :=
    parseTokens_alike hsignificant hts.derives hcount hrange
  exact ⟨e', parseAll_eq_ok_iff.mpr ⟨herror, hderives', hcount', hrange'⟩, hsame⟩

/-- So it compiles to the code and the constants of that tree. -/
lemma exists_compile_of_contents (hts : Sentence .equality ts e)
    (h : contents s.text = ts.map Token.content ++ [(.eof, "")]) :
    ∃ c, s.compile = .ok c ∧ c.code.toList = e.code 0 ++ [Opcode.ret.byte] ∧
      c.constants = e.literals.toArray := by
  obtain ⟨e', he', hsame⟩ := exists_parseAll_of_contents hts h
  refine ⟨_, Source.compile_eq_ok_iff.mpr ⟨e', he', rfl⟩, ?_, ?_⟩
  · rw [code_assemble, ← e'.code_unplaced, ← hsame, e.code_unplaced]
  · rw [constants_assemble, ← e'.literals_unplaced, ← hsame, e.literals_unplaced]

/-! ### Parentheses -/

/-- A source in parentheses. The newline ends a comment on its last line. -/
def grouped (s : Source) : Source :=
  ofString "(" ++ s ++ ofString "\n)"

lemma text_grouped (s : Source) : s.grouped.text = '(' :: (s.text ++ ['\n', ')']) := by
  rw [grouped, text_append_ofString _ (by decide) (by decide),
    text_ofString_append (by decide)]
  rfl

/-- The parentheses that are put around a sentence. -/
def inParens (ts : List Token) : List Token :=
  ⟨.leftParen, "(", 0, 1, 1⟩ :: (ts ++ [⟨.rightParen, ")", 0, 1, 1⟩])

/-- They make an operand of it for every operator. -/
lemma sentence_inParens (h : Sentence .equality ts e) (x : Level) : Sentence x (inParens ts) e := by
  have hgroup : Sentence .primary (inParens ts) e := h.group rfl rfl
  refine hgroup.loosen ?_
  cases x <;> decide

/-- In parentheses, a source says what it says alone, whatever stands behind them. -/
lemma contents_grouped (hts : Sentence .equality ts e)
    (h : contents s.text = ts.map Token.content ++ [(.eof, "")]) (rest : List Char) :
    contents (s.grouped.text ++ rest) = (inParens ts).map Token.content ++ contents rest := by
  have herror : ∀ p ∈ ts.map Token.content, p.1 ≠ .error := by
    intro p hp
    obtain ⟨t, ht, rfl⟩ := List.mem_map.mp hp
    exact (hts.sound t ht).1
  have hbody := contents_append_newline h herror (')' :: rest)
  have htext : s.grouped.text ++ rest = '(' :: (s.text ++ '\n' :: ')' :: rest) := by
    rw [text_grouped, List.cons_append, List.append_assoc]
    rfl
  rw [htext, contents_cons_leftParen, hbody, contents_cons_rightParen]
  simp [inParens, content]

/-- A source in parentheses is a sentence in parentheses. -/
lemma contents_text_grouped (hts : Sentence .equality ts e)
    (h : contents s.text = ts.map Token.content ++ [(.eof, "")]) :
    contents s.grouped.text = (inParens ts).map Token.content ++ [(.eof, "")] := by
  have hsaid := contents_grouped hts h []
  rwa [List.append_nil, contents_nil] at hsaid

/-! ### Operators -/

/-- Symbols are written with single bytes. -/
lemma isAscii_of_mem_symbols {p : Kind × List Char} (h : p ∈ symbols) :
    Utf8.IsAscii p.2 ∧ p.2 ≠ [] := by
  have hall : ∀ p ∈ symbols, Utf8.IsAscii p.2 ∧ p.2 ≠ [] := by decide
  exact hall p h

/-- An operator before a source in parentheses is read as it is. -/
lemma contents_symbol_append_grouped {k : Kind} (hk : (k, k.name.toList) ∈ symbols) (s : Source) :
    contents (k.name.toList ++ s.grouped.text) = (k, k.name) :: contents s.grouped.text := by
  rw [text_grouped, contents_append_leftParen hk, String.ofList_toList]

/-! ### What is put together -/

/-- Parentheses leave no code. -/
lemma compile_grouped (hs : s.compile = .ok c) :
    ∃ d, s.grouped.compile = .ok d ∧ d.code = c.code ∧ d.constants = c.constants := by
  obtain ⟨ts, e, hts, hcontents, -, hcode, hconstants⟩ := exists_sentence hs
  obtain ⟨d, hd, hdcode, hdconstants⟩ :=
    exists_compile_of_contents (sentence_inParens hts _) (contents_text_grouped hts hcontents)
  refine ⟨d, hd, ?_, hdconstants.trans hconstants.symm⟩
  rw [← Array.toList_inj, hdcode, hcode]

/-- A sign adds its instruction before the last. -/
lemma compile_sign_grouped (hs : s.compile = .ok c) {k : Kind} {op : UnaryOp}
    (hop : UnaryOp.ofKind? k = some op) :
    ∃ d code, (ofString k.name ++ s.grouped).compile = .ok d ∧
      c.code.toList = code ++ [Opcode.ret.byte] ∧
      d.code.toList = code ++ [(Opcode.unary op).byte, Opcode.ret.byte] ∧
      d.constants = c.constants := by
  obtain ⟨ts, e, hts, hcontents, -, hcode, hconstants⟩ := exists_sentence hs
  have hsign := (sentence_inParens hts _).sign (t := ⟨k, k.name, 0, 0, 0⟩) hop
  have hsymbol := mem_symbols_of_unary hop
  have hsaid : contents (ofString k.name ++ s.grouped).text =
      (⟨k, k.name, 0, 0, 0⟩ :: inParens ts).map Token.content ++ [(.eof, "")] := by
    rw [text_ofString_append (isAscii_of_mem_symbols hsymbol).1,
      contents_symbol_append_grouped hsymbol, contents_text_grouped hts hcontents]
    rfl
  obtain ⟨d, hd, hdcode, hdconstants⟩ :=
    exists_compile_of_contents (hsign.loosen (by decide)) hsaid
  refine ⟨d, e.code 0, hd, hcode, ?_, hdconstants.trans hconstants.symm⟩
  rw [hdcode, Expr.code, List.append_assoc]
  rfl

/-- An operator puts the code of its right operand behind that of the left one, and then
its own instruction. -/
lemma compile_grouped_chain (hs : s.compile = .ok c) (hs' : s'.compile = .ok c') {k : Kind}
    {op : BinaryOp} (hop : BinaryOp.ofKind? k = some op)
    (hfits : literalCount (tokenize s.text) + literalCount (tokenize s'.text) ≤ 256) :
    ∃ d code code' raised, (s.grouped ++ ofString k.name ++ s'.grouped).compile = .ok d ∧
      c.code.toList = code ++ [Opcode.ret.byte] ∧ c'.code.toList = code' ++ [Opcode.ret.byte] ∧
      RaisedBy c.constants.size code' raised ∧
      d.code.toList = code ++ raised ++ [(Opcode.binary op).byte, Opcode.ret.byte] ∧
      d.constants = c.constants ++ c'.constants := by
  obtain ⟨ts, a, hts, hcontents, hcount, hcode, hconstants⟩ := exists_sentence hs
  obtain ⟨us, b, hus, hcontents', hcount', hcode', hconstants'⟩ := exists_sentence hs'
  rw [hcount, hcount'] at hfits
  obtain ⟨x, y, hx, hxy, -⟩ := Level.exists_mem_operators hop
  have hchain : Sentence x (inParens ts ++ ⟨k, k.name, 0, 0, 0⟩ :: inParens us)
      (.binary op 0 a b) := by
    have hleft := sentence_inParens hts x
    have hright := sentence_inParens hus y
    refine hleft.chain hx hxy hright ?_
    rwa [← hleft.length_literals, ← hright.length_literals, hts.length_literals,
      hus.length_literals]
  have hsymbol := mem_symbols_of_binary hop
  obtain ⟨hascii, hne⟩ := isAscii_of_mem_symbols hsymbol
  have hsaid : contents (s.grouped ++ ofString k.name ++ s'.grouped).text =
      (inParens ts ++ ⟨k, k.name, 0, 0, 0⟩ :: inParens us).map Token.content ++
        [(.eof, "")] := by
    rw [text_append_ofString_append _ hascii hne, contents_grouped hts hcontents,
      contents_symbol_append_grouped hsymbol, contents_text_grouped hus hcontents']
    simp [content]
  obtain ⟨d, hd, hdcode, hdconstants⟩ :=
    exists_compile_of_contents (hchain.loosen x.rank_pos) hsaid
  have hsize : c.constants.size = a.literals.length := by rw [hconstants, List.size_toArray]
  have hbounds : 0 + a.literals.length + b.literals.length ≤ Chunk.maxConstants := by
    rw [Nat.zero_add, hts.length_literals, hus.length_literals]
    exact hfits
  refine ⟨d, a.code 0, b.code 0, b.code (0 + a.literals.length), hd, hcode, hcode', ?_, ?_, ?_⟩
  · rw [hsize]
    exact b.raisedBy_code 0 _ hbounds
  · rw [hdcode, Expr.code, List.append_assoc]
    rfl
  · rw [hdconstants, hconstants, hconstants', Expr.literals, List.append_toArray]

end Source

open Source

/-- **Compilation is compositional on texts.** A source in parentheses compiles to the
code and the constants of the source alone. A sign before them adds its instruction
before the last. An operator between two of them, if their literals are not too many,
puts the code of the second behind that of the first, with all its constants numbered
behind those of the first, and then its own instruction. -/
theorem Source.compile_composition (s s' : Source) (c c' : Chunk) (hs : s.compile = .ok c)
    (hs' : s'.compile = .ok c') :
    (∃ d, s.grouped.compile = .ok d ∧ d.code = c.code ∧ d.constants = c.constants) ∧
      (∀ k op, UnaryOp.ofKind? k = some op → ∃ d code,
        (ofString k.name ++ s.grouped).compile = .ok d ∧
          c.code.toList = code ++ [Opcode.ret.byte] ∧
          d.code.toList = code ++ [(Opcode.unary op).byte, Opcode.ret.byte] ∧
          d.constants = c.constants) ∧
      ∀ k op, BinaryOp.ofKind? k = some op →
        literalCount (tokenize s.text) + literalCount (tokenize s'.text) ≤ 256 →
        ∃ d code code' raised,
          (s.grouped ++ ofString k.name ++ s'.grouped).compile = .ok d ∧
            c.code.toList = code ++ [Opcode.ret.byte] ∧
            c'.code.toList = code' ++ [Opcode.ret.byte] ∧
            RaisedBy c.constants.size code' raised ∧
            d.code.toList = code ++ raised ++ [(Opcode.binary op).byte, Opcode.ret.byte] ∧
            d.constants = c.constants ++ c'.constants :=
  ⟨compile_grouped hs, fun _ _ hop => compile_sign_grouped hs hop, fun _ _ hop hfits =>
    compile_grouped_chain hs hs' hop hfits⟩

/-- Two sources that end in comments, alone, behind a sign and as the factors of a
product. -/
theorem Source.compile_composition_comments :
    (ofString "1 - nil // a").compile =
      .ok ⟨#[1, 0, 1, 1, 4, 0], #[1, 1, 1, 1, 1, 1], #[.number 1, .nil]⟩ ∧
    (ofString "-2 // b").compile = .ok ⟨#[1, 0, 2, 0], #[1, 1, 1, 1], #[.number 2]⟩ ∧
    (∃ d, (ofString "1 - nil // a").grouped.compile = .ok d ∧
      d.code = #[1, 0, 1, 1, 4, 0] ∧ d.constants = #[.number 1, .nil]) ∧
    (∃ d code, (ofString "!" ++ (ofString "1 - nil // a").grouped).compile = .ok d ∧
      [1, 0, 1, 1, 4, 0] = code ++ [Opcode.ret.byte] ∧
      d.code.toList = code ++ [(Opcode.unary .not).byte, Opcode.ret.byte] ∧
      d.constants = #[.number 1, .nil]) ∧
    ∃ d code code' raised, ((ofString "1 - nil // a").grouped ++ ofString "*" ++
        (ofString "-2 // b").grouped).compile = .ok d ∧
      [1, 0, 1, 1, 4, 0] = code ++ [Opcode.ret.byte] ∧
      [1, 0, 2, 0] = code' ++ [Opcode.ret.byte] ∧ RaisedBy 2 code' raised ∧
      d.code.toList = code ++ raised ++ [(Opcode.binary .multiply).byte, Opcode.ret.byte] ∧
      d.constants = #[.number 1, .nil, .number 2] := by
  have hs : (ofString "1 - nil // a").compile =
      .ok ⟨#[1, 0, 1, 1, 4, 0], #[1, 1, 1, 1, 1, 1], #[.number 1, .nil]⟩ := by decide +kernel
  have hs' : (ofString "-2 // b").compile =
      .ok ⟨#[1, 0, 2, 0], #[1, 1, 1, 1], #[.number 2]⟩ := by decide +kernel
  obtain ⟨hgroup, hsign, hchain⟩ := Source.compile_composition _ _ _ _ hs hs'
  exact ⟨hs, hs', hgroup, hsign .bang .not rfl, hchain .star .multiply rfl (by decide +kernel)⟩

end ExprMachine

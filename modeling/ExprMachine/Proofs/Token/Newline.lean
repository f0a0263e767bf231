import ExprMachine.Proofs.Text.Utf8
import ExprMachine.Proofs.Token.Tiling

/-!
Reading across the end of a line.

No token but a string looks or reaches beyond a newline. So where a text without an open
string ends, and a newline behind it, the reading starts afresh, only further on.

* `Token.Kind.IsUnterminated`: a string without an end, the one token that takes all that
  follows.
* `Token.lex_append_newline`: no other token is changed by what stands behind the end of its
  line. One case for each class of tokens.
* `Token.moved`, `Scanner.moved`: the same token and the same reading, further on.
  `Scanner.tokens_moved`: a reading is not changed by where it stands.
* `Scanner.followedBy`, `Scanner.behind`: a reading with more text behind a newline, and where
  it comes to there. `Scanner.scan_followedBy` is one step of it.
* `Scanner.tokens_followedBy`: the whole reading, by the token reader's own induction.
* `Source.tokenize_append`: the tokens of two sources with a newline between them.
-/

namespace ExprMachine

namespace Token

variable {c : Char} {cs : List Char}

/-! ### Single tokens before a newline -/

/-- A leading stretch without newlines goes no further than a newline. -/
lemma takeWhile_append_newline {p : Char → Bool} (hp : p '\n' = false) (cs rest : List Char) :
    (cs ++ '\n' :: rest).takeWhile p = cs.takeWhile p := by
  rw [List.takeWhile_append, List.takeWhile_cons_of_neg (by simp [hp]), List.append_nil]
  split_ifs with h
  · exact ((List.takeWhile_prefix p).eq_of_length h).symm
  · rfl

lemma dropWhile_append_newline {p : Char → Bool} (hp : p '\n' = false) (cs rest : List Char) :
    (cs ++ '\n' :: rest).dropWhile p = cs.dropWhile p ++ '\n' :: rest := by
  rw [List.dropWhile_append, List.dropWhile_cons_of_neg (by simp [hp])]
  split_ifs with h
  · rw [List.isEmpty_iff.mp h, List.nil_append]
  · rfl

lemma fractionLength_append_newline (cs rest : List Char) :
    fractionLength (cs ++ '\n' :: rest) = fractionLength cs := by
  cases cs with
  | nil => rfl
  | cons d ds =>
      by_cases hd : d = '.'
      · subst hd
        simp only [List.cons_append, fractionLength,
          takeWhile_append_newline (show isDigit '\n' = false by decide)]
      · simp [fractionLength, hd]

/-- What is shown as it is written is shown so before a newline. -/
lemma verbatim_append_newline {k : Kind} {n : ℕ} (hn : n ≤ cs.length) (rest : List Char) :
    verbatim k c (cs ++ '\n' :: rest) n = verbatim k c cs n := by
  rw [verbatim, verbatim, List.take_append_of_le_length hn]

/-- The same character is next, unless the newline is. -/
lemma head?_append_newline {d : Char} (hd : d ≠ '\n') (cs rest : List Char) :
    (cs ++ '\n' :: rest).head? = some d ↔ cs.head? = some d := by
  cases cs with
  | nil => simp [hd.symm]
  | cons x xs => simp

lemma withEqual_append_newline (long short : Kind) (c : Char) (cs rest : List Char) :
    withEqual long short c (cs ++ '\n' :: rest) = withEqual long short c cs := by
  rw [withEqual, withEqual]
  simp only [head?_append_newline (show '=' ≠ '\n' by decide)]
  split_ifs with h
  · obtain ⟨ds, rfl⟩ := List.head?_eq_some_iff.mp h
    exact verbatim_append_newline (Nat.le_add_left 1 _) rest
  · rfl

/-- A comment ends before the newline. -/
lemma lexSlash_append_newline (c : Char) (cs rest : List Char) :
    lexSlash c (cs ++ '\n' :: rest) = lexSlash c cs := by
  rw [lexSlash, lexSlash]
  simp only [head?_append_newline (show '/' ≠ '\n' by decide)]
  split_ifs with h
  · obtain ⟨ds, rfl⟩ := List.head?_eq_some_iff.mp h
    have hbody : (ds ++ '\n' :: rest).takeWhile (· ≠ '\n') = ds.takeWhile (· ≠ '\n') :=
      takeWhile_append_newline (by decide) ds rest
    simp only [List.cons_append, List.drop_one, List.tail_cons, hbody]
  · rfl

/-- A string that ends before the newline is not changed by it. -/
lemma lexString_append (h : ¬ (lexString cs).kind.IsUnterminated (lexString cs).lexeme)
    (rest : List Char) : lexString (cs ++ rest) = lexString cs := by
  rw [lexString] at h
  split_ifs at h with hlt
  · have hbody : (cs ++ rest).takeWhile (· ≠ '"') = cs.takeWhile (· ≠ '"') := by
      rw [List.takeWhile_append, if_neg hlt.ne]
    have hlt' : (cs.takeWhile (· ≠ '"')).length < (cs ++ rest).length :=
      hlt.trans_le (by simp)
    rw [lexString, lexString, hbody, if_pos hlt, if_pos hlt']
  · exact absurd ⟨rfl, rfl⟩ h

/-- **A token ends no later than its line**, strings apart: what stands behind a newline
does not change the token that is read before it. -/
lemma lex_append_newline (h : ¬ (lex c cs).kind.IsUnterminated (lex c cs).lexeme)
    (rest : List Char) : lex c (cs ++ '\n' :: rest) = lex c cs := by
  rw [lex] at h
  rw [lex, lex]
  split_ifs at h ⊢
  · have hdigit : isDigit '\n' = false := by decide
    rw [lexNumber, lexNumber]
    simp only [takeWhile_append_newline hdigit, dropWhile_append_newline hdigit,
      fractionLength_append_newline]
    exact verbatim_append_newline (further_lexNumber_le c cs) rest
  · simp only [lexWord, takeWhile_append_newline (show isWordChar '\n' = false by decide)]
  · unfold lexSymbol at h ⊢
    split at h
    case h_11 | h_12 | h_13 | h_14 => exact withEqual_append_newline _ _ _ cs rest
    case h_15 => exact lexSlash_append_newline _ cs rest
    case h_16 => exact lexString_append h _
    case h_17 => rfl
    all_goals exact verbatim_append_newline (Nat.zero_le _) rest

/-! ### Further on -/

/-- The same token, `n` characters and `m` lines further on. -/
def moved (n m : ℕ) (t : Token) : Token :=
  { t with start := t.start + n, line := t.line + m }

end Token

namespace Scanner

open Token

variable {s s' : Scanner}

/-- The same reading, `n` characters and `m` lines further on. -/
def moved (n m : ℕ) (s : Scanner) : Scanner :=
  { s with offset := s.offset + n, line := s.line + m }

/-- What is read is told by where the reading stands behind the blanks. -/
lemma tokens_congr (h : s.skipBlank = s'.skipBlank) : s.tokens = s'.tokens := by
  have hscan : s.scan = s'.scan := by rw [scan, scan, h]
  rw [tokens, hscan, ← tokens]

lemma scan_moved (n m : ℕ) (s : Scanner) :
    (s.moved n m).scan = (s.scan.1.moved n m, s.scan.2.moved n m) := by
  have hskip : (s.moved n m).skipBlank = s.skipBlank.moved n m := by
    simp only [moved, skipBlank, Nat.add_right_comm]
  rw [scan, scan, hskip]
  cases hrest : s.skipBlank.rest with
  | nil => simp [moved, Token.moved, hrest]
  | cons c cs => simp [moved, Token.moved, hrest, Nat.add_right_comm]

/-- A reading is not changed by where it stands. -/
lemma tokens_moved (n m : ℕ) (s : Scanner) :
    (s.moved n m).tokens = s.tokens.map (Token.moved n m) := by
  induction s using scan_induction with
  | eof s heof =>
      have hscan := s.scan_moved n m
      have heof' : (s.moved n m).scan.1.kind = .eof := by rw [hscan]; exact heof
      rw [tokens_of_eof heof, tokens_of_eof heof', hscan, List.map_singleton]
  | token s hne ih =>
      have hscan := s.scan_moved n m
      have hne' : (s.moved n m).scan.1.kind ≠ .eof := by rw [hscan]; exact hne
      rw [tokens_of_ne hne, tokens_of_ne hne', hscan, List.map_cons, ← ih]

/-! ### More text behind a newline -/

/-- The same reading with a newline and more text behind what is left. -/
def followedBy (s : Scanner) (text : List Char) : Scanner :=
  { s with rest := s.rest ++ '\n' :: text }

/-- Where that reading stands when it comes to the text behind the newline. -/
def behind (s : Scanner) (text : List Char) : Scanner :=
  { rest := text
    offset := s.offset + s.rest.length + 1
    line := s.line + newlines s.rest + 1
    done := s.done }

variable {c : Char} {cs text : List Char}

/-- Where only blanks are left, the reading goes on behind the newline. -/
lemma tokens_followedBy_of_nil (h : s.rest.dropWhile isBlank = []) :
    (s.followedBy text).tokens = (s.behind text).tokens := by
  have hblank : ∀ c ∈ s.rest, isBlank c = true := List.dropWhile_eq_nil_iff.mp h
  have hall : ∀ c ∈ s.rest ++ ['\n'], isBlank c = true := by
    simpa [or_imp, forall_and] using ⟨hblank, rfl⟩
  have hrest : s.rest ++ '\n' :: text = (s.rest ++ ['\n']) ++ text := by simp
  refine tokens_congr ?_
  simp only [skipBlank, followedBy, behind, hrest, List.dropWhile_append_of_pos hall,
    List.takeWhile_append_of_pos hall, newlines, List.count_append, List.length_append,
    Scanner.mk.injEq]
  refine ⟨trivial, ?_, ?_, trivial⟩
  · simp only [List.length_singleton]
    omega
  · simp only [List.count_singleton_self]
    omega

/-- Otherwise the same token is read, and the same text follows what is left. -/
lemma scan_followedBy (text : List Char) (hrest : s.rest.dropWhile isBlank = c :: cs)
    (h : ¬ s.scan.1.kind.IsUnterminated s.scan.1.lexeme) :
    (s.followedBy text).scan = (s.scan.1, s.scan.2.followedBy text) := by
  have hscan := scan_of_cons hrest
  have hlen := further_lex_le c cs
  have hlex : lex c (cs ++ '\n' :: text) = lex c cs := by
    rw [hscan] at h
    exact lex_append_newline h text
  have hdrop : (s.followedBy text).rest.dropWhile isBlank = c :: (cs ++ '\n' :: text) := by
    rw [followedBy, List.dropWhile_append, hrest]
    rfl
  have htake : (s.followedBy text).rest.takeWhile isBlank = s.rest.takeWhile isBlank := by
    have hlength := congrArg List.length (@List.takeWhile_append_dropWhile _ isBlank s.rest)
    rw [hrest, List.length_append, List.length_cons] at hlength
    rw [followedBy, List.takeWhile_append, if_neg (by omega)]
  rw [scan_of_cons hdrop, hscan, hlex, htake, List.take_append_of_le_length hlen,
    List.drop_append_of_le_length hlen]
  rfl

lemma newlines_append (cs ds : List Char) : newlines (cs ++ ds) = newlines cs + newlines ds :=
  List.count_append

/-- What has been read and what is left make up one text. -/
lemma behind_scan (hrest : s.rest.dropWhile isBlank = c :: cs) (text : List Char) :
    s.scan.2.behind text = s.behind text := by
  have hlen := further_lex_le c cs
  have hsplit : s.rest = s.rest.takeWhile isBlank ++ c :: cs := by
    rw [← hrest, List.takeWhile_append_dropWhile]
  have hlength := congrArg List.length hsplit
  have hcount := congrArg newlines hsplit
  have hcut : newlines (c :: cs.take (lex c cs).further) + newlines (cs.drop (lex c cs).further) =
      newlines (c :: cs) := by
    rw [← newlines_append, List.cons_append, List.take_append_drop]
  rw [newlines_append] at hcount
  rw [List.length_append, List.length_cons] at hlength
  rw [scan_of_cons hrest]
  simp only [behind, List.length_drop, Scanner.mk.injEq]
  exact ⟨trivial, by omega, by omega, trivial⟩

/-- Behind a text without an open string, a newline lets the reading start afresh. -/
lemma tokens_followedBy (h : ∀ t ∈ s.tokens, ¬ t.kind.IsUnterminated t.lexeme)
    (text : List Char) :
    (s.followedBy text).tokens = s.tokens.dropLast ++ (s.behind text).tokens := by
  induction s using scan_induction with
  | eof s heof =>
      rw [tokens_of_eof heof, tokens_followedBy_of_nil (kind_scan_eq_eof_iff.mp heof)]
      rfl
  | token s hne ih =>
      obtain ⟨c, cs, hrest⟩ := exists_cons_of_kind_ne hne
      rw [tokens_of_ne hne, List.forall_mem_cons] at h
      have hscan := scan_followedBy text hrest h.1
      have hne' : (s.followedBy text).scan.1.kind ≠ .eof := by rw [hscan]; exact hne
      calc (s.followedBy text).tokens
          = s.scan.1 :: (s.scan.2.followedBy text).tokens := by rw [tokens_of_ne hne', hscan]
        _ = s.scan.1 :: (s.scan.2.tokens.dropLast ++ (s.scan.2.behind text).tokens) := by
            rw [ih h.2]
        _ = (s.scan.1 :: s.scan.2.tokens).dropLast ++ (s.behind text).tokens := by
            rw [behind_scan hrest, List.dropLast_cons_of_ne_nil s.scan.2.tokens_ne_nil,
              List.cons_append]
        _ = s.tokens.dropLast ++ (s.behind text).tokens := by rw [tokens_of_ne hne]

end Scanner

/-- Where the tokens of a text hold no open string, those of another text behind a newline
follow them, further on. -/
lemma tokenize_append_newline {text : List Char}
    (h : ∀ t ∈ tokenize text, ¬ t.kind.IsUnterminated t.lexeme) (text' : List Char) :
    tokenize (text ++ '\n' :: text') = (tokenize text).dropLast ++
      (tokenize text').map (Token.moved (text.length + 1) (text.count '\n' + 1)) := by
  have hbehind : (Scanner.start text).behind text' =
      (Scanner.start text').moved (text.length + 1) (text.count '\n' + 1) := by
    simp [Scanner.behind, Scanner.moved, Scanner.start, Scanner.newlines, Nat.add_assoc]
  have hfollowed := Scanner.tokens_followedBy h text'
  rw [hbehind, Scanner.tokens_moved] at hfollowed
  exact hfollowed

open Source

/-- **Scanning is compositional at newlines.** Where the tokens of a source hold no string
without an end, a newline and another source behind it are read as if each source stood
alone: first the tokens of the one, without its end token, and then those of the other, as
many characters and lines further on as the first source and the newline have. -/
theorem Source.tokenize_append (s s' : Source)
    (h : ∀ t ∈ tokenize s.text, ¬ t.kind.IsUnterminated t.lexeme) :
    ∃ init eof, tokenize s.text = init ++ [eof] ∧ eof.kind = .eof ∧
      tokenize (s ++ ofString "\n" ++ s').text = init ++
        (tokenize s'.text).map (Token.moved (s.text.length + 1) (s.text.count '\n' + 1)) := by
  obtain ⟨init, htokens, heof, -⟩ := exists_tokenize_eq s.text
  have htext : (s ++ ofString "\n" ++ s').text = s.text ++ '\n' :: s'.text :=
    text_append_ofString_append s (by decide) (by decide) s'
  have hjoined := tokenize_append_newline h s'.text
  have hinit : (tokenize s.text).dropLast = init := by rw [htokens, List.dropLast_concat]
  rw [hinit, ← htext] at hjoined
  exact ⟨init, _, htokens, heof, hjoined⟩

/-- A number before a point, half of an operator and a comment, each at the end of its
line. -/
theorem Source.tokenize_append_halves :
    (∀ t ∈ tokenize (ofString "\"a\nb\" 1.\n!").text, ¬ t.kind.IsUnterminated t.lexeme) ∧
    ∃ init eof, tokenize (ofString "\"a\nb\" 1.\n!").text = init ++ [eof] ∧ eof.kind = .eof ∧
      tokenize (ofString "\"a\nb\" 1.\n!" ++ ofString "\n" ++ ofString "=5 // c").text =
        init ++ [⟨.equal, "=", 11, 1, 4⟩, ⟨.number, "5", 12, 1, 4⟩, ⟨.comment, " c", 14, 4, 4⟩,
          ⟨.eof, "", 18, 0, 4⟩] := by
  have h : ∀ t ∈ tokenize (ofString "\"a\nb\" 1.\n!").text, ¬ t.kind.IsUnterminated t.lexeme := by
    decide +kernel
  obtain ⟨init, eof, htokens, heof, hjoined⟩ :=
    Source.tokenize_append _ (ofString "=5 // c") h
  refine ⟨h, init, eof, htokens, heof, hjoined.trans (congrArg (init ++ ·) ?_)⟩
  decide +kernel

end ExprMachine

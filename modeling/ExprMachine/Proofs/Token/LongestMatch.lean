import ExprMachine.Token.Scanner
import Mathlib.Data.List.TakeWhile
import Mathlib.Tactic

/-!
The lexical grammar, and the token reader as its longest match.

* `Token.symbols`, `Token.Matches`: the classes of tokens and what is written for
  a token of each class, apart from any way to read it.
* `Token.LongestMatch`: no class has a longer match at the head of a text.
* `Token.Opens`: what the first character of a text decides about its token.
* `Token.matches_lex`: what is read as a token, and not as an error, is written
  as its class says.
* `Token.lex_of_matches`: nothing longer at the head of the text is written as a
  class says, and nothing as long by another class. One case for each class;
  its first character decides what is read.
* `Scanner.scan_longestMatch`: the token that a scan reads.
-/

namespace ExprMachine

namespace Token

/-! ### The lexical grammar -/

/-- The operators and the punctuation. -/
def symbols : List (Kind × List Char) :=
  [(.leftParen, ['(']), (.rightParen, [')']), (.leftBrace, ['\x7b']), (.rightBrace, ['\x7d']),
    (.comma, [',']), (.dot, ['.']), (.minus, ['-']), (.plus, ['+']), (.semicolon, [';']),
    (.star, ['*']), (.slash, ['/']), (.bang, ['!']), (.bangEqual, ['!', '=']), (.equal, ['=']),
    (.equalEqual, ['=', '=']), (.greater, ['>']), (.greaterEqual, ['>', '=']), (.less, ['<']),
    (.lessEqual, ['<', '='])]

/-- `Matches k w`: the characters `w` are a token of the kind `k`. -/
inductive Matches : Kind → List Char → Prop
  /-- Digits. -/
  | digits {w : List Char} (hne : w ≠ []) (hw : ∀ c ∈ w, isDigit c = true) : Matches .number w
  /-- Digits on both sides of a point. -/
  | fraction {u v : List Char} (hu : u ≠ []) (hud : ∀ c ∈ u, isDigit c = true) (hv : v ≠ [])
      (hvd : ∀ c ∈ v, isDigit c = true) : Matches .number (u ++ '.' :: v)
  /-- A reserved word. -/
  | keyword (k : Keyword) : Matches (.keyword k) k.word.toList
  /-- A letter or an underscore, and then these and digits; no reserved word. -/
  | identifier {c : Char} {w : List Char} (hc : isAlpha c = true)
      (hw : ∀ d ∈ w, isWordChar d = true) (hfree : ∀ k : Keyword, k.word.toList ≠ c :: w) :
      Matches .identifier (c :: w)
  /-- An operator or a punctuation mark. -/
  | symbol {k : Kind} {w : List Char} (h : (k, w) ∈ symbols) : Matches k w
  /-- Two slashes, and then anything on the line. -/
  | comment {w : List Char} (hw : '\n' ∉ w) : Matches .comment ('/' :: '/' :: w)
  /-- Anything between two quotes but a quote. -/
  | string {w : List Char} (hw : '"' ∉ w) : Matches .string ('"' :: (w ++ ['"']))

/-- `LongestMatch text k w`: the text begins with `w`, a token of the kind `k`,
and with no longer token of any kind. -/
def LongestMatch (text : List Char) (k : Kind) (w : List Char) : Prop :=
  Matches k w ∧ w <+: text ∧ ∀ k' w', Matches k' w' → w' <+: text → w'.length ≤ w.length

/-! ### Reserved words -/

/-- A reserved word is a letter and then letters. -/
lemma isAlpha_word (k : Keyword) :
    k.word.toList.head?.any isAlpha = true ∧ ∀ c ∈ k.word.toList, isWordChar c = true := by
  have hall : k.word.toList.all isWordChar = true := by cases k <;> decide
  exact ⟨by cases k <;> decide, List.all_eq_true.mp hall⟩

lemma ofWord?_word (k : Keyword) : Keyword.ofWord? k.word = some k := by
  cases k <;> decide

/-- The kind of a word is that of the reserved word which it is. -/
lemma ofWord_ofList {w : List Char} {k : Keyword} (h : k.word.toList = w) :
    Kind.ofWord (String.ofList w) = .keyword k := by
  rw [← h, String.ofList_toList, Kind.ofWord, ofWord?_word]

lemma ofWord_of_free {w : List Char} (h : ∀ k : Keyword, k.word.toList ≠ w) :
    Kind.ofWord (String.ofList w) = .identifier := by
  have hnone : Keyword.ofWord? (String.ofList w) = none := by
    rw [Keyword.ofWord?, List.find?_eq_none]
    intro k _ hk
    exact h k (by rw [of_decide_eq_true hk, String.toList_ofList])
  rw [Kind.ofWord, hnone]

/-! ### Leading stretches -/

variable {c : Char} {cs : List Char}

/-- What is taken beyond a leading stretch comes from behind it. -/
lemma take_length_takeWhile_add (p : Char → Bool) (cs : List Char) (n : ℕ) :
    cs.take ((cs.takeWhile p).length + n) = cs.takeWhile p ++ (cs.dropWhile p).take n := by
  have h := @List.take_length_add_append _ (cs.takeWhile p) (cs.dropWhile p) n
  rwa [List.takeWhile_append_dropWhile] at h

lemma take_length_takeWhile (p : Char → Bool) (cs : List Char) :
    cs.take (cs.takeWhile p).length = cs.takeWhile p := by
  simpa using take_length_takeWhile_add p cs 0

/-- A leading stretch is as long as anything of its kind at the head of the
text. -/
lemma length_le_takeWhile {p : Char → Bool} {u : List Char} (hu : ∀ d ∈ u, p d = true)
    (h : u <+: cs) : u.length ≤ (cs.takeWhile p).length := by
  obtain ⟨rest, rfl⟩ := h
  rw [List.takeWhile_append_of_pos hu, List.length_append]
  omega

/-- A leading stretch ends where the next character is not of its kind. -/
lemma takeWhile_append_cons {p : Char → Bool} {u rest : List Char} {d : Char}
    (hu : ∀ x ∈ u, p x = true) (hd : p d = false) : (u ++ d :: rest).takeWhile p = u := by
  rw [List.takeWhile_append_of_pos hu, List.takeWhile_cons_of_neg (by simp [hd]), List.append_nil]

lemma dropWhile_append_cons {p : Char → Bool} {u rest : List Char} {d : Char}
    (hu : ∀ x ∈ u, p x = true) (hd : p d = false) :
    (u ++ d :: rest).dropWhile p = d :: rest := by
  rw [List.dropWhile_append_of_pos hu, List.dropWhile_cons_of_neg (by simp [hd])]

/-- Behind a leading stretch that is not the whole text stands a character that
is not of its kind. -/
lemma exists_dropWhile_eq_cons {p : Char → Bool} (h : (cs.takeWhile p).length < cs.length) :
    ∃ d rest, cs.dropWhile p = d :: rest ∧ p d = false := by
  have hne : cs.dropWhile p ≠ [] := by
    intro hnil
    have happend : cs.takeWhile p ++ cs.dropWhile p = cs := List.takeWhile_append_dropWhile
    rw [hnil, List.append_nil] at happend
    rw [happend] at h
    exact lt_irrefl _ h
  exact ⟨_, _, (List.cons_head_tail hne).symm, List.head_dropWhile_not p hne⟩

/-! ### What a character opens -/

lemma isDigit_of_isAlpha (h : isAlpha c = true) : isDigit c = false := by
  simp only [isAlpha, isDigit, decide_eq_true_eq, decide_eq_false_iff_not] at h ⊢
  rintro ⟨-, hle⟩
  rcases h with ⟨h, -⟩ | ⟨h, -⟩ | rfl
  · exact absurd (Char.le_trans h hle) (by decide)
  · exact absurd (Char.le_trans h hle) (by decide)
  · exact absurd hle (by decide)

lemma lex_of_isDigit (h : isDigit c = true) (cs : List Char) : lex c cs = lexNumber c cs := by
  rw [lex, if_pos h]

lemma lex_of_isAlpha (h : isAlpha c = true) (cs : List Char) : lex c cs = lexWord c cs := by
  rw [lex, if_neg (by simp [isDigit_of_isAlpha h]), if_pos h]

/-- `Opens c cs l`: the token `l` is of the class that the character `c` opens
before `cs`. -/
inductive Opens (c : Char) (cs : List Char) : Lexed → Prop
  | number (hc : isDigit c = true) : Opens c cs (lexNumber c cs)
  | word (hc : isAlpha c = true) : Opens c cs (lexWord c cs)
  | mark {k : Kind} (hk : (k, [c]) ∈ symbols) : Opens c cs (verbatim k c cs 0)
  | operator {long short : Kind} (hlong : (long, [c, '=']) ∈ symbols)
      (hshort : (short, [c]) ∈ symbols) : Opens c cs (withEqual long short c cs)
  | slash (hc : c = '/') : Opens c cs (lexSlash c cs)
  | quote (hc : c = '"') : Opens c cs (lexString cs)
  | unexpected (hc : c ≠ '"') :
      Opens c cs ⟨.error, "unexpected character: '" ++ String.singleton c ++ "'", 0⟩

/-- What is read is what the first character opens. -/
lemma opens_lex (c : Char) (cs : List Char) : Opens c cs (lex c cs) := by
  rw [lex]
  split_ifs with hdigit halpha
  · exact .number hdigit
  · exact .word halpha
  · unfold lexSymbol
    split
    case h_11 | h_12 | h_13 | h_14 => exact .operator (by decide) (by decide)
    case h_15 => exact .slash rfl
    case h_16 => exact .quote rfl
    case h_17 hquote => exact .unexpected hquote
    all_goals exact .mark (by decide)

/-- A symbol is neither a string nor a comment, an error or the end. -/
lemma kind_ne_of_mem_symbols {p : Kind × List Char} (h : p ∈ symbols) :
    p.1 ≠ .string ∧ p.1 ≠ .comment ∧ p.1 ≠ .error ∧ p.1 ≠ .eof := by
  have hall : ∀ p ∈ symbols,
      p.1 ≠ .string ∧ p.1 ≠ .comment ∧ p.1 ≠ .error ∧ p.1 ≠ .eof := by decide
  exact hall p h

/-! ### What is read is a token -/

/-- A fraction is nothing, or a point and digits. -/
lemma take_fractionLength (cs : List Char) :
    fractionLength cs = 0 ∨ ∃ v, v ≠ [] ∧ (∀ d ∈ v, isDigit d = true) ∧
      cs.take (fractionLength cs) = '.' :: v := by
  unfold fractionLength
  split
  · rename_i cs
    dsimp only
    split_ifs with h
    · exact .inl rfl
    · refine .inr ⟨cs.takeWhile isDigit, ?_, fun d => List.mem_takeWhile_imp, ?_⟩
      · rwa [← List.length_pos_iff, Nat.pos_iff_ne_zero]
      · rw [List.take_succ_cons, take_length_takeWhile]
  · exact .inl rfl

lemma matches_lexNumber (hc : isDigit c = true) (cs : List Char) :
    Matches (lexNumber c cs).kind (c :: cs.take (lexNumber c cs).further) := by
  have hdigits : ∀ d ∈ c :: cs.takeWhile isDigit, isDigit d = true := by
    intro d hd
    rcases List.mem_cons.mp hd with rfl | hd
    · exact hc
    · exact List.mem_takeWhile_imp hd
  rw [lexNumber, verbatim]
  dsimp only
  rw [take_length_takeWhile_add]
  obtain h | ⟨v, hv, hvd, h⟩ := take_fractionLength (cs.dropWhile isDigit)
  · rw [h, List.take_zero, List.append_nil]
    exact .digits (by simp) hdigits
  · rw [h]
    exact .fraction (by simp) hdigits hv hvd

lemma matches_lexWord (hc : isAlpha c = true) (cs : List Char) :
    Matches (lexWord c cs).kind (c :: cs.take (lexWord c cs).further) := by
  rw [lexWord]
  dsimp only
  rw [take_length_takeWhile]
  by_cases hk : ∃ k : Keyword, k.word.toList = c :: cs.takeWhile isWordChar
  · obtain ⟨k, hk⟩ := hk
    rw [ofWord_ofList hk, ← hk]
    exact .keyword k
  · simp only [not_exists] at hk
    rw [ofWord_of_free hk]
    exact .identifier hc (fun d => List.mem_takeWhile_imp) hk

lemma matches_withEqual {long short : Kind} (hlong : (long, [c, '=']) ∈ symbols)
    (hshort : (short, [c]) ∈ symbols) (cs : List Char) :
    Matches (withEqual long short c cs).kind
      (c :: cs.take (withEqual long short c cs).further) := by
  rw [withEqual]
  split_ifs with h
  · obtain ⟨rest, rfl⟩ := List.head?_eq_some_iff.mp h
    exact .symbol hlong
  · exact .symbol hshort

lemma matches_lexSlash (cs : List Char) :
    Matches (lexSlash '/' cs).kind ('/' :: cs.take (lexSlash '/' cs).further) := by
  rw [lexSlash]
  split_ifs with h
  · obtain ⟨rest, rfl⟩ := List.head?_eq_some_iff.mp h
    dsimp only
    rw [List.drop_one, List.tail_cons, List.take_succ_cons, take_length_takeWhile]
    refine .comment fun hmem => ?_
    simpa using List.mem_takeWhile_imp hmem
  · have hslash : (Kind.slash, ['/']) ∈ symbols := by decide
    exact .symbol hslash

lemma matches_lexString (h : (lexString cs).kind ≠ .error) :
    Matches (lexString cs).kind ('"' :: cs.take (lexString cs).further) := by
  rw [lexString] at h ⊢
  split_ifs at h ⊢ with hlt
  · obtain ⟨d, rest, hdrop, hd⟩ := exists_dropWhile_eq_cons hlt
    obtain rfl : d = '"' := by simpa using hd
    dsimp only
    rw [take_length_takeWhile_add, hdrop]
    refine .string fun hmem => ?_
    simpa using List.mem_takeWhile_imp hmem
  · simp at h

/-- What is read as a token, and not as an error, is written as its class
says. -/
lemma matches_lex (h : (lex c cs).kind ≠ .error) :
    Matches (lex c cs).kind (c :: cs.take (lex c cs).further) := by
  have hopens := opens_lex c cs
  generalize lex c cs = l at h hopens ⊢
  cases hopens with
  | number hc => exact matches_lexNumber hc cs
  | word hc => exact matches_lexWord hc cs
  | mark hk => exact .symbol hk
  | operator hlong hshort => exact matches_withEqual hlong hshort cs
  | slash hc =>
      subst hc
      exact matches_lexSlash cs
  | quote hc =>
      subst hc
      exact matches_lexString h
  | unexpected _ => exact absurd rfl h

/-- The end is not read off a character. -/
lemma lex_kind_ne_eof (c : Char) (cs : List Char) : (lex c cs).kind ≠ .eof := by
  intro heof
  have hmatches := matches_lex (show (lex c cs).kind ≠ .error by simp [heof])
  rw [heof] at hmatches
  cases hmatches with
  | symbol h => exact (kind_ne_of_mem_symbols h).2.2.2 rfl

/-! ### Nothing longer is a token -/

/-- `Reaches l k n`: the token `l` is no error and takes at least `n` characters,
and if it takes no more, it is of the kind `k`. -/
structure Reaches (l : Lexed) (k : Kind) (n : ℕ) : Prop where
  kind_ne : l.kind ≠ .error
  le : n ≤ l.further + 1
  kind_eq : n = l.further + 1 → l.kind = k

lemma reaches_digits {u : List Char} (hu : ∀ d ∈ c :: u, isDigit d = true) (h : u <+: cs) :
    Reaches (lex c cs) .number (c :: u).length := by
  rw [lex_of_isDigit (hu c (by simp))]
  have hle := length_le_takeWhile (fun d hd => hu d (by simp [hd])) h
  refine ⟨by simp [lexNumber, verbatim], ?_, fun _ => rfl⟩
  simp only [lexNumber, verbatim, List.length_cons]
  omega

lemma reaches_fraction {u v : List Char} (hu : ∀ d ∈ c :: u, isDigit d = true) (hv : v ≠ [])
    (hvd : ∀ d ∈ v, isDigit d = true) (h : u ++ '.' :: v <+: cs) :
    Reaches (lex c cs) .number (c :: (u ++ '.' :: v)).length := by
  obtain ⟨rest, rfl⟩ := h
  have hud : ∀ d ∈ u, isDigit d = true := fun d hd => hu d (by simp [hd])
  have hle := length_le_takeWhile hvd (List.prefix_append v rest)
  have hpos := List.length_pos_iff.mpr hv
  rw [lex_of_isDigit (hu c (by simp)), List.append_assoc, List.cons_append]
  refine ⟨by simp [lexNumber, verbatim], ?_, fun _ => rfl⟩
  simp only [lexNumber, verbatim, takeWhile_append_cons hud (show isDigit '.' = false by decide),
    dropWhile_append_cons hud (show isDigit '.' = false by decide), fractionLength]
  rw [if_neg (by omega)]
  simp only [List.length_cons, List.length_append]
  omega

lemma ofWord_ne_error (s : String) : Kind.ofWord s ≠ .error := by
  rw [Kind.ofWord]
  cases Keyword.ofWord? s <;> simp

/-- A word is read to its end, and its kind is that of all of it. -/
lemma reaches_word {u : List Char} (hc : isAlpha c = true) (hu : ∀ d ∈ u, isWordChar d = true)
    (h : u <+: cs) :
    Reaches (lex c cs) (Kind.ofWord (String.ofList (c :: u))) (c :: u).length := by
  have hle := length_le_takeWhile hu h
  rw [lex_of_isAlpha hc]
  refine ⟨ofWord_ne_error _, by simpa [lexWord] using hle, fun heq => ?_⟩
  have hlen : u.length = (cs.takeWhile isWordChar).length := by simpa [lexWord] using heq
  have hword : u = cs.takeWhile isWordChar := by
    rw [List.prefix_iff_eq_take.mp h, hlen, take_length_takeWhile]
  rw [lexWord, ← hword]

lemma reaches_single {k : Kind} (h : lex c cs = verbatim k c cs 0) (hk : k ≠ .error) :
    Reaches (lex c cs) k [c].length := by
  rw [h]
  exact ⟨hk, le_rfl, fun _ => rfl⟩

lemma reaches_slash (cs : List Char) : Reaches (lex '/' cs) .slash ['/'].length := by
  have hlex : lex '/' cs = lexSlash '/' cs := rfl
  rw [hlex, lexSlash]
  split_ifs with h
  · exact ⟨by simp, by simp, by simp⟩
  · exact ⟨by simp [verbatim], by simp, fun _ => rfl⟩

/-- An operator is read alone where no equals sign follows. -/
lemma reaches_short {k long : Kind} (h : lex c cs = withEqual long k c cs) (hk : k ≠ .error)
    (hlong : long ≠ .error) : Reaches (lex c cs) k [c].length := by
  rw [h, withEqual]
  split_ifs
  · exact ⟨hlong, by simp, by simp [verbatim]⟩
  · exact ⟨hk, by simp, fun _ => rfl⟩

/-- An operator is read with the equals sign that follows. -/
lemma reaches_long {k short : Kind} (h : lex c cs = withEqual k short c cs) (hk : k ≠ .error)
    (hcs : ['='] <+: cs) : Reaches (lex c cs) k [c, '='].length := by
  obtain ⟨rest, rfl⟩ := hcs
  rw [h, withEqual, if_pos (by simp)]
  exact ⟨hk, le_rfl, fun _ => rfl⟩

lemma reaches_symbol {p : Kind × List Char} (hp : p ∈ symbols) (h : p.2 <+: c :: cs) :
    Reaches (lex c cs) p.1 p.2.length := by
  unfold symbols at hp
  fin_cases hp
  all_goals obtain ⟨rfl, htail⟩ := List.cons_prefix_cons.mp h
  any_goals exact reaches_single rfl (by decide)
  · exact reaches_slash cs
  any_goals exact reaches_short rfl (by decide) (by decide)
  all_goals exact reaches_long rfl (by decide) htail

lemma reaches_comment {w : List Char} (hw : '\n' ∉ w) (h : '/' :: w <+: cs) :
    Reaches (lex '/' cs) .comment ('/' :: '/' :: w).length := by
  obtain ⟨rest, rfl⟩ := h
  have hlex : lex '/' ('/' :: w ++ rest) = lexSlash '/' ('/' :: w ++ rest) := rfl
  have hle := length_le_takeWhile (p := (· ≠ '\n')) (u := w)
    (fun d hd => by simpa using ne_of_mem_of_not_mem hd hw) (List.prefix_append w rest)
  rw [hlex, lexSlash, if_pos (by simp)]
  refine ⟨by simp, ?_, fun _ => rfl⟩
  simpa using hle

lemma reaches_string {w : List Char} (hw : '"' ∉ w) (h : w ++ ['"'] <+: cs) :
    Reaches (lex '"' cs) .string ('"' :: (w ++ ['"'])).length := by
  obtain ⟨rest, rfl⟩ := h
  rw [List.append_assoc, List.singleton_append]
  have hlex : lex '"' (w ++ '"' :: rest) = lexString (w ++ '"' :: rest) := rfl
  have hbody : (w ++ '"' :: rest).takeWhile (· ≠ '"') = w :=
    takeWhile_append_cons (fun d hd => by simpa using ne_of_mem_of_not_mem hd hw) (by simp)
  rw [hlex, lexString, hbody, if_pos (by simp)]
  exact ⟨by simp, by simp, fun _ => rfl⟩

/-- Where a text begins with a token, one is read that is at least as long, and
it is that one if it is no longer. -/
lemma lex_of_matches {k : Kind} {w : List Char} (h : Matches k w) (hp : w <+: c :: cs) :
    Reaches (lex c cs) k w.length := by
  cases h with
  | digits hne hw =>
      obtain ⟨d, u, rfl⟩ := List.exists_cons_of_ne_nil hne
      obtain ⟨rfl, hu⟩ := List.cons_prefix_cons.mp hp
      exact reaches_digits hw hu
  | fraction hu hud hv hvd =>
      obtain ⟨d, u, rfl⟩ := List.exists_cons_of_ne_nil hu
      rw [List.cons_append] at hp ⊢
      obtain ⟨rfl, hu⟩ := List.cons_prefix_cons.mp hp
      exact reaches_fraction hud hv hvd hu
  | keyword k =>
      obtain ⟨hhead, hchars⟩ := isAlpha_word k
      cases hk : k.word.toList with
      | nil => simp [hk] at hhead
      | cons d u =>
          rw [hk] at hp hhead hchars
          obtain ⟨rfl, hu⟩ := List.cons_prefix_cons.mp hp
          rw [← ofWord_ofList hk]
          exact reaches_word (by simpa using hhead) (fun x hx => hchars x (by simp [hx])) hu
  | identifier hc hw hfree =>
      obtain ⟨rfl, hu⟩ := List.cons_prefix_cons.mp hp
      rw [← ofWord_of_free hfree]
      exact reaches_word hc hw hu
  | symbol h => exact reaches_symbol h hp
  | comment hw =>
      obtain ⟨rfl, htail⟩ := List.cons_prefix_cons.mp hp
      exact reaches_comment hw htail
  | string hw =>
      obtain ⟨rfl, htail⟩ := List.cons_prefix_cons.mp hp
      exact reaches_string hw htail

/-! ### The length of what is read -/

lemma fractionLength_le (cs : List Char) : fractionLength cs ≤ cs.length := by
  unfold fractionLength
  split
  · rename_i cs
    have hle := (List.takeWhile_prefix (l := cs) isDigit).length_le
    dsimp only
    split_ifs
    · exact Nat.zero_le _
    · simpa using hle
  · exact Nat.zero_le _

lemma further_withEqual_le (long short : Kind) (c : Char) (cs : List Char) :
    (withEqual long short c cs).further ≤ cs.length := by
  rw [withEqual]
  split_ifs with h
  · obtain ⟨rest, rfl⟩ := List.head?_eq_some_iff.mp h
    simp [verbatim]
  · simp [verbatim]

lemma further_lexSlash_le (c : Char) (cs : List Char) :
    (lexSlash c cs).further ≤ cs.length := by
  rw [lexSlash]
  split_ifs with h
  · obtain ⟨rest, rfl⟩ := List.head?_eq_some_iff.mp h
    have hle := (List.takeWhile_prefix (l := rest) (· ≠ '\n')).length_le
    simpa using hle
  · simp [verbatim]

lemma further_lexString_le (cs : List Char) : (lexString cs).further ≤ cs.length := by
  rw [lexString]
  split_ifs with h
  · exact h
  · exact le_rfl

lemma further_lexNumber_le (c : Char) (cs : List Char) :
    (lexNumber c cs).further ≤ cs.length := by
  calc (cs.takeWhile isDigit).length + fractionLength (cs.dropWhile isDigit)
      ≤ (cs.takeWhile isDigit).length + (cs.dropWhile isDigit).length :=
        Nat.add_le_add_left (fractionLength_le _) _
    _ = cs.length := by rw [← List.length_append, List.takeWhile_append_dropWhile]

/-- A token takes no more characters than there are. -/
lemma further_lex_le (c : Char) (cs : List Char) : (lex c cs).further ≤ cs.length := by
  have hopens := opens_lex c cs
  generalize lex c cs = l at hopens ⊢
  cases hopens with
  | number _ => exact further_lexNumber_le c cs
  | word _ => exact (List.takeWhile_prefix isWordChar).length_le
  | mark _ => exact Nat.zero_le _
  | operator _ _ => exact further_withEqual_le _ _ c cs
  | slash _ => exact further_lexSlash_le c cs
  | quote _ => exact further_lexString_le cs
  | unexpected _ => exact Nat.zero_le _

/-! ### The longest match -/

lemma prefix_cons_take (c : Char) (cs : List Char) (n : ℕ) : c :: cs.take n <+: c :: cs :=
  List.cons_prefix_cons.mpr ⟨rfl, List.take_prefix n cs⟩

/-- A text that begins with no token is read as an error. -/
lemma lex_kind_eq_error_iff :
    (lex c cs).kind = .error ↔ ∀ k w, Matches k w → ¬ w <+: c :: cs := by
  constructor
  · intro herr k w hw hp
    exact (lex_of_matches hw hp).kind_ne herr
  · intro hnone
    by_contra hne
    exact hnone _ _ (matches_lex hne) (prefix_cons_take _ _ _)

/-- Whether a token is a string without an end: an error, and told as such. -/
def Kind.IsUnterminated (k : Kind) (lexeme : String) : Prop :=
  k = .error ∧ lexeme = "unterminated string"

instance (k : Kind) (lexeme : String) : Decidable (k.IsUnterminated lexeme) :=
  inferInstanceAs (Decidable (_ ∧ _))

/-- An error is a string without an end, up to the end of the text, or a single
character. -/
lemma lex_of_error (h : (lex c cs).kind = .error) :
    if c = '"' then lex c cs = ⟨.error, "unterminated string", cs.length⟩
    else lex c cs = ⟨.error, "unexpected character: '" ++ String.singleton c ++ "'", 0⟩ := by
  have hopens := opens_lex c cs
  generalize lex c cs = l at h hopens ⊢
  cases hopens with
  | number _ => cases h
  | word _ => exact absurd h (ofWord_ne_error _)
  | mark hk => exact absurd h (kind_ne_of_mem_symbols hk).2.2.1
  | operator hlong hshort =>
      rw [withEqual] at h
      split_ifs at h
      · exact absurd h (kind_ne_of_mem_symbols hlong).2.2.1
      · exact absurd h (kind_ne_of_mem_symbols hshort).2.2.1
  | slash _ =>
      rw [lexSlash] at h
      split_ifs at h
      cases h
  | quote hc =>
      rw [if_pos hc]
      rw [lexString] at h ⊢
      split_ifs at h ⊢
      rfl
  | unexpected hc => rw [if_neg hc]

/-- What is read as a token is a longest match. -/
lemma longestMatch_lex (h : (lex c cs).kind ≠ .error) :
    LongestMatch (c :: cs) (lex c cs).kind (c :: cs.take (lex c cs).further) := by
  refine ⟨matches_lex h, prefix_cons_take _ _ _, ?_⟩
  intro k w hw hp
  rw [List.length_cons, List.length_take, Nat.min_eq_left (further_lex_le c cs)]
  exact (lex_of_matches hw hp).le

/-- A longest match is what is read. -/
lemma lex_of_longestMatch {k : Kind} {w : List Char} (h : LongestMatch (c :: cs) k w) :
    (lex c cs).kind = k ∧ (lex c cs).further + 1 = w.length := by
  obtain ⟨hw, hp, hlongest⟩ := h
  have hreaches := lex_of_matches hw hp
  have hle := hlongest _ _ (matches_lex hreaches.kind_ne) (prefix_cons_take _ _ _)
  rw [List.length_cons, List.length_take, Nat.min_eq_left (further_lex_le c cs)] at hle
  have hlen := Nat.le_antisymm hle hreaches.le
  exact ⟨hreaches.kind_eq hlen.symm, hlen⟩

end Token

namespace Scanner

open Token

variable {s : Scanner} {c : Char} {cs : List Char}

/-- A scan skips the blanks and reads one token. -/
lemma scan_of_cons (h : s.rest.dropWhile isBlank = c :: cs) :
    s.scan =
      (⟨(lex c cs).kind, (lex c cs).lexeme, s.offset + (s.rest.takeWhile isBlank).length,
          (lex c cs).further + 1,
          s.line + newlines (s.rest.takeWhile isBlank) +
            newlines (c :: cs.take (lex c cs).further)⟩,
        ⟨cs.drop (lex c cs).further,
          s.offset + (s.rest.takeWhile isBlank).length + ((lex c cs).further + 1),
          s.line + newlines (s.rest.takeWhile isBlank) +
            newlines (c :: cs.take (lex c cs).further), s.done⟩) := by
  simp only [scan, skipBlank, h]

/-- **The token reader takes the longest match**: where a character follows the
blanks, the scan skips exactly the blanks, and the token has the kind and the
length of the longest match of the lexical grammar with what follows. Where
nothing matches, it is an error: a string without an end if the character is a
quote, and then all that follows; otherwise the character, and only that. The
reading goes on right behind the token. -/
theorem scan_longestMatch (s : Scanner) (c : Char) (cs : List Char)
    (h : s.rest.dropWhile isBlank = c :: cs) :
    s.scan.1.start = s.offset + (s.rest.takeWhile isBlank).length ∧
      s.scan.2.rest = (c :: cs).drop s.scan.1.length ∧ s.scan.2.offset = s.scan.1.stop ∧
      ((∃ k w, LongestMatch (c :: cs) k w) ∨ ∀ k w, Matches k w → ¬ w <+: c :: cs) ∧
      (∀ k w, LongestMatch (c :: cs) k w →
        s.scan.1.kind = k ∧ s.scan.1.length = w.length) ∧
      ((∀ k w, Matches k w → ¬ w <+: c :: cs) → s.scan.1.kind = .error ∧
        if c = '"' then
          s.scan.1.lexeme = "unterminated string" ∧ s.scan.1.length = (c :: cs).length
        else s.scan.1.lexeme = "unexpected character: '" ++ String.singleton c ++ "'" ∧
          s.scan.1.length = 1) := by
  rw [scan_of_cons h]
  refine ⟨rfl, rfl, rfl, ?_, fun k w => lex_of_longestMatch, fun hnone => ?_⟩
  · by_cases herr : (lex c cs).kind = .error
    · exact .inr (lex_kind_eq_error_iff.mp herr)
    · exact .inl ⟨_, _, longestMatch_lex herr⟩
  · have herr := lex_kind_eq_error_iff.mpr hnone
    refine ⟨herr, ?_⟩
    have hlex := lex_of_error herr
    split_ifs at hlex ⊢ with hc
    · rw [hlex]
      exact ⟨rfl, rfl⟩
    · rw [hlex]
      exact ⟨rfl, rfl⟩

/-- Of two numbers that stand at the head of a text, the longer one is read, and
the second point is left for the next token. -/
theorem scan_longestMatch_fraction :
    (start [' ', '1', '.', '2', '.']).rest.dropWhile isBlank = ['1', '.', '2', '.'] ∧
      (∃ w, LongestMatch ['1', '.', '2', '.'] .number w ∧ w.length = 3) ∧
      (start [' ', '1', '.', '2', '.']).scan.2.rest = ['.'] := by
  have hrest : (start [' ', '1', '.', '2', '.']).rest.dropWhile isBlank = ['1', '.', '2', '.'] := by
    decide
  obtain ⟨-, hnext, -, hfound, hread, -⟩ := scan_longestMatch _ _ _ hrest
  refine ⟨hrest, ?_, hnext⟩
  obtain ⟨k, w, hw⟩ | hnone := hfound
  · obtain ⟨rfl, hlen⟩ := hread k w hw
    exact ⟨w, hw, hlen.symm⟩
  · exact absurd (by simp) (hnone .number ['1'] (.digits (by simp) (by simp [isDigit])))

end Scanner

end ExprMachine

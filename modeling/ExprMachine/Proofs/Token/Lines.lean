import ExprMachine.Proofs.Text.Lines
import ExprMachine.Proofs.Token.Tiling

/-!
The lines that tokens are on.

* `Token.Placed`: a token ends in the text, on the line that it names, and is written
  there as its class says.
* `Token.newline_notMem_lex`: only a string, with its end or without it, takes a newline.
* `Scanner.Lined`: what is left is what follows the offset reached, and the line reached
  is one more than the newlines before that offset. One scan keeps this and places its
  token (`Scanner.Lined.placed_scan`, `Scanner.Lined.scan_ne`).
* `Scanner.Lined.forall_tokens`: what the scans of such a reading give their tokens, all
  tokens have. The induction is the token reader's own.
* `placed_of_mem_tokenize`: all tokens of a text.
* `Token.Placed.newlinesBefore_start`: an operator is all on one line.
* `Numbered`: what follows for the lines of a text as a whole; `Source.numbered_tokenize`
  states it of every source.
-/

namespace ExprMachine

open Lines

namespace Token

/-! ### Tokens on one line -/

section

variable {c : Char} {cs w : List Char}

lemma newline_notMem {p : Char → Bool} (hp : p '\n' = false) (hw : ∀ c ∈ w, p c = true) :
    '\n' ∉ w := by
  intro hmem
  simpa [hp] using hw _ hmem

/-- Only strings are written across lines. -/
lemma newline_notMem_of_matches {k : Kind} (h : Matches k w) (hk : k ≠ .string) : '\n' ∉ w := by
  have hdigit : isDigit '\n' = false := by decide
  have hword : isWordChar '\n' = false := by decide
  cases h with
  | digits _ hw => exact newline_notMem hdigit hw
  | fraction _ hu _ hv => simp [newline_notMem hdigit hu, newline_notMem hdigit hv]
  | keyword k => exact newline_notMem hword (isAlpha_word k).2
  | @identifier c w hc hw _ =>
      have hne : '\n' ≠ c := by
        rintro rfl
        cases hc
      simp [hne, newline_notMem hword hw]
  | symbol h =>
      have hall : ∀ p ∈ symbols, '\n' ∉ p.2 := by decide
      exact hall _ h
  | comment hw => simp [hw]
  | string _ => exact absurd rfl hk

/-- Only a string, with its end or without it, takes a newline. -/
lemma newline_notMem_lex (hc : isBlank c = false) (hstring : (lex c cs).kind ≠ .string)
    (hopen : ¬ (lex c cs).kind.IsUnterminated (lex c cs).lexeme) :
    '\n' ∉ c :: cs.take (lex c cs).further := by
  by_cases herror : (lex c cs).kind = .error
  · have hlex := lex_of_error herror
    split_ifs at hlex
    · rw [hlex] at hopen
      exact absurd ⟨rfl, rfl⟩ hopen
    · -- a single character, and no blank
      rw [hlex, List.take_zero, List.mem_singleton]
      rintro rfl
      cases hc
  · exact newline_notMem_of_matches (matches_lex herror) hstring

end

/-- `t.Placed text`: the token `t` ends in the text on its line, and is written there as
its class says. -/
structure Placed (text : List Char) (t : Token) : Prop where
  stop_le : t.stop ≤ text.length
  line : t.line = 1 + newlinesBefore text t.stop
  matches_span : t.kind ≠ .error → t.kind ≠ .eof → Matches t.kind (t.span text)

end Token

namespace Scanner

open Token

variable {text : List Char} {s : Scanner}

/-- `s.Lined text`: what is left follows the offset reached, and the line reached is that
of the offset. -/
structure Lined (s : Scanner) (text : List Char) : Prop extends s.Reads text where
  line : s.line = 1 + newlinesBefore text s.offset

lemma lined_start (text : List Char) : (start text).Lined text :=
  ⟨reads_start text, rfl⟩

/-- Reading some of what is left reads its newlines. -/
lemma Reads.newlinesBefore_add (h : s.Reads text) (n : ℕ) :
    newlinesBefore text (s.offset + n) =
      newlinesBefore text s.offset + newlines (s.rest.take n) := by
  rw [Lines.newlinesBefore_add, ← h.rest_eq, newlines]

lemma Lined.skipBlank (h : s.Lined text) : s.skipBlank.Lined text := by
  refine ⟨h.toReads.skipBlank, ?_⟩
  have htake := take_length_takeWhile isBlank s.rest
  have hadd := h.toReads.newlinesBefore_add (s.rest.takeWhile isBlank).length
  rw [htake] at hadd
  change s.line + newlines (s.rest.takeWhile isBlank) =
    1 + newlinesBefore text (s.offset + (s.rest.takeWhile isBlank).length)
  rw [hadd, h.line, Nat.add_assoc]

/-- One scan reads a token that is where it says. -/
lemma Lined.placed_scan (h : s.Lined text) : s.scan.1.Placed text := by
  have hskip := h.skipBlank
  cases hrest : s.rest.dropWhile isBlank with
  | nil =>
      rw [scan_of_nil hrest]
      exact ⟨hskip.offset_le, hskip.line, fun _ hne => absurd rfl hne⟩
  | cons c cs =>
      have hcons : s.skipBlank.rest = c :: cs := hrest
      have hscan := scan_of_cons hrest
      have hne : s.scan.1.kind ≠ .eof := by
        rw [hscan]
        exact lex_kind_ne_eof c cs
      obtain ⟨hreads, hstop, -⟩ := h.toReads.scan_ne hne
      refine ⟨hstop ▸ hreads.offset_le, ?_, fun herror _ => ?_⟩
      · have hadd := hskip.newlinesBefore_add ((lex c cs).further + 1)
        rw [hcons, List.take_succ_cons] at hadd
        rw [hscan]
        change s.skipBlank.line + newlines (c :: cs.take (lex c cs).further) =
          1 + newlinesBefore text (s.skipBlank.offset + ((lex c cs).further + 1))
        rw [hadd, hskip.line, Nat.add_assoc]
      · rw [span, start_scan, ← hskip.rest_eq, hcons, hscan, List.take_succ_cons]
        rw [hscan] at herror
        exact matches_lex herror

/-- Behind any token but the end, the reading goes on from the line reached. -/
lemma Lined.scan_ne (h : s.Lined text) (hne : s.scan.1.kind ≠ .eof) : s.scan.2.Lined text := by
  obtain ⟨hreads, hstop, -⟩ := h.toReads.scan_ne hne
  refine ⟨hreads, ?_⟩
  rw [line_snd_scan, hstop]
  exact h.placed_scan.line

/-- What the scans of a reading give their tokens, all tokens that are left have. -/
lemma Lined.forall_tokens {P : Token → Prop} (hP : ∀ s : Scanner, s.Lined text → P s.scan.1)
    (h : s.Lined text) : ∀ t ∈ s.tokens, P t := by
  induction s using scan_induction with
  | eof s heof =>
      intro t ht
      rw [tokens_of_eof heof, List.mem_singleton] at ht
      exact ht ▸ hP s h
  | token s hne ih =>
      intro t ht
      rw [tokens_of_ne hne, List.mem_cons] at ht
      rcases ht with rfl | ht
      · exact hP s h
      · exact ih (h.scan_ne hne) t ht

/-- A token that takes no newline ends on the line that the blanks before it lead to. -/
lemma line_scan (hstring : s.scan.1.kind ≠ .string)
    (hopen : ¬ s.scan.1.kind.IsUnterminated s.scan.1.lexeme) :
    s.scan.1.line = s.skipBlank.line := by
  cases hrest : s.rest.dropWhile isBlank with
  | nil => rw [scan_of_nil hrest]
  | cons c cs =>
      have hblank : isBlank c = false := by
        have hnot := List.head?_dropWhile_not isBlank s.rest
        rwa [hrest] at hnot
      rw [scan_of_cons hrest] at hstring hopen ⊢
      have hcount : newlines (c :: cs.take (lex c cs).further) = 0 :=
        List.count_eq_zero.mpr (newline_notMem_lex hblank hstring hopen)
      dsimp only
      rw [hcount, Nat.add_zero, skipBlank]

/-- Any token but a string, with its end or without it, starts on the line that it names. -/
lemma Lined.line_start_scan (h : s.Lined text) (hstring : s.scan.1.kind ≠ .string)
    (hopen : ¬ s.scan.1.kind.IsUnterminated s.scan.1.lexeme) :
    s.scan.1.line = 1 + newlinesBefore text s.scan.1.start := by
  rw [line_scan hstring hopen, start_scan]
  exact h.skipBlank.line

end Scanner

variable {text : List Char} {t : Token}

/-- The tokens of a text are where they say. -/
lemma placed_of_mem_tokenize (ht : t ∈ tokenize text) : t.Placed text :=
  (Scanner.lined_start text).forall_tokens (fun _ => Scanner.Lined.placed_scan) t ht

namespace Token

lemma start_le_stop (t : Token) : t.start ≤ t.stop :=
  Nat.le_add_right _ _

/-- Whether a kind is that of an operator or of a punctuation mark. -/
def Kind.IsSymbol (k : Kind) : Prop :=
  ∃ w, (k, w) ∈ symbols

/-- An operator is all on one line. -/
lemma Placed.newlinesBefore_start (h : t.Placed text) (hk : t.kind.IsSymbol) :
    newlinesBefore text t.stop = newlinesBefore text t.start := by
  obtain ⟨v, hv⟩ := hk
  obtain ⟨hstring, -, herror, heof⟩ := kind_ne_of_mem_symbols hv
  have hspan := newline_notMem_of_matches (h.matches_span herror heof) hstring
  rw [stop, newlinesBefore_add, ← span, List.count_eq_zero.mpr hspan, Nat.add_zero]

end Token

/-! ### The lines of a text as a whole -/

/-- `Numbered text tokens`: the tokens name the lines of the text that they are on. -/
structure Numbered (text : List Char) (tokens : List Token) : Prop where
  /-- A token names the line on which it ends. -/
  line : ∀ t ∈ tokens, t.stop ≤ text.length ∧ t.line = 1 + newlinesBefore text t.stop
  /-- No token names a line before that of an earlier token. -/
  ordered : tokens.Pairwise fun t u => t.line ≤ u.line
  /-- The lines named are lines of the text. -/
  within : ∀ t ∈ tokens, 1 ≤ t.line ∧ t.line ≤ (split text).length
  /-- Any token but a string, with its end or without it, starts on the line that it names. -/
  line_start : ∀ t ∈ tokens, t.kind ≠ .string → ¬ t.kind.IsUnterminated t.lexeme →
    t.line = 1 + newlinesBefore text t.start

/-- Tokens do not overlap. -/
lemma Tiles.pairwise {tokens : List Token} (h : Tiles text tokens) :
    tokens.Pairwise fun t u => t.stop ≤ u.start := by
  let Precedes : Token → Token → Prop := fun t u => t.stop ≤ u.start
  have : Trans Precedes Precedes Precedes :=
    ⟨fun {_ u _} htu huv => htu.trans (u.start_le_stop.trans huv)⟩
  exact List.isChain_iff_pairwise.mp h.ordered

/-- No token ends before an earlier one. -/
lemma Tiles.pairwise_stop {tokens : List Token} (h : Tiles text tokens) :
    tokens.Pairwise fun t u => t.stop ≤ u.stop :=
  h.pairwise.imp fun {_ u} htu => htu.trans u.start_le_stop

/-- **The line numbers of tokens are exact**, also those of the end token and of strings that
take several lines or have no end. -/
theorem Source.numbered_tokenize (s : Source) : Numbered s.text (tokenize s.text) where
  line t ht := ⟨(placed_of_mem_tokenize ht).stop_le, (placed_of_mem_tokenize ht).line⟩
  ordered := by
    refine s.tiles_tokenize.pairwise_stop.imp_of_mem fun {t u} ht hu hle => ?_
    rw [(placed_of_mem_tokenize ht).line, (placed_of_mem_tokenize hu).line]
    exact Nat.add_le_add_left (newlinesBefore_mono _ hle) 1
  within t ht := by
    have hcount : newlinesBefore s.text t.stop ≤ s.text.count '\n' :=
      (List.take_sublist _ _).count_le _
    rw [(placed_of_mem_tokenize ht).line, length_split]
    omega
  line_start := (Scanner.lined_start s.text).forall_tokens fun _ => Scanner.Lined.line_start_scan

/-- A string on two lines, a number behind it, and a string without an end. -/
example : (tokenize "\"a\nb\" 1\n\"c\n".toList).map Token.line = [2, 2, 4, 4] := by
  decide +kernel

end ExprMachine

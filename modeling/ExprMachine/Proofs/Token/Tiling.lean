import ExprMachine.Proofs.Token.LongestMatch
import ExprMachine.Proofs.Token.Stream
import ExprMachine.Text.Utf8

/-!
The tokens of a text cover it without loss.

* `Token.span`, `Token.Kind.written?`: the characters that a token covers, and how
  it is written as far as its own text tells.
* `Tile`: what is between a place in the text and the end of the next token:
  blanks, and then the characters of the token.
* `Tiled`: tiles laid end to end, the last one of the end token.
* `Scanner.Reads.tile_scan`: one scan lays one tile.
* `Scanner.Reads.tiled_tokens`: scanning to the end lays all of them. The induction is
  the token reader's own; its invariant is that what is left of the text is
  what follows the offset reached (`Scanner.Reads`).
* `Tiles`: what follows for the text as a whole; `Source.tiles_tokenize` states it
  of every source.
-/

namespace ExprMachine

namespace Token

/-- The characters of a text that a token covers. -/
def span (text : List Char) (t : Token) : List Char :=
  (text.drop t.start).take t.length

/-- How a token with a given text is written: a string in quotes, a comment
behind its slashes, any other token as the text says. The text of an error is a
message. -/
def Kind.written? (k : Kind) (lexeme : String) : Option (List Char) :=
  match k with
  | .string => some ('"' :: (lexeme.toList ++ ['"']))
  | .comment => some ('/' :: '/' :: lexeme.toList)
  | .error => none
  | _ => some lexeme.toList

end Token

open Token

/-- `Tiles text tokens`: the tokens cover the text but for blanks. -/
structure Tiles (text : List Char) (tokens : List Token) : Prop where
  /-- There is one end token, the last, of no length and behind all characters.
  Every other token has some length. -/
  ends : ∃ init eof, tokens = init ++ [eof] ∧ eof.kind = .eof ∧ eof.start = text.length ∧
    eof.length = 0 ∧ ∀ t ∈ init, t.kind ≠ .eof ∧ 1 ≤ t.length
  /-- No token begins before the one before it has ended. -/
  ordered : tokens.IsChain fun t u => t.stop ≤ u.start
  /-- What no token covers is blank. -/
  uncovered : ∀ (i : ℕ) c, text[i]? = some c → (∀ t ∈ tokens, ¬ (t.start ≤ i ∧ i < t.stop)) →
    isBlank c = true
  /-- No token begins with a blank. -/
  starts : ∀ t ∈ tokens, ∀ c, text[t.start]? = some c → isBlank c = false
  /-- A token covers what it is written as. -/
  written : ∀ t ∈ tokens, ∀ w, t.kind.written? t.lexeme = some w → t.span text = w
  /-- The text is the tokens one after the other, each behind some blanks. -/
  concatenation : ∃ gaps : List (List Char), gaps.length = tokens.length ∧
    (∀ gap ∈ gaps, ∀ c ∈ gap, isBlank c = true) ∧
    text = (List.zipWith (fun gap t => gap ++ t.span text) gaps tokens).flatten

/-! ### Tiles laid end to end -/

/-- From the place `n` on, the text is blanks and then the token `t`. -/
structure Tile (text : List Char) (n : ℕ) (t : Token) : Prop where
  /-- Only blanks lie before the token. -/
  gap : ∃ gap : List Char, (∀ c ∈ gap, isBlank c = true) ∧ t.start = n + gap.length ∧
    text.drop n = gap ++ text.drop t.start
  starts : ∀ c, text[t.start]? = some c → isBlank c = false
  written : ∀ w, t.kind.written? t.lexeme = some w → t.span text = w

/-- From the place `n` on, the text is covered by tiles up to the end token. -/
inductive Tiled (text : List Char) : ℕ → List Token → Prop
  /-- The end token. -/
  | last {n : ℕ} {t : Token} (htile : Tile text n t) (hkind : t.kind = .eof)
      (hstart : t.start = text.length) (hlength : t.length = 0) : Tiled text n [t]
  /-- Any other token. -/
  | next {n : ℕ} {t : Token} {ts : List Token} (htile : Tile text n t) (hkind : t.kind ≠ .eof)
      (hlength : 1 ≤ t.length) (hrest : Tiled text t.stop ts) : Tiled text n (t :: ts)

variable {text : List Char} {n : ℕ} {t : Token} {ts : List Token}

lemma Tile.le_start (h : Tile text n t) : n ≤ t.start := by
  obtain ⟨gap, -, hstart, -⟩ := h.gap
  omega

/-- A character before the token of a tile is blank. -/
lemma Tile.isBlank_of_lt (h : Tile text n t) {i : ℕ} {c : Char} (hn : n ≤ i) (hi : i < t.start)
    (hc : text[i]? = some c) : isBlank c = true := by
  obtain ⟨gap, hgap, hstart, hdrop⟩ := h.gap
  have hmem : gap[i - n]? = some c := by
    have hget : (text.drop n)[i - n]? = some c := by
      rw [List.getElem?_drop, Nat.add_sub_cancel' hn, hc]
    rw [hdrop, List.getElem?_append_left (by omega)] at hget
    exact hget
  exact hgap c (List.mem_of_getElem? hmem)

namespace Tiled

lemma ends (h : Tiled text n ts) :
    ∃ init eof, ts = init ++ [eof] ∧ eof.kind = .eof ∧ eof.start = text.length ∧
      eof.length = 0 ∧ ∀ t ∈ init, t.kind ≠ .eof ∧ 1 ≤ t.length := by
  induction h with
  | @last n t htile hkind hstart hlength => exact ⟨[], t, rfl, hkind, hstart, hlength, by simp⟩
  | @next n t ts htile hkind hlength hrest ih =>
      obtain ⟨init, eof, rfl, heof, hstart, hzero, hinit⟩ := ih
      refine ⟨t :: init, eof, rfl, heof, hstart, hzero, ?_⟩
      intro u hu
      rcases List.mem_cons.mp hu with rfl | hu
      · exact ⟨hkind, hlength⟩
      · exact hinit u hu

lemma exists_tile (h : Tiled text n ts) : ∀ t ∈ ts, ∃ m, Tile text m t := by
  induction h with
  | @last n t htile _ _ _ =>
      intro u hu
      obtain rfl := List.mem_singleton.mp hu
      exact ⟨n, htile⟩
  | @next n t ts htile _ _ _ ih =>
      intro u hu
      rcases List.mem_cons.mp hu with rfl | hu
      · exact ⟨n, htile⟩
      · exact ih u hu

lemma isChain (h : Tiled text n ts) : ts.IsChain fun t u => t.stop ≤ u.start := by
  induction h with
  | last => exact .singleton _
  | next _ _ _ hrest ih =>
      cases hrest with
      | last htile _ _ _ => exact .cons_cons htile.le_start ih
      | next htile _ _ _ => exact .cons_cons htile.le_start ih

/-- A character that no token covers lies before some token, in the tile of that
token. -/
lemma isBlank_of_uncovered (h : Tiled text n ts) {i : ℕ} {c : Char} (hn : n ≤ i)
    (hc : text[i]? = some c) (huncovered : ∀ t ∈ ts, ¬ (t.start ≤ i ∧ i < t.stop)) :
    isBlank c = true := by
  induction h with
  | @last n t htile hkind hstart hlength =>
      have hi := (List.getElem?_eq_some_iff.mp hc).1
      exact htile.isBlank_of_lt hn (by omega) hc
  | @next n t ts htile hkind hlength hrest ih =>
      have ht := huncovered t (by simp)
      by_cases hi : i < t.start
      · exact htile.isBlank_of_lt hn hi hc
      · exact ih (by omega) fun u hu => huncovered u (by simp [hu])

/-- The text from a place on is the spans of the tokens, each behind some
blanks. -/
lemma concatenation (h : Tiled text n ts) :
    ∃ gaps : List (List Char), gaps.length = ts.length ∧
      (∀ gap ∈ gaps, ∀ c ∈ gap, isBlank c = true) ∧
      text.drop n = (List.zipWith (fun gap t => gap ++ t.span text) gaps ts).flatten := by
  induction h with
  | @last n t htile hkind hstart hlength =>
      obtain ⟨gap, hgap, -, hdrop⟩ := htile.gap
      refine ⟨[gap], rfl, by simpa using hgap, ?_⟩
      rw [hdrop, hstart]
      simp [span, hlength]
  | @next n t ts htile hkind hlength hrest ih =>
      obtain ⟨gap, hgap, -, hdrop⟩ := htile.gap
      obtain ⟨gaps, hlen, hgaps, htext⟩ := ih
      refine ⟨gap :: gaps, by simp [hlen], ?_, ?_⟩
      · intro g hg
        rcases List.mem_cons.mp hg with rfl | hg
        · exact hgap
        · exact hgaps g hg
      · have hspan : text.drop t.start = t.span text ++ text.drop t.stop := by
          rw [span, stop, ← List.drop_drop, List.take_append_drop]
        rw [hdrop, hspan, htext]
        simp

end Tiled

lemma tiles_of_tiled (h : Tiled text 0 ts) : Tiles text ts where
  ends := h.ends
  ordered := h.isChain
  uncovered _ _ := h.isBlank_of_uncovered (Nat.zero_le _)
  starts t ht := by
    obtain ⟨m, htile⟩ := h.exists_tile t ht
    exact htile.starts
  written t ht := by
    obtain ⟨m, htile⟩ := h.exists_tile t ht
    exact htile.written
  concatenation := h.concatenation

/-! ### What is read, as it is written -/

namespace Token

variable {c : Char} {cs w : List Char}

/-- A token that is shown as it is written covers what it shows. -/
lemma eq_of_written?_verbatim {k : Kind} {m : ℕ}
    (hk : ∀ lexeme, k.written? lexeme = some lexeme.toList)
    (h : (verbatim k c cs m).kind.written? (verbatim k c cs m).lexeme = some w) :
    w = c :: cs.take (verbatim k c cs m).further := by
  rw [verbatim, hk, String.toList_ofList] at h
  exact (Option.some.inj h).symm

lemma eq_of_written?_withEqual {long short : Kind}
    (hlong : ∀ lexeme, long.written? lexeme = some lexeme.toList)
    (hshort : ∀ lexeme, short.written? lexeme = some lexeme.toList)
    (h : (withEqual long short c cs).kind.written? (withEqual long short c cs).lexeme = some w) :
    w = c :: cs.take (withEqual long short c cs).further := by
  rw [withEqual] at h ⊢
  split_ifs at h ⊢
  · exact eq_of_written?_verbatim hlong h
  · exact eq_of_written?_verbatim hshort h

lemma eq_of_written?_lexWord
    (h : (lexWord c cs).kind.written? (lexWord c cs).lexeme = some w) :
    w = c :: cs.take (lexWord c cs).further := by
  have hword : ∀ s lexeme, (Kind.ofWord s).written? lexeme = some lexeme.toList := by
    intro s lexeme
    rw [Kind.ofWord]
    cases Keyword.ofWord? s <;> rfl
  simp only [lexWord, hword, String.toList_ofList] at h ⊢
  rw [take_length_takeWhile]
  exact (Option.some.inj h).symm

lemma eq_of_written?_lexSlash
    (h : (lexSlash '/' cs).kind.written? (lexSlash '/' cs).lexeme = some w) :
    w = '/' :: cs.take (lexSlash '/' cs).further := by
  rw [lexSlash] at h ⊢
  split_ifs at h ⊢ with hslash
  · obtain ⟨rest, rfl⟩ := List.head?_eq_some_iff.mp hslash
    simp only [Kind.written?, String.toList_ofList, List.drop_one, List.tail_cons] at h ⊢
    rw [List.take_succ_cons, take_length_takeWhile]
    exact (Option.some.inj h).symm
  · exact eq_of_written?_verbatim (fun _ => rfl) h

lemma eq_of_written?_lexString
    (h : (lexString cs).kind.written? (lexString cs).lexeme = some w) :
    w = '"' :: cs.take (lexString cs).further := by
  rw [lexString] at h ⊢
  split_ifs at h ⊢ with hlt
  · obtain ⟨d, rest, hdrop, hd⟩ := exists_dropWhile_eq_cons hlt
    obtain rfl : d = '"' := by simpa using hd
    simp only [Kind.written?, String.toList_ofList] at h ⊢
    rw [take_length_takeWhile_add, hdrop]
    exact (Option.some.inj h).symm
  · cases h

/-- A symbol is shown as it is written. -/
lemma written?_of_mem_symbols {k : Kind} {v : List Char} (h : (k, v) ∈ symbols)
    (lexeme : String) : k.written? lexeme = some lexeme.toList := by
  obtain ⟨hstring, hcomment, herror, -⟩ := kind_ne_of_mem_symbols h
  cases k with
  | string => exact absurd rfl hstring
  | comment => exact absurd rfl hcomment
  | error => exact absurd rfl herror
  | _ => rfl

/-- A token covers what it is written as. -/
lemma eq_of_written?_lex (h : (lex c cs).kind.written? (lex c cs).lexeme = some w) :
    w = c :: cs.take (lex c cs).further := by
  have hopens := opens_lex c cs
  generalize lex c cs = l at h hopens ⊢
  cases hopens with
  | number _ => exact eq_of_written?_verbatim (fun _ => rfl) h
  | word _ => exact eq_of_written?_lexWord h
  | mark hk => exact eq_of_written?_verbatim (written?_of_mem_symbols hk) h
  | operator hlong hshort =>
      exact eq_of_written?_withEqual (written?_of_mem_symbols hlong)
        (written?_of_mem_symbols hshort) h
  | slash hc =>
      subst hc
      exact eq_of_written?_lexSlash h
  | quote hc =>
      subst hc
      exact eq_of_written?_lexString h
  | unexpected _ => cases h

end Token

/-! ### Scanning -/

namespace Scanner

variable {s : Scanner}

/-- `s.Reads text`: what is left is what follows the offset reached. -/
structure Reads (s : Scanner) (text : List Char) : Prop where
  offset_le : s.offset ≤ text.length
  rest_eq : s.rest = text.drop s.offset

lemma reads_start (text : List Char) : (start text).Reads text :=
  ⟨Nat.zero_le _, rfl⟩

/-- Reading some of what is left leaves what follows. -/
lemma Reads.advance (h : s.Reads text) {s' : Scanner} {n : ℕ} (hn : n ≤ s.rest.length)
    (hrest : s'.rest = s.rest.drop n) (hoffset : s'.offset = s.offset + n) : s'.Reads text := by
  have hle := h.offset_le
  rw [h.rest_eq, List.length_drop] at hn
  refine ⟨by omega, ?_⟩
  rw [hrest, h.rest_eq, List.drop_drop, hoffset]

lemma Reads.skipBlank (h : s.Reads text) : s.skipBlank.Reads text := by
  refine h.advance (n := (s.rest.takeWhile isBlank).length)
    (List.takeWhile_prefix isBlank).length_le ?_ rfl
  have hdrop := @List.drop_left _ (s.rest.takeWhile isBlank) (s.rest.dropWhile isBlank)
  rw [List.takeWhile_append_dropWhile] at hdrop
  exact hdrop.symm

/-- A token starts behind the blanks. -/
lemma start_scan (s : Scanner) : s.scan.1.start = s.skipBlank.offset := by
  rw [scan]
  dsimp only
  split <;> rfl

/-- At the end of the text, the end token is read. -/
lemma scan_of_nil (h : s.rest.dropWhile isBlank = []) :
    s.scan = (⟨.eof, "", s.skipBlank.offset, 0, s.skipBlank.line⟩,
      { s.skipBlank with done := true }) := by
  simp only [scan, Scanner.skipBlank, h]

/-- The end token is read where only blanks are left. -/
lemma kind_scan_eq_eof_iff : s.scan.1.kind = .eof ↔ s.rest.dropWhile isBlank = [] := by
  cases hrest : s.rest.dropWhile isBlank with
  | nil => exact iff_of_true (by rw [scan_of_nil hrest]) rfl
  | cons c cs =>
      refine iff_of_false ?_ (List.cons_ne_nil c cs)
      rw [scan_of_cons hrest]
      exact lex_kind_ne_eof c cs

/-- Any other token is opened by a character. -/
lemma exists_cons_of_kind_ne (h : s.scan.1.kind ≠ .eof) :
    ∃ c cs, s.rest.dropWhile isBlank = c :: cs :=
  List.exists_cons_of_ne_nil (mt kind_scan_eq_eof_iff.mpr h)

/-- The end token is read behind all characters. -/
lemma Reads.scan_eof (h : s.Reads text) (heof : s.scan.1.kind = .eof) :
    s.scan.1.start = text.length ∧ s.scan.1.length = 0 := by
  have hskip := h.skipBlank
  have hrest := kind_scan_eq_eof_iff.mp heof
  have hnil : text.drop s.skipBlank.offset = [] := hskip.rest_eq.symm.trans hrest
  have hle := List.drop_eq_nil_iff.mp hnil
  rw [scan_of_nil hrest]
  exact ⟨Nat.le_antisymm hskip.offset_le hle, rfl⟩

/-- Behind any other token, which has some length, the reading goes on. -/
lemma Reads.scan_ne (h : s.Reads text) (hne : s.scan.1.kind ≠ .eof) :
    s.scan.2.Reads text ∧ s.scan.2.offset = s.scan.1.stop ∧ 1 ≤ s.scan.1.length := by
  have hskip := h.skipBlank
  obtain ⟨c, cs, hrest⟩ := exists_cons_of_kind_ne hne
  have hcons : s.skipBlank.rest = c :: cs := hrest
  have hlen := further_lex_le c cs
  rw [scan_of_cons hrest]
  refine ⟨hskip.advance (n := (lex c cs).further + 1) ?_ ?_ rfl, rfl, Nat.le_add_left 1 _⟩
  · rw [hcons]
    exact Nat.succ_le_succ hlen
  · rw [hcons]
    rfl

/-- One scan lays one tile: the blanks it skips and the token it reads. -/
lemma Reads.tile_scan (h : s.Reads text) : Tile text s.offset s.scan.1 where
  gap := by
    refine ⟨s.rest.takeWhile isBlank, fun c => List.mem_takeWhile_imp, s.start_scan, ?_⟩
    rw [start_scan, ← h.skipBlank.rest_eq, ← h.rest_eq]
    exact List.takeWhile_append_dropWhile.symm
  starts c hc := by
    rw [start_scan, ← List.head?_drop, ← h.skipBlank.rest_eq] at hc
    have hhead : (s.rest.dropWhile isBlank).head? = some c := hc
    have hnot := List.head?_dropWhile_not isBlank s.rest
    rwa [hhead] at hnot
  written w hw := by
    rw [span, start_scan, ← h.skipBlank.rest_eq]
    cases hrest : s.rest.dropWhile isBlank with
    | nil =>
        rw [scan_of_nil hrest] at hw ⊢
        exact Option.some.inj hw
    | cons c cs =>
        rw [scan_of_cons hrest] at hw ⊢
        have hcons : s.skipBlank.rest = c :: cs := hrest
        rw [eq_of_written?_lex hw, hcons, List.take_succ_cons]

/-- Scanning to the end of the text covers what was left of it. -/
lemma Reads.tiled_tokens (h : s.Reads text) : Tiled text s.offset s.tokens := by
  induction s using scan_induction with
  | eof s heof =>
      obtain ⟨hstart, hlength⟩ := h.scan_eof heof
      rw [tokens_of_eof heof]
      exact .last h.tile_scan heof hstart hlength
  | token s hne ih =>
      obtain ⟨hreads, hstop, hlength⟩ := h.scan_ne hne
      rw [tokens_of_ne hne]
      refine .next h.tile_scan hne hlength ?_
      rw [← hstop]
      exact ih hreads

end Scanner

/-- **The tokens of a source cover it**: they end with the one end token, behind
all characters; they follow one another without overlap and leave out blanks
only; and the text is the tokens as they are written, each behind some
blanks. -/
theorem Source.tiles_tokenize (s : Source) : Tiles s.text (tokenize s.text) :=
  tiles_of_tiled (Scanner.reads_start s.text).tiled_tokens

end ExprMachine

import ExprMachine.Editor.Hover
import ExprMachine.Proofs.Editor.Marks
import ExprMachine.Proofs.Session.Transparency
import ExprMachine.Proofs.Token.At

/-!
The note at the cursor.

* `Editor.Describes`, `Editor.describes_describeToken`: what a note says of a token. It is
  told from what is written there, by the lexical grammar.
* `Editor.Interprets`, `Editor.interprets_valueOf?`: the value that sessions find for a
  source, which is the one that notes show.
* `Editor.IsNote`, `Editor.isNote_noteAt`: the note that belongs to a token.
* `Editor.Contains`, `Editor.contains_ofOffsets`: a stretch of the text contains the
  positions of its offsets.
* `Editor.hover?_eq_some_iff`: at the position of an offset, the token at this offset is the
  one that is shown.
* `Editor.hover?_ofOffset`: the notes of every text that is short enough for positions of
  32 bits.
-/

namespace ExprMachine

open Lines Token

namespace Token

/-! ### Kinds of tokens -/

/-- What is written for a class is a reserved word, or a symbol, or shown with the class. -/
lemma Matches.cases {k : Kind} {w : List Char} (h : Matches k w) :
    (∃ word, k = .keyword word) ∨ (k, w) ∈ symbols ∨ k.hasPayload = true := by
  cases h with
  | digits _ _ => exact .inr (.inr rfl)
  | fraction _ _ _ _ => exact .inr (.inr rfl)
  | keyword word => exact .inl ⟨word, rfl⟩
  | identifier _ _ _ => exact .inr (.inr rfl)
  | symbol h => exact .inr (.inl h)
  | comment _ => exact .inr (.inr rfl)
  | string _ => exact .inr (.inr rfl)

/-- Symbols are named as they are written, and nothing else is shown of them. -/
lemma shown_of_mem_symbols {p : Kind × List Char} (h : p ∈ symbols) :
    p.1.name = String.ofList p.2 ∧ p.1.hasPayload = false ∧ p.1.isKeyword = false := by
  have hall : ∀ p ∈ symbols,
      p.1.name = String.ofList p.2 ∧ p.1.hasPayload = false ∧ p.1.isKeyword = false := by decide
  exact hall p h

lemma isKeyword_of_hasPayload {k : Kind} (h : k.hasPayload = true) : k.isKeyword = false := by
  cases k with
  | keyword word => cases h
  | _ => rfl

/-- All tokens but errors tell how they are written. -/
lemma exists_written? {k : Kind} (hk : k ≠ .error) (lexeme : String) :
    ∃ w, k.written? lexeme = some w := by
  cases k with
  | error => exact absurd rfl hk
  | _ => exact ⟨_, rfl⟩

end Token

namespace Editor

variable {text : List Char} {t : Token} {o : ℕ}

/-! ### What is said of a token -/

/-- `Describes text t note`: the note says what stands in the text where the token `t` is. -/
inductive Describes (text : List Char) (t : Token) : String → Prop
  /-- A reserved word. -/
  | keyword {k : Keyword} (h : LongestMatch (text.drop t.start) (.keyword k) (t.span text)) :
      Describes text t ("**keyword** `" ++ String.ofList (t.span text) ++ "`")
  /-- An operator or a punctuation mark. -/
  | symbol {k : Kind} (h : LongestMatch (text.drop t.start) k (t.span text)) (hk : k.IsSymbol) :
      Describes text t ("`" ++ String.ofList (t.span text) ++ "`")
  /-- A token of any other class, with the name of the class and what is written, but for
  the quotes of a string and the slashes of a comment. -/
  | payload {k : Kind} {lexeme : String} (h : LongestMatch (text.drop t.start) k (t.span text))
      (hk : k.hasPayload = true) (hwritten : k.written? lexeme = some (t.span text)) :
      Describes text t ("`" ++ (k.name ++ ": " ++ lexeme) ++ "`")
  /-- A string without an end, up to the end of the text. -/
  | unterminated (hnone : ∀ k w, Matches k w → ¬ w <+: text.drop t.start)
      (hspan : t.span text = text.drop t.start) (hquote : (t.span text).head? = some '"') :
      Describes text t "**error** unterminated string"
  /-- A character that begins no token. -/
  | unexpected {c : Char} (hnone : ∀ k w, Matches k w → ¬ w <+: text.drop t.start)
      (hspan : t.span text = [c]) (hc : c ≠ '"') :
      Describes text t ("**error** unexpected character: '" ++ String.singleton c ++ "'")

/-- An error is a string without an end, or a character that begins no token. -/
lemma describes_of_error (ht : IsTokenAt text o t) (herror : t.kind = .error) :
    Describes text t (describeToken t) := by
  obtain ⟨c, cs, hdrop, hkind, hlexeme, hspan⟩ := ht.exists_lex
  have hlex := lex_of_error (hkind ▸ herror)
  have hnone := lex_kind_eq_error_iff.mp (hkind ▸ herror)
  rw [← hdrop] at hnone
  have hnote : describeToken t = "**error** " ++ t.lexeme := by
    simp [describeToken, herror, Kind.isKeyword]
  rw [hnote, hlexeme]
  split_ifs at hlex with hc
  · rw [hlex, List.take_length] at hspan
    rw [hlex]
    exact .unterminated hnone (hspan.trans hdrop.symm) (by rw [hspan, hc, List.head?_cons])
  · rw [hlex, List.take_zero] at hspan
    rw [hlex]
    exact .unexpected hnone hspan hc

/-- Of a token that is no error, a note shows what is written. -/
lemma describes_of_ne_error (ht : IsTokenAt text o t) (hne : t.kind ≠ .error) :
    Describes text t (describeToken t) := by
  obtain ⟨c, cs, hdrop, hkind, hlexeme, hspan⟩ := ht.exists_lex
  have hmatch := longestMatch_lex (hkind ▸ hne)
  rw [← hkind, ← hspan, ← hdrop] at hmatch
  obtain ⟨w, hw⟩ := exists_written? hne t.lexeme
  have hwritten : t.kind.written? t.lexeme = some (t.span text) := by
    rw [hkind, hlexeme] at hw ⊢
    rw [hw, eq_of_written?_lex hw, hspan]
  rcases hmatch.1.cases with ⟨word, hword⟩ | hsymbol | hpayload
  · have hverbatim : t.lexeme.toList = t.span text := by
      rw [hword] at hwritten
      exact Option.some.inj hwritten
    have hnote : describeToken t = "**keyword** `" ++ String.ofList (t.span text) ++ "`" := by
      rw [← hverbatim, String.ofList_toList]
      simp [describeToken, hword, Kind.isKeyword]
    rw [hnote]
    exact .keyword (hword ▸ hmatch)
  · obtain ⟨hname, hshort, hkeyword⟩ := shown_of_mem_symbols hsymbol
    have hnote : describeToken t = "`" ++ String.ofList (t.span text) ++ "`" := by
      rw [← hname]
      simp [describeToken, hkeyword, hne, Token.text, hshort]
    rw [hnote]
    exact .symbol hmatch ⟨_, hsymbol⟩
  · have hkeyword := isKeyword_of_hasPayload hpayload
    have hnote : describeToken t = "`" ++ (t.kind.name ++ ": " ++ t.lexeme) ++ "`" := by
      simp [describeToken, hkeyword, hne, Token.text, hpayload]
    rw [hnote]
    exact .payload hmatch hpayload hwritten

/-- A note says of each token but the end what stands there. -/
lemma describes_describeToken (ht : IsTokenAt text o t) :
    Describes text t (describeToken t) := by
  by_cases herror : t.kind = .error
  · exact describes_of_error ht herror
  · exact describes_of_ne_error ht herror

/-! ### The value of a text -/

/-- `Interprets s v?`: sessions find the value `v?` for the source, or no value if it is `none`.
A session may show anything of the run whose listing can be written, and may take the chunk from
its store if the store holds no other chunk for the source. -/
def Interprets (s : Source) (v? : Option Value) : Prop :=
  ∀ (session : Session) (outage : Session.Outage) (now : ℤ), Session.Faithful [s] session →
    (∀ reason, session.listing ≠ .failing reason) →
      (session.interpret outage now s).1.toOption = v?

/-- Sessions find the value that notes show. -/
lemma interprets_valueOf? (s : Source) : Interprets s (valueOf? s.text) := by
  intro session outage now hsession hlisting
  rw [Session.fst_interpret hsession List.mem_cons_self hlisting, Source.compile, valueOf?]
  cases compile s.text with
  | error ds => rfl
  | ok c =>
      cases hvalue : c.evaluate <;>
        simp [Except.mapError, Except.bind, Except.toOption, hvalue]

/-- A text has no mark if and only if it has a value. -/
lemma diagnose_eq_nil_iff_valueOf? : diagnose text = [] ↔ ∃ v, valueOf? text = some v := by
  rw [diagnose_eq_nil_iff, valueOf?]
  cases compile text with
  | error ds => simp
  | ok c => cases hvalue : c.evaluate <;> simp [Except.toOption, hvalue]

/-! ### The note for a token -/

/-- `ShowsValue s part`: the part of a note shows the value of the source, and is empty if
something is marked in the source. -/
inductive ShowsValue (s : Source) : String → Prop
  | marked (hmarks : diagnose s.text ≠ []) (hvalue : Interprets s none) : ShowsValue s ""
  | value {v : Value} (hmarks : diagnose s.text = []) (hvalue : Interprets s (some v)) :
      ShowsValue s ("\n\n---\n\nExpression evaluates to `" ++ v.text ++ "`")

/-- `IsNote s t h`: the note is shown at the token `t`, and says what the token is and what
value the source has. -/
structure IsNote (s : Source) (t : Token) (h : Hover) : Prop where
  range : h.range = .ofOffsets (starts s.text) t.start t.stop
  start : IsPosition s.text t.start h.range.start
  stop : IsPosition s.text t.stop h.range.stop
  contents : ∃ description part, Describes s.text t description ∧ ShowsValue s part ∧
    h.contents = description ++ part

/-- The part of a note that shows a value. -/
def valuePart (v? : Option Value) : String :=
  match v? with
  | some v => "\n\n---\n\nExpression evaluates to `" ++ v.text ++ "`"
  | none => ""

/-- The note for a token. -/
def noteAt (text : List Char) (t : Token) : Hover :=
  ⟨describeToken t ++ valuePart (valueOf? text), .ofOffsets (starts text) t.start t.stop⟩

lemma showsValue_valuePart (s : Source) : ShowsValue s (valuePart (valueOf? s.text)) := by
  have hmarks := @diagnose_eq_nil_iff_valueOf? s.text
  have hvalue := interprets_valueOf? s
  cases hv : valueOf? s.text with
  | none =>
      rw [hv] at hmarks hvalue
      exact .marked (by simp [hmarks]) hvalue
  | some v =>
      rw [hv] at hmarks hvalue
      exact .value (hmarks.mpr ⟨v, rfl⟩) hvalue

lemma isNote_noteAt {s : Source} (hlen : s.text.length < 2 ^ 32) (ht : IsTokenAt s.text o t) :
    IsNote s t (noteAt s.text t) := by
  have hstop := (placed_of_mem_tokenize ht.mem).stop_le
  have hstart := t.start_le_stop
  exact ⟨rfl, isPosition_ofOffset _ (by omega), isPosition_ofOffset _ (by omega), _, _,
    describes_describeToken ht, showsValue_valuePart s, rfl⟩

/-! ### The note at an offset -/

/-- Whether a position is in a stretch of a text. -/
def Contains (r : Range) (p : Position) : Prop :=
  ¬ Before p r.start ∧ Before p r.stop

/-- The stretch between two offsets contains the positions of the offsets between. -/
lemma contains_ofOffsets {m n : ℕ} (hn : n < 2 ^ 32) (hm : m ≤ o) (ho : o < n) :
    Contains (.ofOffsets (starts text) m n) (.ofOffset (starts text) o) := by
  have hplace := isPosition_ofOffset (o := o) text (by omega)
  have hstart := isPosition_ofOffset (o := m) text (by omega)
  have hstop := isPosition_ofOffset (o := n) text hn
  exact ⟨mt (before_iff_lt hplace hstart).mp (by omega), (before_iff_lt hplace hstop).mpr ho⟩

/-- The line and the column of a position, counted from 1, are those of its offset. -/
lemma isAt_of_isPosition {p : Position} (ho : o < text.length) (hp : IsPosition text o p) :
    IsAt text (Int64.ofNat (p.line.toNat + 1)).toInt
      (Int64.ofNat (p.character.toNat + 1)).toInt o := by
  have hline := p.line.toNat_lt
  have hcharacter := p.character.toNat_lt
  have hstart := lineStart_le text o
  rw [Int64.toInt_ofNat_of_lt (by omega), Int64.toInt_ofNat_of_lt (by omega), hp.line,
    hp.character]
  exact ⟨ho, by omega, by omega⟩

/-- At the position of an offset, the note for the token at this offset is shown. -/
lemma hover?_eq_some_iff (hlen : text.length < 2 ^ 32) (ho : o < text.length) {h : Hover} :
    hover? text (.ofOffset (starts text) o) = some h ↔
      ∃ t, IsTokenAt text o t ∧ noteAt text t = h := by
  have hat := isAt_of_isPosition ho (isPosition_ofOffset text (by omega))
  rw [hover?, Option.map_eq_some_iff]
  exact exists_congr fun t => and_congr_left fun _ => tokenAt?_of_isAt (by omega) hat

/-- **The note at the cursor is that of the token under it.** At the position of an offset
there is a note exactly if a token covers the character at the offset. Then no other token
does, and the note is shown from the position where the token starts to the one where it
stops, which contain the cursor. It says what the token is, and then the value of the text:
exactly if nothing is marked in the text, and then the value that a session finds for it. -/
theorem hover?_ofOffset (s : Source) (o : ℕ) (hlen : s.text.length < 2 ^ 32)
    (ho : o < s.text.length) :
    let p := Position.ofOffset (starts s.text) o
    ((hover? s.text p).isSome = true ↔ ∃ t, IsTokenAt s.text o t) ∧
      ∀ t, IsTokenAt s.text o t → (∀ u, IsTokenAt s.text o u → u = t) ∧
        ∃ h, hover? s.text p = some h ∧ IsNote s t h ∧ Contains h.range p := by
  intro p
  refine ⟨?_, fun t ht => ⟨fun u hu => hu.unique ht, noteAt s.text t, ?_, ?_, ?_⟩⟩
  · simp [Option.isSome_iff_exists, p, hover?_eq_some_iff hlen ho]
  · exact (hover?_eq_some_iff hlen ho).mpr ⟨t, ht, rfl⟩
  · exact isNote_noteAt hlen ht
  · have hstop := (placed_of_mem_tokenize ht.mem).stop_le
    exact contains_ofOffsets (by omega) ht.covers.1 ht.covers.2

/-- The second number of a sum that is written on three lines. -/
theorem hover?_ofOffset_sum :
    let s := Source.ofString "1 +\n// two\n 2"
    let h : Hover := ⟨"`number: 2`\n\n---\n\nExpression evaluates to `3`", ⟨⟨2, 1⟩, ⟨2, 2⟩⟩⟩
    s.text.length < 2 ^ 32 ∧ 12 < s.text.length ∧
      hover? s.text (.ofOffset (starts s.text) 12) = some h ∧
        ∃ t, IsTokenAt s.text 12 t ∧ IsNote s t h ∧ Contains h.range ⟨2, 1⟩ := by
  intro s h
  have hlen : s.text.length < 2 ^ 32 := by decide +kernel
  have ho : 12 < s.text.length := by decide +kernel
  have hplace : Position.ofOffset (starts s.text) 12 = ⟨2, 1⟩ := by decide +kernel
  have hshown : hover? s.text (.ofOffset (starts s.text) 12) = some h := by decide +kernel
  obtain ⟨hsome, hnote⟩ := hover?_ofOffset s 12 hlen ho
  obtain ⟨t, ht⟩ := hsome.mp (Option.isSome_iff_exists.mpr ⟨h, hshown⟩)
  obtain ⟨-, h', hfound, hisnote, hcontains⟩ := hnote t ht
  obtain rfl : h = h' := Option.some.inj (hshown.symm.trans hfound)
  exact ⟨hlen, ho, hshown, t, ht, hisnote, hplace ▸ hcontains⟩

end Editor

end ExprMachine

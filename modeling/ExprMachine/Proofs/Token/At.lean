import ExprMachine.Proofs.Token.Lines
import ExprMachine.Token.At

/-!
The token at a place given by line and column.

* `Lines.IsAt`, `Lines.exists_isAt_iff`: the character at a line and a column, and the
  columns at which a line has one.
* `lineOffsets_eq_starts`: the token reader and the editor find the same starts of lines.
* `IsTokenAt`, `IsTokenAt.unique`, `IsTokenAt.exists_lex`: the token at an offset. There is at
  most one, because tokens do not overlap, and it is what its first character opens.
* `tokenCovering?_eq_some_iff`: it is what is found at an offset of 64 bits.
* `tokenAt?_eq_some_iff`: what is found at a line and a column. The offset is counted on
  from the start of the line, and no sum that leaves the 64 bits comes back to a character.
* `tokenAt?_place`: what is found is at the place exactly if the line has the column.
-/

namespace ExprMachine

namespace Lines

variable {text : List Char} {l s o : ℕ}

/-! ### Characters by line and column -/

/-- `IsAt text line column o`: the character at the offset `o` is the one at a line and a
column, both counted from 1. -/
structure IsAt (text : List Char) (line column : ℤ) (o : ℕ) : Prop where
  lt_length : o < text.length
  line : line = newlinesBefore text o + 1
  column : column = o - lineStart text o + 1

/-- The length of a line (counted from 0) with its newline, if it has one. -/
def fullLength (text : List Char) (line : ℕ) : ℕ :=
  lengthOf text (starts text) line + if line + 1 < (split text).length then 1 else 0

/-- A line has a newline, or it reaches to the end of the text. -/
lemma fullLength_cases (hs : (starts text)[l]? = some s) :
    fullLength text l = lengthOf text (starts text) l + 1 ∧ s + fullLength text l ≤ text.length ∨
      fullLength text l = lengthOf text (starts text) l ∧ s + fullLength text l = text.length := by
  obtain ⟨hnumber, hstart, hle⟩ := of_getElem?_starts hs
  rw [fullLength, ← length_starts, lengthOf, hs]
  cases hnext : (starts text)[l + 1]? with
  | none =>
      rw [if_neg (List.getElem?_eq_none_iff.mp hnext).not_gt]
      dsimp only
      exact .inr ⟨rfl, by omega⟩
  | some next =>
      obtain ⟨k, hk, hkl, rfl⟩ := getElem?_starts_succ.mp hnext
      have hend := (List.getElem?_eq_some_iff.mp hk).1
      have hbefore : s ≤ k := by
        rw [← hstart, lineStart_eq (hnumber.trans hkl.symm)]
        exact lineStart_le text k
      rw [if_pos (List.getElem?_eq_some_iff.mp hnext).1]
      dsimp only
      exact .inl ⟨rfl, by omega⟩

/-- The characters of a line are those from its start on, its newline included. -/
lemma isAt_iff (hs : (starts text)[l]? = some s) {column : ℤ} :
    IsAt text (l + 1) column o ↔
      (o : ℤ) = s + column - 1 ∧ s ≤ o ∧ o < s + fullLength text l := by
  obtain ⟨hnumber, hstart, -⟩ := of_getElem?_starts hs
  have hcases := fullLength_cases hs
  have hon : o < text.length ∧ newlinesBefore text o = l ↔
      s ≤ o ∧ o < s + fullLength text l := by
    constructor
    · rintro ⟨hlt, hon⟩
      have hwithin := (newlinesBefore_eq_iff hs hlt.le).mp hon
      omega
    · intro hwithin
      exact ⟨by omega, (newlinesBefore_eq_iff hs (by omega)).mpr (by omega)⟩
  have hsame : newlinesBefore text o = l → lineStart text o = s := fun h =>
    (lineStart_eq (h.trans hnumber.symm)).trans hstart
  constructor
  · rintro ⟨hlt, hline, hcolumn⟩
    have hl : newlinesBefore text o = l := by omega
    refine ⟨?_, hon.mp ⟨hlt, hl⟩⟩
    rw [hsame hl] at hcolumn
    omega
  · rintro ⟨hcolumn, hwithin⟩
    obtain ⟨hlt, hl⟩ := hon.mpr hwithin
    refine ⟨hlt, by omega, ?_⟩
    rw [hsame hl]
    omega

/-- A line has its characters at the columns from 1 to its length. -/
lemma exists_isAt_iff (hs : (starts text)[l]? = some s) {column : ℤ} :
    (∃ o, IsAt text (l + 1) column o) ↔ 1 ≤ column ∧ column ≤ fullLength text l := by
  simp only [isAt_iff hs]
  constructor
  · rintro ⟨o, ho⟩
    omega
  · intro h
    exact ⟨(s + column - 1).toNat, by omega⟩

end Lines

open Lines

variable {text : List Char} {t u : Token} {o : ℕ}

/-! ### Both ways to find the starts of lines -/

lemma filterMap_zipIdx_eq_startsAfter (text : List Char) (n : ℕ) :
    ((text.zipIdx n).filterMap fun (c, i) => if c = '\n' then some (i + 1) else none) =
      startsAfter n text := by
  induction text generalizing n with
  | nil => rfl
  | cons c cs ih =>
      rw [List.zipIdx_cons, List.filterMap_cons, startsAfter, ih]
      by_cases hc : c = '\n' <;> simp [hc]

/-- The token reader and the editor find the same starts of lines. -/
lemma lineOffsets_eq_starts (text : List Char) : lineOffsets text = starts text := by
  rw [lineOffsets, filterMap_zipIdx_eq_startsAfter, starts]

/-! ### The token at an offset -/

/-- Whether a token covers the character at an offset. -/
def Token.Covers (t : Token) (o : ℕ) : Prop :=
  t.start ≤ o ∧ o < t.stop

/-- `IsTokenAt text o t`: the token `t` of the text covers the character at the offset
`o`. -/
structure IsTokenAt (text : List Char) (o : ℕ) (t : Token) : Prop where
  mem : t ∈ tokenize text
  kind_ne : t.kind ≠ .eof
  covers : t.Covers o

/-- At most one token covers a character. -/
lemma IsTokenAt.unique (ht : IsTokenAt text o t) (hu : IsTokenAt text o u) : t = u := by
  have htiles := tiles_of_tiled (Scanner.reads_start text).tiled_tokens
  have hpair : (tokenize text).Pairwise fun v w => v.Covers o → ¬ w.Covers o := by
    refine htiles.pairwise.imp ?_
    rintro v w hle ⟨-, hv⟩ ⟨hw, -⟩
    omega
  have hsymm : Std.Symm fun v w : Token => v.Covers o → ¬ w.Covers o :=
    ⟨fun v w h hw hv => h hv hw⟩
  by_contra hne
  exact hpair.forall ht.mem hu.mem hne ht.covers hu.covers

/-- The token at an offset is what its first character opens. -/
lemma IsTokenAt.exists_lex (ht : IsTokenAt text o t) :
    ∃ c cs, text.drop t.start = c :: cs ∧ t.kind = (Token.lex c cs).kind ∧
      t.lexeme = (Token.lex c cs).lexeme ∧
        t.span text = c :: cs.take (Token.lex c cs).further := by
  have hall : ∀ u ∈ tokenize text, u.kind ≠ .eof →
      ∃ c cs, text.drop u.start = c :: cs ∧ u.kind = (Token.lex c cs).kind ∧
        u.lexeme = (Token.lex c cs).lexeme ∧
          u.span text = c :: cs.take (Token.lex c cs).further := by
    refine (Scanner.lined_start text).forall_tokens fun s hs hne => ?_
    obtain ⟨c, cs, hrest⟩ := Scanner.exists_cons_of_kind_ne hne
    have hdrop : text.drop s.scan.1.start = c :: cs := by
      rw [Scanner.start_scan, ← hs.toReads.skipBlank.rest_eq]
      exact hrest
    have hscan := Scanner.scan_of_cons hrest
    refine ⟨c, cs, hdrop, by rw [hscan], by rw [hscan], ?_⟩
    rw [Token.span, hdrop, hscan, List.take_succ_cons]
  exact hall t ht.mem ht.kind_ne

/-- What is found at an offset of 64 bits is the token there. -/
lemma tokenCovering?_eq_some_iff (hlen : text.length < 2 ^ 63) {offset : Int64} :
    tokenCovering? text offset = some t ↔
      ∃ o : ℕ, (o : ℤ) = offset.toInt ∧ IsTokenAt text o t := by
  have hcovers : ∀ u ∈ tokenize text,
      (Int64.ofNat u.start ≤ offset ∧ offset < Int64.ofNat u.stop ↔
        ∃ o : ℕ, (o : ℤ) = offset.toInt ∧ u.Covers o) := by
    intro u hu
    have hstop := (placed_of_mem_tokenize hu).stop_le
    have hstart := u.start_le_stop
    rw [Int64.le_iff_toInt_le, Int64.lt_iff_toInt_lt, Int64.toInt_ofNat_of_lt (by omega),
      Int64.toInt_ofNat_of_lt (by omega)]
    constructor
    · rintro ⟨hlow, hhigh⟩
      exact ⟨offset.toInt.toNat, by omega, by omega, by omega⟩
    · rintro ⟨o, ho, hlow, hhigh⟩
      omega
  have hfound : ∀ u, tokenCovering? text offset = some u →
      ∃ o : ℕ, (o : ℤ) = offset.toInt ∧ IsTokenAt text o u := by
    intro u hu
    rw [tokenCovering?] at hu
    have hmem := List.mem_of_find?_eq_some hu
    have hpasses := List.find?_some hu
    obtain ⟨hkind, hplace⟩ := of_decide_eq_true hpasses
    obtain ⟨o, ho, hcover⟩ := (hcovers u hmem).mp hplace
    exact ⟨o, ho, hmem, hkind, hcover⟩
  refine ⟨hfound t, ?_⟩
  rintro ⟨o, ho, ht⟩
  -- some token is found, and there is no other one at the offset
  have hsome : (tokenCovering? text offset).isSome := by
    rw [tokenCovering?, List.find?_isSome]
    exact ⟨t, ht.mem, decide_eq_true ⟨ht.kind_ne, (hcovers t ht.mem).mpr ⟨o, ho, ht.covers⟩⟩⟩
  obtain ⟨u, hu⟩ := Option.isSome_iff_exists.mp hsome
  obtain ⟨p, hp, hu'⟩ := hfound u hu
  obtain rfl : o = p := by omega
  rw [hu, ht.unique hu']

/-! ### The token at a line and a column -/

/-- A sum that leaves the 64 bits does not come back to a character of the text. -/
lemma toInt_place_eq_iff {s n : ℕ} (hs : s ≤ n) (hn : n < 2 ^ 63) (column : Int64) (ho : o < n) :
    (o : ℤ) = (Int64.ofNat s + column - 1).toInt ↔ (o : ℤ) = s + column.toInt - 1 := by
  have hlow := column.le_toInt
  have hhigh := column.toInt_lt
  have hone : (1 : Int64).toInt = 1 := rfl
  rw [Int64.toInt_sub, Int64.toInt_add, Int64.toInt_ofNat_of_lt (by omega), hone]
  simp only [Int.bmod_def]
  split_ifs <;> omega

/-- **What is found at a line and a column** is the token over the character that lies so
many characters from the start of the line, on whatever line that is. -/
lemma tokenAt?_eq_some_iff (hlen : text.length < 2 ^ 63) {line column : Int64} :
    tokenAt? text line column = some t ↔
      ∃ s o : ℕ, 1 ≤ line.toInt ∧ (starts text)[(line.toInt - 1).toNat]? = some s ∧
        (o : ℤ) = s + column.toInt - 1 ∧ IsTokenAt text o t := by
  have hone : (1 : Int64).toInt = 1 := rfl
  have hbefore : line < 1 ↔ line.toInt < 1 := Int64.lt_iff_toInt_lt
  rw [tokenAt?]
  split_ifs with hline
  · simp [not_le.mpr (hbefore.mp hline)]
  have hpos : 1 ≤ line.toInt := not_lt.mp (mt hbefore.mpr hline)
  have hhigh := line.toInt_lt
  have hnumber : (line - 1).toNatClampNeg = (line.toInt - 1).toNat := by
    rw [← Int64.toNat_toInt, Int64.toInt_sub, hone, Int.bmod_eq_of_le (by omega) (by omega)]
  rw [lineOffsets_eq_starts, hnumber]
  cases hs : (starts text)[(line.toInt - 1).toNat]? with
  | none => simp
  | some s =>
      obtain ⟨-, -, hle⟩ := of_getElem?_starts hs
      have hplace : ∀ o, IsTokenAt text o t →
          ((o : ℤ) = (Int64.ofNat s + column - 1).toInt ↔ (o : ℤ) = s + column.toInt - 1) := by
        intro o ht
        have hstop := (placed_of_mem_tokenize ht.mem).stop_le
        exact toInt_place_eq_iff hle hlen column (ht.covers.2.trans_le hstop)
      simp only [Option.some.injEq, exists_and_left, exists_eq_left', hpos, true_and]
      rw [tokenCovering?_eq_some_iff hlen]
      exact exists_congr fun o => and_congr_left (hplace o)

/-- At every place of the text, the token there is found. -/
lemma tokenAt?_of_isAt (hlen : text.length < 2 ^ 63) {line column : Int64}
    (ho : IsAt text line.toInt column.toInt o) :
    tokenAt? text line column = some t ↔ IsTokenAt text o t := by
  have hline := ho.line
  have hcolumn := ho.column
  have hle := lineStart_le text o
  have hnumber : (line.toInt - 1).toNat = newlinesBefore text o := by omega
  rw [tokenAt?_eq_some_iff hlen, hnumber, getElem?_starts]
  constructor
  · rintro ⟨s, p, -, hs, hp, ht⟩
    obtain rfl := Option.some.inj hs
    obtain rfl : o = p := by omega
    exact ht
  · intro ht
    exact ⟨_, o, by omega, rfl, by omega, ht⟩

/-- **A place off its line leads to a character of another one.** What is found at a line
and a column is the token over the character that lies so many characters from the start
of the line. So the line is one of the text, and at every place of the text the token there
is found. But no column is refused: exactly where the line, counted with its newline, is
too short for the column, or the column is not positive, there is no character at the place
that the token found could cover. -/
theorem tokenAt?_place (text : List Char) (hlen : text.length < 2 ^ 63) (line column : Int64)
    (t : Token) :
    (tokenAt? text line column = some t ↔
      ∃ s o : ℕ, 1 ≤ line.toInt ∧ (starts text)[(line.toInt - 1).toNat]? = some s ∧
        (o : ℤ) = s + column.toInt - 1 ∧ IsTokenAt text o t) ∧
    (∀ o, IsAt text line.toInt column.toInt o →
      (tokenAt? text line column = some t ↔ IsTokenAt text o t)) ∧
    (tokenAt? text line column = some t →
      1 ≤ line.toInt ∧ line.toInt ≤ (split text).length ∧
      ((∃ o, IsAt text line.toInt column.toInt o ∧ t.Covers o) ↔
        1 ≤ column.toInt ∧ column.toInt ≤ fullLength text (line.toInt - 1).toNat)) := by
  refine ⟨tokenAt?_eq_some_iff hlen, fun o => tokenAt?_of_isAt hlen, fun hfound => ?_⟩
  obtain ⟨s, o, hline, hs, ho, ht⟩ := (tokenAt?_eq_some_iff hlen).mp hfound
  have hwithin := (List.getElem?_eq_some_iff.mp hs).1
  rw [length_starts] at hwithin
  have hnumber : line.toInt = ((line.toInt - 1).toNat : ℤ) + 1 := by omega
  refine ⟨hline, by omega, ?_⟩
  rw [← exists_isAt_iff hs, ← hnumber]
  refine exists_congr fun p => and_iff_left_of_imp fun hp => ?_
  exact ((tokenAt?_of_isAt hlen hp).mp hfound).covers

/-- Behind the end of the first line, the number on the second is found. -/
theorem tokenAt?_place_behind :
    "1\n2".toList.length < 2 ^ 63 ∧
      tokenAt? "1\n2".toList 1 3 = some ⟨.number, "2", 2, 1, 2⟩ ∧
        ¬ ∃ o, IsAt "1\n2".toList 1 3 o ∧ Token.Covers ⟨.number, "2", 2, 1, 2⟩ o := by
  have hlen : "1\n2".toList.length < 2 ^ 63 := by decide
  have hfound : tokenAt? "1\n2".toList 1 3 = some ⟨.number, "2", 2, 1, 2⟩ := by decide +kernel
  obtain ⟨-, -, hplace⟩ := tokenAt?_place "1\n2".toList hlen 1 3 ⟨.number, "2", 2, 1, 2⟩
  obtain ⟨-, -, hcolumn⟩ := hplace hfound
  refine ⟨hlen, hfound, fun hat => ?_⟩
  have hwidth := (hcolumn.mp hat).2
  revert hwidth
  decide +kernel

end ExprMachine

import ExprMachine.Proofs.Text.Utf8
import ExprMachine.Proofs.Token.At

/-!
Offsets and positions correspond.

A place in a text is counted in two ways: by characters from the beginning, and by lines
and characters within them. The lines themselves are cut from the bytes of the text, before
any character has been read.

* `Utf8.newline_notMem_decode`: a newline is read from a newline byte only.
* `Lines.map_decode_splitOn`: lines that are cut from the bytes read as the lines of the
  characters.
* `Lines.getElem?_split_of_starts`, `Lines.start_add_le_length`: what stands on a line, by
  where it starts and how long it is.
* `Lines.IsPosition.exists_start`, `Lines.IsPosition.of_start`: from an offset to its position,
  and back from a line and a character to the offset.
* `Source.lines`: the lines of a source, as bytes.
* `Source.positions_correspond`: **offsets and positions correspond one to one**.
-/

namespace ExprMachine

namespace Utf8

/-! ### Newlines in bytes -/

variable {b : UInt8} {bs : List UInt8}

/-- Further bytes only add to what has been gathered. -/
lemma le_of_gather {n sum code : ℕ} {low high : UInt8}
    (h : gather n low high sum bs = some code) : sum ≤ code := by
  induction n generalizing low high sum bs with
  | zero => exact (Option.some.inj h).le
  | succ n ih =>
      cases bs with
      | nil => cases h
      | cons d ds =>
          rw [gather] at h
          split_ifs at h
          exact le_trans (by omega) (ih h)

/-- Where bytes follow an opening one, the code point is beyond those of control
characters. -/
lemma lt_of_gather_succ {n sum code : ℕ} {low high : UInt8}
    (h : gather (n + 1) low high sum bs = some code) (hlow : 10 < sum * 64 + (low.toNat - 128)) :
    10 < code := by
  cases bs with
  | nil => cases h
  | cons d ds =>
      rw [gather] at h
      split_ifs at h with hbounds
      have hd : low.toNat ≤ d.toNat := UInt8.le_iff_toNat_le.mp hbounds.1
      have hle := le_of_gather h
      have hval : (0x80 : UInt8).toNat = 128 := rfl
      omega

/-- An opening byte is a character of its own, or it promises more than a newline. -/
lemma Lead.cases {lead : Lead} (h : Lead.ofByte? b = some lead) :
    b < 0x80 ∧ lead.following = 0 ∧ lead.payload = b.toNat ∨
      ∃ n, lead.following = n + 1 ∧ 10 < lead.payload * 64 + (lead.low.toNat - 128) := by
  have hle {low : UInt8} (hlow : ¬ b < low) : low.toNat ≤ b.toNat :=
    UInt8.le_iff_toNat_le.mp (UInt8.not_lt.mp hlow)
  have hne {c : UInt8} (hc : ¬ b = c) : b.toNat ≠ c.toNat := mt UInt8.toNat_inj.mp hc
  unfold Lead.ofByte? at h
  split_ifs at h with hascii hstray htwo hE0 hED hthree hF0 hfour hF4
  all_goals obtain rfl := Option.some.inj h
  · exact .inl ⟨hascii, rfl, rfl⟩
  · have hlow : 194 ≤ b.toNat := hle hstray
    exact .inr ⟨0, rfl, by dsimp only; omega⟩
  · exact .inr ⟨1, rfl, by decide⟩
  · exact .inr ⟨1, rfl, by decide⟩
  · have hlow : 224 ≤ b.toNat := hle htwo
    have hother : b.toNat ≠ 224 := hne hE0
    exact .inr ⟨1, rfl, by dsimp only; omega⟩
  · exact .inr ⟨2, rfl, by decide⟩
  · have hlow : 240 ≤ b.toNat := hle hthree
    have hother : b.toNat ≠ 240 := hne hF0
    exact .inr ⟨2, rfl, by dsimp only; omega⟩
  · exact .inr ⟨2, rfl, by decide⟩

/-- A newline is opened by a newline byte only. -/
lemma eq_of_codePoint?_newline {n : ℕ} (h : codePoint? b bs = some ('\n', n)) : b = 10 := by
  simp only [codePoint?, Option.bind_eq_bind, Option.bind_eq_some_iff, Option.pure_def,
    Option.some.injEq, Prod.mk.injEq] at h
  obtain ⟨lead, hlead, code, hcode, hchar, -⟩ := h
  have hten : code = 10 := by
    by_cases hvalid : code.isValidChar
    · have haux : Char.ofNat code = Char.ofNatAux code hvalid := dif_pos hvalid
      have hnat : (Char.ofNat code).toNat = code := by rw [haux]; rfl
      rw [← hnat, hchar]
      rfl
    · -- what is no code point reads as the null character
      have hnull : Char.ofNat code = Char.ofNat 0 := dif_neg hvalid
      rw [hnull] at hchar
      cases hchar
  rcases Lead.cases hlead with ⟨-, hfollowing, hpayload⟩ | ⟨m, hfollowing, hmore⟩
  · rw [hfollowing, gather, hpayload] at hcode
    have hbyte : b.toNat = (10 : UInt8).toNat := (Option.some.inj hcode).trans hten
    exact UInt8.toNat_inj.mp hbyte
  · rw [hfollowing] at hcode
    have hlt := lt_of_gather_succ hcode hmore
    omega

/-- A newline is read from a newline byte only. -/
lemma newline_notMem_decode (h : (10 : UInt8) ∉ bs) : '\n' ∉ decode bs := by
  induction bs using decode.induct with
  | case1 => rw [decode]; exact List.not_mem_nil
  | case2 b bs c n hopen ih =>
      rw [List.mem_cons, not_or] at h
      have hc : '\n' ≠ c := by
        rintro rfl
        exact h.1 (eq_of_codePoint?_newline hopen).symm
      rw [decode, hopen]
      simp only [List.mem_cons, not_or]
      exact ⟨hc, ih fun hmem => h.2 (List.mem_of_mem_drop hmem)⟩
  | case3 b bs hnone ih =>
      rw [List.mem_cons, not_or] at h
      rw [decode, hnone]
      simp only [List.mem_cons, not_or]
      exact ⟨by decide, ih h.2⟩

end Utf8

namespace Lines

variable {text : List Char} {bs : List UInt8} {l o start : ℕ}

/-! ### Lines of bytes -/

lemma split_of_notMem (h : '\n' ∉ text) : split text = [text] := by
  induction text with
  | nil => rfl
  | cons c cs ih =>
      rw [List.mem_cons, not_or] at h
      rw [split, if_neg (Ne.symm h.1), ih h.2]

lemma split_append_of_notMem (h : '\n' ∉ text) (rest : List Char) :
    split (text ++ '\n' :: rest) = text :: split rest := by
  induction text with
  | nil => simp [split]
  | cons c cs ih =>
      rw [List.mem_cons, not_or] at h
      rw [List.cons_append, split, if_neg (Ne.symm h.1), ih h.2]

/-- Lines that are cut from the bytes read as the lines of the characters. -/
lemma map_decode_splitOn (bs : List UInt8) :
    (bs.splitOn 10).map Utf8.decode = split (Utf8.decode bs) := by
  by_cases hmem : (10 : UInt8) ∈ bs
  · -- the first line goes up to the first newline byte
    obtain ⟨line, rest, rfl, hline⟩ := List.eq_append_cons_of_mem hmem
    have hbyte : (10 : UInt8) < 0x80 := by decide
    have hnewline : Char.ofNat (10 : UInt8).toNat = '\n' := rfl
    rw [List.splitOn_append_cons_self_of_not_mem hline, List.map_cons, map_decode_splitOn rest,
      Utf8.decode_append_cons hbyte, Utf8.decode_cons hbyte, hnewline,
      split_append_of_notMem (Utf8.newline_notMem_decode hline)]
  · rw [List.splitOn_eq_singleton hmem, List.map_cons, List.map_nil,
      split_of_notMem (Utf8.newline_notMem_decode hmem)]
termination_by bs.length
decreasing_by simp [*]; omega

/-! ### What stands on a line -/

/-- A line is what stands between its start and its end. -/
lemma getElem?_split_of_starts (hs : (starts text)[l]? = some start) :
    (split text)[l]? = some ((text.drop start).take (lengthOf text (starts text) l)) := by
  obtain ⟨hnumber, hstart, -⟩ := of_getElem?_starts hs
  have hline := getElem?_split text start
  have hlength := lengthOf_eq text start
  rw [hnumber, hstart] at hline hlength
  rw [hline, hlength, ← List.prefix_iff_eq_take.mp (List.takeWhile_prefix _)]

/-- A line ends within the text. -/
lemma start_add_le_length (hs : (starts text)[l]? = some start) :
    start + lengthOf text (starts text) l ≤ text.length := by
  have hcases := fullLength_cases hs
  omega

/-! ### Positions of offsets -/

/-- An offset is on its line, as far behind the start of the line as its position says. -/
lemma IsPosition.exists_start {p : Position} (hp : IsPosition text o p) (ho : o ≤ text.length) :
    ∃ start, (starts text)[p.line.toNat]? = some start ∧ start + p.character.toNat = o ∧
      p.character.toNat ≤ lengthOf text (starts text) p.line.toNat := by
  have hs : (starts text)[p.line.toNat]? = some (lineStart text o) := by
    rw [hp.line, getElem?_starts]
  have hwithin := (newlinesBefore_eq_iff hs ho).mp hp.line.symm
  have hcharacter := hp.character
  exact ⟨lineStart text o, hs, by omega, by omega⟩

/-- A character of a line, or the end of the line, has the line and its distance from the
start of the line as its position. -/
lemma IsPosition.of_start {p : Position} {character : ℕ} (hs : (starts text)[l]? = some start)
    (hc : character ≤ lengthOf text (starts text) l)
    (hp : IsPosition text (start + character) p) :
    p.line.toNat = l ∧ p.character.toNat = character := by
  obtain ⟨hnumber, hstart, -⟩ := of_getElem?_starts hs
  have hend := start_add_le_length hs
  have hon : newlinesBefore text (start + character) = l :=
    (newlinesBefore_eq_iff hs (by omega)).mpr (by omega)
  refine ⟨hp.line.trans hon, ?_⟩
  rw [hp.character, lineStart_eq (hon.trans hnumber.symm), hstart]
  omega

end Lines

/-! ### Sources -/

namespace Source

open Lines

/-- The lines of a source as they were received, without their newline bytes. -/
def lines (s : Source) : List (List UInt8) :=
  s.bytes.splitOn 10

lemma map_decode_lines (s : Source) : s.lines.map Utf8.decode = split s.text :=
  map_decode_splitOn s.bytes

/-- **Offsets and positions correspond one to one.** The token reader and the editor find
the same starts of lines, and as many as there are lines. The position of an offset, up to
the end of the text, is the number of newlines before it, and its distance from the start
of this line, which is no longer than the line. In the other direction, a line and a
character no further than its length are the position of the offset that is as far behind
the start of the line. A line that is cut from the bytes reads as the characters from its
start on, as many as it is long. -/
theorem positions_correspond (s : Source) (hlen : s.text.length < 2 ^ 32) :
    lineOffsets s.text = starts s.text ∧ s.lines.length = (starts s.text).length ∧
    (∀ o ≤ s.text.length,
      let p := Position.ofOffset (starts s.text) o
      p.line.toNat = (s.text.take o).count '\n' ∧
        ∃ start, (starts s.text)[p.line.toNat]? = some start ∧ start + p.character.toNat = o ∧
          p.character.toNat ≤ lengthOf s.text (starts s.text) p.line.toNat) ∧
    ∀ l start, (starts s.text)[l]? = some start →
      (∀ character ≤ lengthOf s.text (starts s.text) l,
        let p := Position.ofOffset (starts s.text) (start + character : ℕ)
        p.line.toNat = l ∧ p.character.toNat = character) ∧
      ∃ bytes, s.lines[l]? = some bytes ∧
        Utf8.decode bytes = (s.text.drop start).take (lengthOf s.text (starts s.text) l) := by
  have hlines := s.map_decode_lines
  refine ⟨lineOffsets_eq_starts _, ?_, fun o ho => ?_, fun l start hs => ⟨fun c hc => ?_, ?_⟩⟩
  · rw [length_starts, ← hlines, List.length_map]
  · have hplace := isPosition_ofOffset (o := o) s.text (by omega)
    exact ⟨hplace.line, hplace.exists_start ho⟩
  · have hend := start_add_le_length hs
    exact (isPosition_ofOffset s.text (by omega)).of_start hs hc
  · have hline := getElem?_split_of_starts hs
    rw [← hlines, List.getElem?_map, Option.map_eq_some_iff] at hline
    exact hline

/-- The last of three lines, behind an empty one and behind a byte that is no character. -/
theorem positions_correspond_stray :
    let s : Source := ⟨[0x61, 0xFF, 10, 10, 0xC3, 0xA9, 0x62]⟩
    let p := Position.ofOffset (starts s.text) (4 + 1 : ℕ)
    s.text.length < 2 ^ 32 ∧ lineOffsets s.text = [0, 3, 4] ∧
      (p.line.toNat = 2 ∧ p.character.toNat = 1) ∧
        ∃ bytes, s.lines[2]? = some bytes ∧ Utf8.decode bytes = ['é', 'b'] := by
  intro s p
  have hlen : s.text.length < 2 ^ 32 := by decide +kernel
  have hstarts : starts s.text = [0, 3, 4] := by decide +kernel
  have hs : (starts s.text)[2]? = some 4 := by rw [hstarts]; rfl
  have hlength : lengthOf s.text (starts s.text) 2 = 2 := by decide +kernel
  have hline : (s.text.drop 4).take 2 = ['é', 'b'] := by decide +kernel
  obtain ⟨hsame, -, -, hback⟩ := positions_correspond s hlen
  obtain ⟨hplace, bytes, hbytes, hdecode⟩ := hback 2 4 hs
  rw [hlength, hline] at hdecode
  exact ⟨hlen, hsame.trans hstarts, hplace 1 (by omega), bytes, hbytes, hdecode⟩

end Source

end ExprMachine

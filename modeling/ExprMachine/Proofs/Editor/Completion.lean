import ExprMachine.Editor.Server
import ExprMachine.Proofs.Text.Positions

/-!
Completing the word before the cursor.

The word is looked for on the line of the cursor alone, as far as the cursor. What counts is
the whole text before the cursor: the newline before the line ends every word. Which further
characters are letters and digits, and so the release that their tables follow, does not matter.

* `Editor.inRanges_of_mem`, `Editor.isWordPart_of_lt`: which characters are parts of words.
* `Editor.IsLastWord`, `Editor.isLastWord_append`: the longest run of word characters at the
  end of a text, and the character before it.
* `Editor.isLastWord_lastWord`: what ends in a character that is no part of a word does not
  matter before a text.
* `Editor.textBefore?`: the text before a cursor on one of its lines.
* `Editor.isLastWord_wordBefore`: the word before the cursor is the last one of this text.
* `Editor.Completes`, `Editor.completes_iff`: the text ends in a beginning of a reserved word.
* `Editor.mem_completions_iff`, `Editor.Server.offers_iff`: the words that are offered.
* `Editor.wordBefore_spec`: what the word before the cursor is, and when a word is offered.
-/

namespace ExprMachine.Editor

open Lines Word

variable {text before word : List Char} {cursor : Position} {k : Keyword}

/-! ### Characters of words -/

/-- A character before all of some ranges is in none of them. -/
lemma inRanges_of_lt {ranges : Array (ℕ × ℕ)} {least : ℕ} {c : Char}
    (hranges : ∀ r ∈ ranges.toList, least ≤ r.1) (hc : c.toNat < least) :
    inRanges ranges c = false := by
  rw [inRanges, ← Array.any_toList, List.any_eq_false]
  rintro ⟨low, high⟩ hr
  have hlow : least ≤ low := hranges _ hr
  simp only [decide_eq_true_eq, not_and]
  omega

/-- A character within one of some ranges is in them. -/
lemma inRanges_of_mem {ranges : Array (ℕ × ℕ)} {low high : ℕ} (h : (low, high) ∈ ranges.toList)
    {c : Char} (hlow : low ≤ c.toNat) (hhigh : c.toNat ≤ high) : inRanges ranges c = true := by
  rw [inRanges, ← Array.any_toList, List.any_eq_true]
  exact ⟨(low, high), h, decide_eq_true ⟨hlow, hhigh⟩⟩

/-- Control characters, the blank and most marks are no parts of words. -/
lemma isWordPart_of_lt {c : Char} (hc : c.toNat < 0x30) : Word.isWordPart c = false := by
  have hletter : isLetter c = false := inRanges_of_lt (by decide +kernel) hc
  have hdigit : isDigit c = false := inRanges_of_lt (by decide +kernel) hc
  have hmark : (c == '_') = false := by
    rw [beq_eq_false_iff_ne]
    rintro rfl
    exact absurd hc (by decide)
  rw [Word.isWordPart, hletter, hdigit, hmark]
  rfl

/-! ### The last word of a text -/

/-- `IsLastWord text word`: the word is the longest run of word characters at the end of the
text. -/
structure IsLastWord (text word : List Char) : Prop where
  suffix : word <:+ text
  isWordPart : ∀ c ∈ word, isWordPart c = true
  longest : ∀ w, w <:+ text → (∀ c ∈ w, Word.isWordPart c = true) → w <:+ word

/-- The last word is what stands behind the last character that is no part of a word. -/
lemma isLastWord_append (hword : ∀ c ∈ word, Word.isWordPart c = true)
    (hbefore : ∀ c ∈ before.getLast?, Word.isWordPart c = false) :
    IsLastWord (before ++ word) word where
  suffix := List.suffix_append _ _
  isWordPart := hword
  longest := by
    intro w hw hparts
    rcases List.suffix_or_suffix_of_suffix hw (List.suffix_append before word) with h | h
    · exact h
    · -- a longer run would hold the last character before the word
      obtain ⟨more, rfl⟩ := h
      obtain ⟨rest, hrest⟩ := hw
      rw [← List.append_assoc] at hrest
      obtain ⟨rfl, -⟩ := List.append_inj' hrest rfl
      rcases more.eq_nil_or_concat' with rfl | ⟨more, c, rfl⟩
      · exact List.suffix_refl _
      · have hpart : Word.isWordPart c = true := hparts c (by simp)
        have hnot : Word.isWordPart c = false := hbefore c (by simp)
        rw [hpart] at hnot
        cases hnot

lemma IsLastWord.unique {w : List Char} (h : IsLastWord text word) (h' : IsLastWord text w) :
    word = w :=
  (h'.longest _ h.suffix h.isWordPart).eq_of_length_le
    (h.longest _ h'.suffix h'.isWordPart).length_le

/-- What ends in a character that is no part of a word does not matter before a text. -/
lemma isLastWord_lastWord (hbefore : ∀ c ∈ before.getLast?, Word.isWordPart c = false)
    (text : List Char) : IsLastWord (before ++ text) (lastWord text) := by
  have hsplit : before ++ text.rdropWhile Word.isWordPart ++ lastWord text = before ++ text := by
    rw [List.append_assoc]
    exact congrArg (before ++ ·) List.rdropWhile_append_rtakeWhile
  rw [← hsplit]
  refine isLastWord_append (fun c hc => List.mem_rtakeWhile_imp hc) fun c hc => ?_
  by_cases hnil : text.rdropWhile Word.isWordPart = []
  · rw [hnil, List.append_nil] at hc
    exact hbefore c hc
  · have hlast := List.rdropWhile_last_not Word.isWordPart text hnil
    rw [List.getLast?_append_of_ne_nil _ hnil, List.getLast?_eq_some_getLast hnil,
      Option.mem_some_iff] at hc
    rw [← hc]
    exact Bool.eq_false_iff.mpr hlast

/-! ### The text before the cursor -/

/-- The text before a cursor on one of its lines. A cursor past the end of its line stands at
the end of the line. -/
def textBefore? (text : List Char) (cursor : Position) : Option (List Char) :=
  (starts text)[cursor.line.toNat]?.map fun start =>
    text.take (start +
      min cursor.character.toNat (lengthOf text (starts text) cursor.line.toNat))

/-- There is text before a cursor on every line. -/
lemma textBefore?_eq_none_iff :
    textBefore? text cursor = none ↔ (split text).length ≤ cursor.line.toNat := by
  rw [textBefore?, Option.map_eq_none_iff, List.getElem?_eq_none_iff, length_starts]

/-- What is before a line ends in a newline, if it is not empty. -/
lemma isWordPart_of_mem_getLast?_take {l start : ℕ} (hs : (starts text)[l]? = some start) {c : Char}
    (hc : c ∈ (text.take start).getLast?) : Word.isWordPart c = false := by
  cases l with
  | zero =>
      obtain rfl : 0 = start := by simpa [starts] using hs
      simp at hc
  | succ j =>
      obtain ⟨k, hk, -, rfl⟩ := getElem?_starts_succ.mp hs
      rw [List.take_add_one, hk, Option.toList_some, List.getLast?_concat, Option.mem_some_iff] at hc
      rw [← hc]
      exact isWordPart_of_lt (by decide)

/-- The word before a cursor is the last one of the text before it. -/
lemma isLastWord_wordBefore (h : textBefore? text cursor = some before) :
    IsLastWord before (wordBefore text cursor).toList := by
  rw [textBefore?, Option.map_eq_some_iff] at h
  obtain ⟨start, hs, rfl⟩ := h
  have hword : (wordBefore text cursor).toList =
      lastWord ((text.drop start).take
        (min cursor.character.toNat (lengthOf text (starts text) cursor.line.toNat))) := by
    rw [wordBefore, getElem?_split_of_starts hs]
    simp only [String.toList_ofList, List.take_take]
  rw [hword, List.take_add]
  exact isLastWord_lastWord (fun c hc => isWordPart_of_mem_getLast?_take hs hc) _

/-- Behind the last line there is no word. -/
lemma wordBefore_of_textBefore?_eq_none (h : textBefore? text cursor = none) :
    wordBefore text cursor = "" := by
  rw [wordBefore, List.getElem?_eq_none (textBefore?_eq_none_iff.mp h)]

/-! ### Words on offer -/

/-- `Completes text k`: the text ends in a beginning of the reserved word `k`, neither empty
nor all of it, with no part of a word before. -/
def Completes (text : List Char) (k : Keyword) : Prop :=
  ∃ before word, text = before ++ word ∧ word ≠ [] ∧ word <+: k.word.toList ∧
    word ≠ k.word.toList ∧ ∀ c ∈ before.getLast?, Word.isWordPart c = false

lemma isWordPart_of_mem_word {c : Char} (hc : c ∈ k.word.toList) : Word.isWordPart c = true := by
  have hsmall : (k.word.toList.all fun c => 0x61 ≤ c.toNat ∧ c.toNat ≤ 0x7A) = true := by
    cases k <;> decide
  have hrange : (0x61, 0x7A) ∈ letterRanges.toList := .tail _ (.head _)
  have hlower := of_decide_eq_true (List.all_eq_true.mp hsmall c hc)
  have hletter : isLetter c = true := inRanges_of_mem hrange hlower.1 hlower.2
  rw [Word.isWordPart, hletter]
  rfl

/-- A text ends in a beginning of a reserved word if its last word is one. -/
lemma completes_iff (h : IsLastWord text word) :
    Completes text k ↔ word ≠ [] ∧ word <+: k.word.toList ∧ word ≠ k.word.toList := by
  constructor
  · rintro ⟨before, w, rfl, hne, hstarts, hproper, hbefore⟩
    have hw : ∀ c ∈ w, Word.isWordPart c = true := fun c hc =>
      isWordPart_of_mem_word (hstarts.mem hc)
    obtain rfl := h.unique (isLastWord_append hw hbefore)
    exact ⟨hne, hstarts, hproper⟩
  · rintro ⟨hne, hstarts, hproper⟩
    obtain ⟨before, rfl⟩ := h.suffix
    refine ⟨before, word, rfl, hne, hstarts, hproper, fun c hc => ?_⟩
    -- with a part of a word before it, the word would be longer
    by_contra hpart
    rw [Bool.not_eq_false] at hpart
    obtain ⟨rest, rfl⟩ := List.getLast?_eq_some_iff.mp hc
    have hlonger : c :: word <:+ word := h.longest (c :: word) ⟨rest, by simp⟩ (by
      intro d hd
      rcases List.mem_cons.mp hd with rfl | hd
      · exact hpart
      · exact h.isWordPart d hd)
    have hlength := hlonger.length_le
    simp at hlength

/-- The reserved words that are offered for a word are those that it begins. -/
lemma mem_completions_iff {start : String} :
    (⟨k⟩ : Completion) ∈ completions start ↔
      start.toList <+: k.word.toList ∧ start.toList ≠ k.word.toList := by
  have hmem : k ∈ Keyword.all := by cases k <;> decide
  have hinj : Function.Injective Completion.mk := fun _ _ h => Completion.mk.inj h
  rw [completions, List.mem_map_of_injective hinj, List.mem_filter, decide_eq_true_iff,
    List.isPrefixOf_iff_prefix, ne_comm, ne_eq, ← String.toList_inj]
  exact and_iff_right hmem

namespace Server

/-- A server offers what the word before the cursor begins, if there is a word. -/
lemma exists_complete_eq_iff {s : Server} {uri text : String}
    (hdocument : s.document? uri = some text) :
    (∃ cs, s.complete uri cursor = .completions cs ∧ ⟨k⟩ ∈ cs) ↔
      (wordBefore text.toList cursor).toList ≠ [] ∧
        (⟨k⟩ : Completion) ∈ completions (wordBefore text.toList cursor) := by
  simp only [complete, hdocument, ne_eq, String.toList_eq_nil_iff, String.isEmpty_iff]
  by_cases hempty : wordBefore text.toList cursor = ""
  · simp [hempty]
  · rw [if_neg hempty]
    cases completions (wordBefore text.toList cursor) <;> simp [hempty]

/-- A server offers the reserved words that the text before the cursor ends in. -/
lemma offers_iff {s : Server} {uri : String} :
    (∃ cs, s.complete uri cursor = .completions cs ∧ ⟨k⟩ ∈ cs) ↔
      ∃ text before, s.document? uri = some text ∧
        textBefore? text.toList cursor = some before ∧ Completes before k := by
  cases hdocument : s.document? uri with
  | none => simp [complete, hdocument]
  | some text =>
      rw [exists_complete_eq_iff hdocument, mem_completions_iff]
      cases hbefore : textBefore? text.toList cursor with
      | none => simp [wordBefore_of_textBefore?_eq_none hbefore, hbefore]
      | some before =>
          rw [← completes_iff (isLastWord_wordBefore hbefore)]
          simp [hbefore]

/-- Words are offered by a server that is ready. -/
lemma handle_completion_iff {s : Server} {uri : String} {cs : List Completion} :
    (s.handle (.completion uri cursor)).1.answer = .ok (.completions cs) ↔
      s.ready = true ∧ s.complete uri cursor = .completions cs := by
  cases hready : s.ready <;> simp [handle, hready, refused, answered]

end Server

/-! ### The word before the cursor -/

/-- **The word before the cursor is the one that ends there.** On a line of the text it is the
longest run of word characters at the end of all that stands before the cursor; behind the last
line it is empty. A reserved word is offered by a server that is ready exactly if the text is
open, the cursor is on one of its lines, and the text before the cursor ends in a beginning of
the reserved word, neither empty nor all of it, with no part of a word before. -/
theorem wordBefore_spec :
    (∀ (s : Source) (cursor : Position), cursor.line.toNat < s.lines.length →
      ∃ before, textBefore? s.text cursor = some before ∧
        IsLastWord before (wordBefore s.text cursor).toList) ∧
    (∀ (s : Source) (cursor : Position), s.lines.length ≤ cursor.line.toNat →
      wordBefore s.text cursor = "") ∧
    ∀ (s : Server) (uri : String) (cursor : Position) (k : Keyword),
      (∃ cs, (s.handle (.completion uri cursor)).1.answer = .ok (.completions cs) ∧ ⟨k⟩ ∈ cs) ↔
        s.ready = true ∧ ∃ text before, s.document? uri = some text ∧
          textBefore? text.toList cursor = some before ∧ Completes before k := by
  have hlines (s : Source) : s.lines.length = (split s.text).length := by
    rw [← s.map_decode_lines, List.length_map]
  refine ⟨fun s cursor hline => ?_, fun s cursor hline => ?_, fun s uri cursor k => ?_⟩
  · rw [hlines, ← Nat.not_le, ← textBefore?_eq_none_iff] at hline
    obtain ⟨before, hbefore⟩ := Option.ne_none_iff_exists'.mp hline
    exact ⟨before, hbefore, isLastWord_wordBefore hbefore⟩
  · rw [hlines, ← textBefore?_eq_none_iff] at hline
    exact wordBefore_of_textBefore?_eq_none hline
  · simp only [Server.handle_completion_iff, and_assoc, exists_and_left, Server.offers_iff]

/-- A cursor past the end of the last of two lines, behind a bracket, and one on the line behind
it. -/
theorem wordBefore_spec_bracket :
    let s := Source.ofString "1\n(f"
    let server : Server := ⟨true, [("a", "1\n(f")]⟩
    (1 < s.lines.length ∧ IsLastWord ['1', '\n', '(', 'f'] (wordBefore s.text ⟨1, 9⟩).toList) ∧
      (s.lines.length ≤ 2 ∧ wordBefore s.text ⟨2, 0⟩ = "") ∧
        ∃ cs, (server.handle (.completion "a" ⟨1, 9⟩)).1.answer = .ok (.completions cs) ∧
          ⟨.funWord⟩ ∈ cs := by
  intro s server
  have hline : s.lines.length = 2 := by decide +kernel
  have hbefore : textBefore? s.text ⟨1, 9⟩ = some ['1', '\n', '(', 'f'] := by decide +kernel
  have hdocument : server.document? "a" = some "1\n(f" := by decide +kernel
  have hopen : textBefore? "1\n(f".toList ⟨1, 9⟩ = some ['1', '\n', '(', 'f'] := by decide +kernel
  have hcompletes : Completes ['1', '\n', '(', 'f'] .funWord :=
    ⟨['1', '\n', '('], ['f'], rfl, by decide, by decide, by decide, fun c hc =>
      isWordPart_of_lt (by simp at hc; simp [← hc])⟩
  obtain ⟨hlast, hbehind, hoffers⟩ := wordBefore_spec
  obtain ⟨before, hfound, hword⟩ := hlast s ⟨1, 9⟩ (by rw [hline]; decide)
  obtain rfl := Option.some.inj (hbefore.symm.trans hfound)
  exact ⟨⟨by omega, hword⟩, ⟨by omega, hbehind s ⟨2, 0⟩ (by rw [hline]; decide)⟩,
    (hoffers server "a" ⟨1, 9⟩ .funWord).mpr ⟨rfl, _, _, hdocument, hopen, hcompletes⟩⟩

end ExprMachine.Editor

import ExprMachine.Text.Lines
import Mathlib.Data.List.DropRight
import Mathlib.Tactic

/-!
Lines and positions of a text.

* `Lines.newlinesBefore`, `Lines.lineStart`: the number of newlines before an offset,
  and the offset behind the last of them.
* `Lines.getElem?_startsAfter`: a line starts behind every newline, and nowhere else but
  at the beginning.
* `Lines.getElem?_starts`: the start of the line that an offset is on.
* `Lines.IsPosition`, `Lines.isPosition_ofOffset`: the position of an offset;
  `Lines.before_iff_lt` compares two of them.
* `Lines.length_split`: the number of lines.
* `Lines.getElem?_split`, `Lines.lengthOf_eq`: the line that an offset is on, and its
  length.
* `Lines.of_getElem?_starts`, `Lines.newlinesBefore_eq_iff`: the offsets that are on a line.
-/

namespace ExprMachine

namespace Lines

/-- The number of newlines before an offset. -/
def newlinesBefore (text : List Char) (offset : ℕ) : ℕ :=
  (text.take offset).count '\n'

/-- The offset behind the last newline before an offset, 0 if there is none. -/
def lineStart (text : List Char) (offset : ℕ) : ℕ :=
  ((text.take offset).rdropWhile (· ≠ '\n')).length

variable {text : List Char} {c : Char} {n o p : ℕ}

/-! ### Newlines -/

@[simp] lemma newlinesBefore_zero (text : List Char) : newlinesBefore text 0 = 0 := by
  simp [newlinesBefore]

lemma newlinesBefore_cons_succ (c : Char) (text : List Char) (o : ℕ) :
    newlinesBefore (c :: text) (o + 1) = newlinesBefore text o + if c = '\n' then 1 else 0 := by
  rw [newlinesBefore, List.take_succ_cons, List.count_cons, newlinesBefore]
  simp

lemma newlinesBefore_succ (h : text[o]? = some c) :
    newlinesBefore text (o + 1) = newlinesBefore text o + if c = '\n' then 1 else 0 := by
  rw [newlinesBefore, List.take_add_one, h, Option.toList_some, List.count_append,
    List.count_singleton, newlinesBefore]
  simp

lemma newlinesBefore_mono (text : List Char) (h : o ≤ p) :
    newlinesBefore text o ≤ newlinesBefore text p :=
  (List.take_sublist_take_left h).count_le _

lemma newlinesBefore_le (text : List Char) (o : ℕ) : newlinesBefore text o ≤ o :=
  List.count_le_length.trans (by simp)

/-- What stands between two offsets holds the newlines between them. -/
lemma newlinesBefore_add (text : List Char) (o n : ℕ) :
    newlinesBefore text (o + n) = newlinesBefore text o + ((text.drop o).take n).count '\n' := by
  rw [newlinesBefore, List.take_add, List.count_append, newlinesBefore]

/-! ### Where lines start -/

/-- A line starts behind every newline. -/
lemma getElem?_startsAfter {j s : ℕ} : (startsAfter n text)[j]? = some s ↔
    ∃ k, text[k]? = some '\n' ∧ newlinesBefore text k = j ∧ s = n + k + 1 := by
  induction text generalizing n j with
  | nil => simp [startsAfter]
  | cons c cs ih =>
      rw [← Nat.or_exists_add_one, startsAfter]
      simp only [List.getElem?_cons_zero, List.getElem?_cons_succ, newlinesBefore_zero,
        newlinesBefore_cons_succ, Option.some_inj, Nat.add_zero]
      have hshift : ∀ k, s = n + 1 + k + 1 ↔ s = n + (k + 1) + 1 := fun k => by omega
      by_cases hc : c = '\n'
      · rw [if_pos hc]
        cases j with
        | zero => simp [hc, eq_comm]
        | succ j => simp [hc, ih, hshift]
      · rw [if_neg hc, ih]
        simp [hc, hshift]

/-- The lines behind the first start behind the newlines. -/
lemma getElem?_starts_succ {j s : ℕ} : (starts text)[j + 1]? = some s ↔
    ∃ k, text[k]? = some '\n' ∧ newlinesBefore text k = j ∧ s = k + 1 := by
  rw [starts, List.getElem?_cons_succ, getElem?_startsAfter]
  simp only [Nat.zero_add]

/-- The line that an offset is on is the one of its number. -/
lemma getElem?_starts (text : List Char) (o : ℕ) :
    (starts text)[newlinesBefore text o]? = some (lineStart text o) := by
  induction o with
  | zero => simp [starts, lineStart]
  | succ o ih =>
      cases h : text[o]? with
      | none =>
          have htake : text.take (o + 1) = text.take o := by
            rw [List.take_add_one, h, Option.toList_none, List.append_nil]
          rwa [newlinesBefore, lineStart, htake]
      | some c =>
          have htake : text.take (o + 1) = text.take o ++ [c] := by
            rw [List.take_add_one, h, Option.toList_some]
          rw [newlinesBefore_succ h, lineStart, htake]
          by_cases hc : c = '\n'
          · have ho := (List.getElem?_eq_some_iff.mp h).1
            rw [if_pos hc, List.rdropWhile_concat_neg _ _ _ (by simp [hc]), getElem?_starts_succ]
            refine ⟨o, hc ▸ h, rfl, ?_⟩
            simp [ho.le]
          · rw [if_neg hc, List.rdropWhile_concat_pos _ _ _ (by simp [hc])]
            exact ih

lemma lineStart_le (text : List Char) (o : ℕ) : lineStart text o ≤ o :=
  (List.rdropWhile_prefix _ (text.take o)).length_le.trans (List.length_take_le _ _)

/-! ### Positions -/

/-- As many lines start up to an offset as there are newlines before it. -/
lemma length_takeWhile_startsAfter (text : List Char) (n m : ℕ) :
    ((startsAfter n text).takeWhile fun (s : ℕ) => (s : ℤ) ≤ m).length =
      newlinesBefore text (m - n) := by
  induction text generalizing n with
  | nil => simp [startsAfter, newlinesBefore]
  | cons c cs ih =>
      have hrest := ih (n + 1)
      rw [startsAfter]
      by_cases hm : m ≤ n
      · -- all lines start behind the offset
        rw [Nat.sub_eq_zero_of_le (by omega), newlinesBefore_zero] at hrest
        rw [Nat.sub_eq_zero_of_le hm, newlinesBefore_zero]
        split_ifs
        · rw [List.takeWhile_cons_of_neg (by simpa using hm), List.length_nil]
        · exact hrest
      · have hsub : m - n = m - (n + 1) + 1 := by omega
        rw [hsub, newlinesBefore_cons_succ]
        split_ifs
        · rw [List.takeWhile_cons_of_pos (by simpa using hm), List.length_cons, hrest]
        · exact hrest

/-- `IsPosition text o p`: the line of `p` is the number of newlines before the offset
`o`, and its character is the distance from the last of them. -/
structure IsPosition (text : List Char) (o : ℕ) (p : Position) : Prop where
  line : p.line.toNat = newlinesBefore text o
  character : p.character.toNat = o - lineStart text o

/-- Offsets of 32 bits are turned into positions exactly. -/
lemma isPosition_ofOffset (text : List Char) (h : o < 2 ^ 32) :
    IsPosition text o (.ofOffset (starts text) o) := by
  have hcount : ((starts text).takeWhile fun (s : ℕ) => (s : ℤ) ≤ o).length =
      newlinesBefore text o + 1 := by
    rw [starts, List.takeWhile_cons_of_pos (by simp), List.length_cons,
      length_takeWhile_startsAfter, Nat.sub_zero]
  have hstart := lineStart_le text o
  rw [Position.ofOffset]
  simp only [hcount, Nat.add_sub_cancel, getElem?_starts, Option.getD_some]
  constructor
  · exact UInt32.toNat_ofNat_of_lt' ((newlinesBefore_le text o).trans_lt h)
  · have hdistance : (((o : ℤ) - lineStart text o) % 2 ^ 32).toNat = o - lineStart text o := by
      omega
    rw [UInt32.ofInt, hdistance]
    exact UInt32.toNat_ofNat_of_lt' ((Nat.sub_le _ _).trans_lt h)

/-- Two offsets on one line start it at the same place. -/
lemma lineStart_eq (h : newlinesBefore text o = newlinesBefore text p) :
    lineStart text o = lineStart text p := by
  have ho := getElem?_starts text o
  rw [h, getElem?_starts] at ho
  exact (Option.some.inj ho).symm

/-- Whether a position is before another one. -/
def Before (p q : Position) : Prop :=
  p.line < q.line ∨ p.line = q.line ∧ p.character < q.character

/-- A later offset is on a later line, or further on the same line. -/
lemma before_of_lt {s t : Position} (hs : IsPosition text o s) (ht : IsPosition text p t)
    (h : o < p) : Before s t := by
  have hmono := newlinesBefore_mono text h.le
  rw [Before, UInt32.lt_iff_toNat_lt, UInt32.lt_iff_toNat_lt, ← UInt32.toNat_inj, hs.line,
    ht.line, hs.character, ht.character]
  rcases Nat.lt_or_eq_of_le hmono with hlt | heq
  · exact .inl hlt
  · have hle := lineStart_le text o
    refine .inr ⟨heq, ?_⟩
    rw [← lineStart_eq heq]
    omega

/-- Positions stand in the order of their offsets. -/
lemma before_iff_lt {s t : Position} (hs : IsPosition text o s) (ht : IsPosition text p t) :
    Before s t ↔ o < p := by
  refine ⟨fun h => ?_, before_of_lt hs ht⟩
  by_contra hnot
  rw [Before, UInt32.lt_iff_toNat_lt, UInt32.lt_iff_toNat_lt, ← UInt32.toNat_inj] at h
  rcases (Nat.le_of_not_lt hnot).lt_or_eq with hlt | rfl
  · have hback := before_of_lt ht hs hlt
    rw [Before, UInt32.lt_iff_toNat_lt, UInt32.lt_iff_toNat_lt, ← UInt32.toNat_inj] at hback
    omega
  · rw [hs.line, ht.line, hs.character, ht.character] at h
    omega

/-! ### The lines themselves -/

lemma head?_split (text : List Char) :
    (split text).head? = some (text.takeWhile (· ≠ '\n')) := by
  induction text with
  | nil => rfl
  | cons c cs ih =>
      obtain ⟨lines, hlines⟩ := List.head?_eq_some_iff.mp ih
      rw [split]
      split_ifs with hc
      · rw [List.takeWhile_cons_of_neg (by simp [hc])]
        rfl
      · rw [hlines, List.takeWhile_cons_of_pos (by simp [hc])]
        rfl

/-- A text has one line more than newlines. -/
lemma length_split (text : List Char) : (split text).length = text.count '\n' + 1 := by
  induction text with
  | nil => rfl
  | cons c cs ih =>
      rw [split, List.count_cons, Nat.add_right_comm, ← ih]
      by_cases hc : c = '\n'
      · simp [hc]
      · obtain ⟨lines, hlines⟩ := List.head?_eq_some_iff.mp (head?_split cs)
        simp [hc, hlines]

/-- Behind a newline, the lines are those of what stands there. -/
lemma split_append_newline (u v : List Char) :
    ∃ lines, split (u ++ '\n' :: v) = lines ++ split v ∧ lines.length = u.count '\n' + 1 := by
  induction u with
  | nil => exact ⟨[[]], by simp [split], rfl⟩
  | cons c cs ih =>
      obtain ⟨lines, hlines, hlength⟩ := ih
      rw [List.cons_append, split, hlines]
      by_cases hc : c = '\n'
      · rw [if_pos hc]
        exact ⟨[] :: lines, rfl, by simp [hlength, hc]⟩
      · rw [if_neg hc]
        cases lines with
        | nil => simp at hlength
        | cons line lines =>
            refine ⟨(c :: line) :: lines, rfl, ?_⟩
            simpa [hc] using hlength

/-- A line is the first, or it starts behind a newline. -/
lemma lineStart_cases (text : List Char) (o : ℕ) :
    newlinesBefore text o = 0 ∧ lineStart text o = 0 ∨
      ∃ k, text[k]? = some '\n' ∧ newlinesBefore text o = newlinesBefore text k + 1 ∧
        lineStart text o = k + 1 := by
  have hstart := getElem?_starts text o
  cases hcount : newlinesBefore text o with
  | zero =>
      rw [hcount] at hstart
      exact .inl ⟨rfl, (Option.some.inj hstart).symm⟩
  | succ j =>
      rw [hcount] at hstart
      obtain ⟨k, hk, rfl, hs⟩ := getElem?_starts_succ.mp hstart
      exact .inr ⟨k, hk, rfl, hs⟩

lemma newlinesBefore_lineStart (text : List Char) (o : ℕ) :
    newlinesBefore text (lineStart text o) = newlinesBefore text o := by
  obtain ⟨hcount, hstart⟩ | ⟨k, hk, hcount, hstart⟩ := lineStart_cases text o
  · rw [hstart, hcount, newlinesBefore_zero]
  · rw [hstart, hcount, newlinesBefore_succ hk, if_pos rfl]

/-- The line that an offset is on goes from its start to the next newline. -/
lemma getElem?_split (text : List Char) (o : ℕ) :
    (split text)[newlinesBefore text o]? =
      some ((text.drop (lineStart text o)).takeWhile (· ≠ '\n')) := by
  obtain ⟨hcount, hstart⟩ | ⟨k, hk, hcount, hstart⟩ := lineStart_cases text o
  · rw [hcount, hstart, List.drop_zero, ← List.head?_eq_getElem?, head?_split]
  · obtain ⟨hlt, hget⟩ := List.getElem?_eq_some_iff.mp hk
    have htext : text = text.take k ++ '\n' :: text.drop (k + 1) := by
      rw [← hget, ← List.drop_eq_getElem_cons hlt, List.take_append_drop]
    obtain ⟨lines, hlines, hlength⟩ := split_append_newline (text.take k) (text.drop (k + 1))
    rw [← htext] at hlines
    have hnumber : newlinesBefore text o = lines.length := by rw [hcount, hlength, newlinesBefore]
    rw [hstart, hlines, hnumber, List.getElem?_append_right le_rfl, Nat.sub_self,
      ← List.head?_eq_getElem?, head?_split]

/-- A line holds no newline, and is followed by one or by the end of the text. -/
lemma newlinesBefore_lineStart_add (text : List Char) (o : ℕ) :
    let line := (text.drop (lineStart text o)).takeWhile (· ≠ '\n')
    newlinesBefore text (lineStart text o + line.length) = newlinesBefore text o ∧
      (text[lineStart text o + line.length]? = some '\n' ∨
        lineStart text o + line.length = max (lineStart text o) text.length) := by
  intro line
  set rest := text.drop (lineStart text o) with hrest
  have hsplit : rest = line ++ rest.dropWhile (· ≠ '\n') := List.takeWhile_append_dropWhile.symm
  constructor
  · have htake : rest.take line.length = line :=
      (List.prefix_iff_eq_take.mp (List.takeWhile_prefix _)).symm
    have hnone : line.count '\n' = 0 := by
      refine List.count_eq_zero.mpr fun hmem => ?_
      simpa using List.mem_takeWhile_imp hmem
    rw [newlinesBefore_add, ← hrest, htake, hnone, newlinesBefore_lineStart, Nat.add_zero]
  · have hnext := List.head?_dropWhile_not (fun c => decide (c ≠ '\n')) rest
    cases hdrop : rest.dropWhile (· ≠ '\n') with
    | nil =>
        rw [hdrop, List.append_nil] at hsplit
        have hlength : line.length = text.length - lineStart text o := by
          rw [← hsplit, hrest, List.length_drop]
        exact .inr (by omega)
    | cons d ds =>
        rw [hdrop] at hnext hsplit
        obtain rfl : d = '\n' := by simpa using hnext
        refine .inl ?_
        rw [← List.getElem?_drop, ← hrest, hsplit, List.getElem?_append_right le_rfl]
        simp

/-- The length of a line is the distance from its start to the next newline. -/
lemma lengthOf_eq (text : List Char) (o : ℕ) :
    lengthOf text (starts text) (newlinesBefore text o) =
      ((text.drop (lineStart text o)).takeWhile (· ≠ '\n')).length := by
  obtain ⟨hcount, hend⟩ := newlinesBefore_lineStart_add text o
  set n := ((text.drop (lineStart text o)).takeWhile (· ≠ '\n')).length
  rw [lengthOf, getElem?_starts]
  dsimp only
  rcases hend with hnewline | hlast
  · have hnext : (starts text)[newlinesBefore text o + 1]? = some (lineStart text o + n + 1) :=
      getElem?_starts_succ.mpr ⟨_, hnewline, hcount, rfl⟩
    rw [hnext]
    dsimp only
    omega
  · cases hnext : (starts text)[newlinesBefore text o + 1]? with
    | none =>
        dsimp only
        omega
    | some next =>
        -- a further line would start behind a newline that stands behind the last line
        obtain ⟨k, hk, hkcount, -⟩ := getElem?_starts_succ.mp hnext
        have hlt := (List.getElem?_eq_some_iff.mp hk).1
        have hmono : newlinesBefore text (k + 1) ≤ newlinesBefore text (lineStart text o + n) :=
          newlinesBefore_mono text (by omega)
        rw [newlinesBefore_succ hk, if_pos rfl] at hmono
        omega

/-- What ends on the line of an offset ends before the next newline. -/
lemma le_lineStart_add (h : newlinesBefore text p = newlinesBefore text o)
    (hp : p ≤ text.length) :
    p ≤ lineStart text o + ((text.drop (lineStart text o)).takeWhile (· ≠ '\n')).length := by
  obtain ⟨hcount, hnewline | hlast⟩ := newlinesBefore_lineStart_add text o
  · by_contra hlt
    have hmono := newlinesBefore_mono text (Nat.lt_of_not_le hlt)
    rw [Nat.succ_eq_add_one, newlinesBefore_succ hnewline, if_pos rfl] at hmono
    omega
  · omega

/-! ### The offsets of a line -/

lemma length_startsAfter (text : List Char) (n : ℕ) :
    (startsAfter n text).length = text.count '\n' := by
  induction text generalizing n with
  | nil => rfl
  | cons c cs ih =>
      rw [startsAfter, List.count_cons]
      by_cases hc : c = '\n' <;> simp [hc, ih]

/-- As many lines start as the text has. -/
lemma length_starts (text : List Char) : (starts text).length = (split text).length := by
  rw [starts, List.length_cons, length_startsAfter, length_split]

/-- The start of a line is on the line, and the line does not start before it. -/
lemma of_getElem?_starts {l s : ℕ} (hs : (starts text)[l]? = some s) :
    newlinesBefore text s = l ∧ lineStart text s = s ∧ s ≤ text.length := by
  have hnumber : newlinesBefore text s = l ∧ s ≤ text.length := by
    cases l with
    | zero =>
        obtain rfl : 0 = s := by simpa [starts] using hs
        simp
    | succ j =>
        obtain ⟨k, hk, rfl, rfl⟩ := getElem?_starts_succ.mp hs
        exact ⟨by rw [newlinesBefore_succ hk, if_pos rfl], (List.getElem?_eq_some_iff.mp hk).1⟩
  have hstart := getElem?_starts text s
  rw [hnumber.1, hs] at hstart
  exact ⟨hnumber.1, (Option.some.inj hstart).symm, hnumber.2⟩

/-- An offset is on a line if it is no further from its start than the line is long. -/
lemma newlinesBefore_eq_iff {l s : ℕ} (hs : (starts text)[l]? = some s) (ho : o ≤ text.length) :
    newlinesBefore text o = l ↔ s ≤ o ∧ o ≤ s + lengthOf text (starts text) l := by
  obtain ⟨hnumber, hstart, -⟩ := of_getElem?_starts hs
  have hlength := lengthOf_eq text s
  have hend := (newlinesBefore_lineStart_add text s).1
  rw [← hlength, hstart, hnumber] at hend
  constructor
  · intro h
    have hsame : lineStart text o = s := (lineStart_eq (h.trans hnumber.symm)).trans hstart
    have hle := le_lineStart_add (h.trans hnumber.symm) ho
    rw [← hlength, hstart, hnumber] at hle
    exact ⟨hsame ▸ lineStart_le text o, hle⟩
  · rintro ⟨hlow, hhigh⟩
    have hfirst := newlinesBefore_mono text hlow
    have hlast := newlinesBefore_mono text hhigh
    omega

end Lines

end ExprMachine

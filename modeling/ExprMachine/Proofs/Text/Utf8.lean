import ExprMachine.Text.Utf8
import Mathlib.Tactic

/-!
Reading bytes in two parts.

A byte below `80` is a character of its own and no part of another one. What stands
before such a byte is read as if it stood alone, be it clean or not.

* `Utf8.decode_append_cons`: where a text may be cut.
* `Utf8.IsAscii`, `Utf8.decode_encode`: characters that are written as one byte
  each, and read back.
* `Source.text_ofString_append`, `Source.text_append_ofString_append`: the characters
  of a source with such a text before it or behind it.
-/

namespace ExprMachine

namespace Utf8

/-! ### Bytes below 80 -/

variable {b : UInt8} {bs ys : List UInt8}

/-- The first byte behind an opening one is no byte below 80. -/
lemma le_low {lead : Lead} (h : Lead.ofByte? b = some lead) : 0x80 ≤ lead.low := by
  unfold Lead.ofByte? at h
  split_ifs at h
  all_goals
    obtain rfl := Option.some.inj h
    dsimp only
    decide

/-- Gathering goes on past the end of the bytes only into another one above 80. -/
lemma gather_append_cons (hb : b < 0x80) (n : ℕ) {low : UInt8} (hlow : 0x80 ≤ low)
    (high : UInt8) (sum : ℕ) (bs ys : List UInt8) :
    gather n low high sum (bs ++ b :: ys) = gather n low high sum bs := by
  induction n generalizing low high sum bs with
  | zero => rfl
  | succ n ih =>
      cases bs with
      | nil =>
          have hout : ¬ (low ≤ b ∧ b ≤ high) := fun h =>
            UInt8.not_le.mpr hb (UInt8.le_trans hlow h.1)
          rw [List.nil_append, gather, gather, if_neg hout]
      | cons d ds =>
          rw [List.cons_append, gather, gather]
          split_ifs
          · exact ih (by decide) _ _ _
          · rfl

/-- What is gathered has been there. -/
lemma le_length_of_gather {n : ℕ} {low high : UInt8} {sum code : ℕ}
    (h : gather n low high sum bs = some code) : n ≤ bs.length := by
  induction n generalizing low high sum bs with
  | zero => exact Nat.zero_le _
  | succ n ih =>
      cases bs with
      | nil => cases h
      | cons d ds =>
          rw [gather] at h
          split_ifs at h
          exact Nat.succ_le_succ (ih h)

lemma codePoint?_append_cons (hb : b < 0x80) (c : UInt8) (bs ys : List UInt8) :
    codePoint? c (bs ++ b :: ys) = codePoint? c bs := by
  rw [codePoint?, codePoint?]
  cases hlead : Lead.ofByte? c with
  | none => rfl
  | some lead => simp only [Option.bind_eq_bind, Option.bind_some,
      gather_append_cons hb _ (le_low hlead)]

lemma le_length_of_codePoint? {c : UInt8} {p : Char × ℕ} (h : codePoint? c bs = some p) :
    p.2 ≤ bs.length := by
  simp only [codePoint?, Option.bind_eq_bind, Option.bind_eq_some_iff, Option.pure_def,
    Option.some.injEq] at h
  obtain ⟨lead, -, code, hcode, rfl⟩ := h
  exact le_length_of_gather hcode

/-- Before a byte below 80, a text may be cut. -/
lemma decode_append_cons (hb : b < 0x80) (bs ys : List UInt8) :
    decode (bs ++ b :: ys) = decode bs ++ decode (b :: ys) := by
  induction bs using decode.induct with
  | case1 => rw [decode, List.nil_append, List.nil_append]
  | case2 c cs d n h ih =>
      have happend : codePoint? c (cs ++ b :: ys) = some (d, n) := by
        rw [codePoint?_append_cons hb, h]
      have hle : n ≤ cs.length := le_length_of_codePoint? h
      rw [List.cons_append, decode, decode, happend, h]
      simp only [List.drop_append_of_le_length hle, ih, List.cons_append]
  | case3 c cs h ih =>
      have happend : codePoint? c (cs ++ b :: ys) = none := by rw [codePoint?_append_cons hb, h]
      rw [List.cons_append, decode, decode, happend, h]
      simp only [ih, List.cons_append]

/-- A byte below 80 is a character of its own. -/
lemma decode_cons (hb : b < 0x80) (ys : List UInt8) :
    decode (b :: ys) = Char.ofNat b.toNat :: decode ys := by
  have h : codePoint? b ys = some (Char.ofNat b.toNat, 0) := by
    simp only [codePoint?, Lead.ofByte?, if_pos hb]
    rfl
  rw [decode, h]
  rfl

/-! ### Characters of one byte -/

/-- All characters of a text are written as one byte each. -/
def IsAscii (cs : List Char) : Prop :=
  ∀ c ∈ cs, c.toNat < 0x80

instance (cs : List Char) : Decidable (IsAscii cs) :=
  decidable_of_iff (cs.all (·.toNat < 0x80) = true) (by simp [IsAscii])

variable {c : Char} {cs ds : List Char}

lemma IsAscii.append (hc : IsAscii cs) (hd : IsAscii ds) : IsAscii (cs ++ ds) := fun x hx =>
  (List.mem_append.mp hx).elim (hc x) (hd x)

lemma encode_cons (hc : c.toNat < 0x80) (cs : List Char) :
    encode (c :: cs) = UInt8.ofNat c.toNat :: encode cs := by
  have hle : c.val.toNat ≤ 127 := Nat.le_of_lt_succ hc
  rw [encode, List.flatMap_cons, String.utf8EncodeChar]
  simp only [if_pos hle]
  rfl

/-- The byte of such a character is below 80, and the character is read off it. -/
lemma byte_lt (hc : c.toNat < 0x80) :
    UInt8.ofNat c.toNat < 0x80 ∧ (UInt8.ofNat c.toNat).toNat = c.toNat := by
  have hnat : (UInt8.ofNat c.toNat).toNat = c.toNat :=
    UInt8.toNat_ofNat_of_lt' (hc.trans (by decide))
  refine ⟨UInt8.lt_iff_toNat_lt.mpr ?_, hnat⟩
  rw [hnat]
  exact hc

/-- Such a text is read back, whatever stands behind it. -/
lemma decode_encode_append (h : IsAscii cs) (bs : List UInt8) :
    decode (encode cs ++ bs) = cs ++ decode bs := by
  induction cs with
  | nil => rfl
  | cons c cs ih =>
      have hc := h c List.mem_cons_self
      obtain ⟨hlt, hnat⟩ := byte_lt hc
      rw [encode_cons hc, List.cons_append, decode_cons hlt, hnat, Char.ofNat_toNat,
        ih fun d hd => h d (List.mem_cons_of_mem c hd), List.cons_append]

lemma decode_encode (h : IsAscii cs) : decode (encode cs) = cs := by
  have hdecode := decode_encode_append h []
  rwa [List.append_nil, decode, List.append_nil] at hdecode

end Utf8

/-! ### Sources behind each other -/

namespace Source

/-- One source behind the other. -/
instance : Append Source :=
  ⟨fun s s' => ⟨s.bytes ++ s'.bytes⟩⟩

open Utf8

variable {t : String}

lemma text_ofString (h : IsAscii t.toList) : (ofString t).text = t.toList :=
  decode_encode h

/-- Before a source, a text of single bytes is read as it is. -/
lemma text_ofString_append (h : IsAscii t.toList) (s : Source) :
    (ofString t ++ s).text = t.toList ++ s.text :=
  decode_encode_append h s.bytes

/-- A text of single bytes begins with a byte below 80, whatever stands behind it. -/
lemma exists_bytes_eq (h : IsAscii t.toList) (hne : t.toList ≠ []) (s : Source) :
    ∃ b bs, b < 0x80 ∧ (ofString t ++ s).bytes = b :: bs := by
  obtain ⟨c, cs, hcs⟩ := List.exists_cons_of_ne_nil hne
  have hc : c.toNat < 0x80 := h c (hcs ▸ List.mem_cons_self)
  have hbytes : (ofString t).bytes = UInt8.ofNat c.toNat :: encode cs := by
    rw [ofString, hcs, encode_cons hc]
  exact ⟨_, _, (byte_lt hc).1, congrArg (· ++ s.bytes) hbytes⟩

/-- Where a text of single bytes stands between two sources, each is read by itself. -/
lemma text_append_ofString_append (s : Source) (h : IsAscii t.toList) (hne : t.toList ≠ [])
    (s' : Source) : (s ++ ofString t ++ s').text = s.text ++ (t.toList ++ s'.text) := by
  obtain ⟨b, bs, hb, hbytes⟩ := exists_bytes_eq h hne s'
  have hsplit : (s ++ ofString t ++ s').bytes = s.bytes ++ b :: bs := by
    rw [← hbytes]
    exact List.append_assoc _ _ _
  rw [← text_ofString_append h s', text, text, text, hsplit, hbytes, decode_append_cons hb]

/-- Behind a source, a text of single bytes is read as it is. -/
lemma text_append_ofString (s : Source) (h : IsAscii t.toList) (hne : t.toList ≠ []) :
    (s ++ ofString t).text = s.text ++ t.toList := by
  have hnone : s ++ ofString t ++ (⟨[]⟩ : Source) = s ++ ofString t :=
    congrArg Source.mk (List.append_nil _)
  have hempty : (⟨[]⟩ : Source).text = [] := by rw [text, decode]
  have htext := s.text_append_ofString_append h hne ⟨[]⟩
  rwa [hnone, hempty, List.append_nil] at htext

end Source

end ExprMachine

import ExprMachine.Proofs.Number.Bits
import ExprMachine.Proofs.Number.Range
import ExprMachine.Proofs.Token.LongestMatch

/-!
What is shown of a number is read back as that number.

* `Decimal.ofDigits_text`, `Decimal.matches_text`: the text of a decimal is a literal,
  and stands for that decimal.
* `FloatFormat.nearest_of_magnitude?`: the number nearest to one that the format holds
  is that number.
* `Decimal.magnitude_exact`, `Decimal.magnitude_shortest`: the decimal that shows a
  double is read as that double, be it a short one or the exact one.
* `Number.IsFinite`, `Number.exists_magnitude`: the sign and the magnitude of a finite
  double.
* `Number.exists_text_eq`, `Number.text_cases`: its text is that of a literal, behind a
  sign if it is negative.
* `Number.neg_eq`: the sign is put back by negation, on zero too.
-/

namespace ExprMachine

/-! ### The digits of a decimal -/

namespace Decimal

open Token

lemma isDigit_digitChar {n : ℕ} (h : n < 10) : isDigit (Nat.digitChar n) = true := by
  interval_cases n <;> decide

lemma isDigit_of_mem_toDigits {n : ℕ} {c : Char} (h : c ∈ Nat.toDigits 10 n) :
    isDigit c = true := by
  have hdigit := Nat.isDigit_of_mem_toDigits (by norm_num) (by norm_num) h
  simpa [Char.isDigit, isDigit, Char.le_def] using hdigit

lemma isDigit_of_mem_lowDigits {width n : ℕ} {c : Char} (h : c ∈ lowDigits width n) :
    isDigit c = true := by
  induction width generalizing n with
  | zero => cases h
  | succ width ih =>
      rw [lowDigits, List.mem_append, List.mem_singleton] at h
      rcases h with h | rfl
      · exact ih h
      · exact isDigit_digitChar (Nat.mod_lt _ (by norm_num))

@[simp] lemma length_lowDigits (width n : ℕ) : (lowDigits width n).length = width := by
  induction width generalizing n with
  | zero => rfl
  | succ width ih => rw [lowDigits, List.length_append, ih, List.length_singleton]

/-- The digits behind others stand for the lowest part of a number. -/
lemma ofDigitChars_lowDigits (width n init : ℕ) :
    Nat.ofDigitChars 10 (lowDigits width n) init = init * 10 ^ width + n % 10 ^ width := by
  induction width generalizing n with
  | zero => simp [lowDigits, Nat.ofDigitChars, Nat.mod_one]
  | succ width ih =>
      have hdigit : ∀ d < 10, (Nat.digitChar d).toNat - '0'.toNat = d := by decide
      have hmod : n % 10 ^ (width + 1) = n % 10 + 10 * (n / 10 % 10 ^ width) := by
        rw [Nat.pow_succ', Nat.mod_mul]
      rw [lowDigits, Nat.ofDigitChars_append, ih, Nat.ofDigitChars_cons,
        hdigit _ (Nat.mod_lt _ (by norm_num)), hmod]
      simp only [Nat.ofDigitChars, List.foldl_nil]
      ring

/-- The text of a decimal is the digits of its whole part, and behind a point those of
its fraction if it has one. -/
lemma toList_text (d : Decimal) :
    d.text.toList = Nat.toDigits 10 (d.digits / 10 ^ d.scale) ++
      if d.scale = 0 then [] else '.' :: lowDigits d.scale (d.digits % 10 ^ d.scale) := by
  rw [text, Nat.toString_eq_ofList_toDigits]
  split_ifs <;> simp

lemma isDigit_or_eq_of_mem_text {d : Decimal} {c : Char} (h : c ∈ d.text.toList) :
    isDigit c = true ∨ c = '.' := by
  rw [toList_text, List.mem_append] at h
  rcases h with h | h
  · exact .inl (isDigit_of_mem_toDigits h)
  · split_ifs at h
    · cases h
    · rcases List.mem_cons.mp h with rfl | h
      · exact .inr rfl
      · exact .inl (isDigit_of_mem_lowDigits h)

lemma isDigit_ne_dot {c : Char} (h : isDigit c = true) : (decide (c ≠ '.')) = true := by
  refine decide_eq_true fun hdot => ?_
  rw [hdot] at h
  exact absurd h (by decide)

/-- What digits stand for. -/
lemma ofDigits_of_digits {u : List Char} (hu : ∀ c ∈ u, isDigit c = true) :
    ofDigits u = ⟨Nat.ofDigitChars 10 u 0, 0⟩ := by
  have hpoint : ∀ c ∈ u, (decide (c ≠ '.')) = true := fun c hc => isDigit_ne_dot (hu c hc)
  rw [ofDigits, List.takeWhile_eq_self_iff.mpr hpoint, List.dropWhile_eq_nil_iff.mpr hpoint,
    List.drop_nil, List.append_nil]
  rfl

/-- What digits on both sides of a point stand for. -/
lemma ofDigits_of_fraction {u : List Char} (hu : ∀ c ∈ u, isDigit c = true) (v : List Char) :
    ofDigits (u ++ '.' :: v) = ⟨Nat.ofDigitChars 10 (u ++ v) 0, v.length⟩ := by
  have hpoint : ∀ c ∈ u, (decide (c ≠ '.')) = true := fun c hc => isDigit_ne_dot (hu c hc)
  rw [ofDigits, takeWhile_append_cons hpoint (by decide),
    dropWhile_append_cons hpoint (by decide), List.drop_one, List.tail_cons]
  rfl

/-- **The text of a decimal stands for it.** -/
lemma ofDigits_text (d : Decimal) : ofDigits d.text.toList = d := by
  obtain ⟨digits, scale⟩ := d
  have hwhole : Nat.ofDigitChars 10 (Nat.toDigits 10 (digits / 10 ^ scale)) 0 =
      digits / 10 ^ scale := Nat.ofDigitChars_toDigits (by norm_num) (by norm_num)
  rw [toList_text]
  by_cases hscale : scale = 0
  · subst hscale
    rw [if_pos rfl, List.append_nil, ofDigits_of_digits fun c => isDigit_of_mem_toDigits,
      hwhole, Nat.pow_zero, Nat.div_one]
  · rw [if_neg hscale, ofDigits_of_fraction fun c => isDigit_of_mem_toDigits,
      Nat.ofDigitChars_append, hwhole, ofDigitChars_lowDigits, length_lowDigits, Nat.mod_mod,
      Nat.div_add_mod']

/-- The text of a decimal is a number of the language. -/
lemma matches_text (d : Decimal) : Matches .number d.text.toList := by
  rw [toList_text]
  split_ifs with hscale
  · rw [List.append_nil]
    exact .digits Nat.toDigits_ne_nil fun c => isDigit_of_mem_toDigits
  · refine .fraction Nat.toDigits_ne_nil (fun c => isDigit_of_mem_toDigits) ?_
      fun c => isDigit_of_mem_lowDigits
    rwa [← List.length_pos_iff, length_lowDigits, Nat.pos_iff_ne_zero]

end Decimal

/-! ### Numbers that a format holds -/

namespace FloatFormat

/-- The exponent of the power of two below a number, for a ratio that equals it. -/
lemma floorLog2_eq {num den m : ℕ} {q : ℤ} (hden : 0 < den) (hm : m ≠ 0)
    (h : (num : ℚ) = m * 2 ^ q * den) : floorLog2 num den = m.log2 + q := by
  have hmQ : (0 : ℚ) < m := by exact_mod_cast Nat.pos_of_ne_zero hm
  have hdenQ : (0 : ℚ) < den := by exact_mod_cast hden
  have hnum : 0 < num := by
    have hpos : (0 : ℚ) < num := by
      rw [h]
      positivity
    exact_mod_cast hpos
  obtain ⟨hlow, hhigh⟩ := floorLog2_spec hnum hden
  obtain ⟨hlow', hhigh'⟩ := le_mul_zpow_and_lt hm q
  rw [h, mul_comm (den : ℚ), mul_le_mul_iff_of_pos_right hdenQ] at hlow
  rw [h, mul_comm (den : ℚ), mul_lt_mul_iff_of_pos_right hdenQ] at hhigh
  have hle := (zpow_lt_zpow_iff_right₀ (one_lt_two : (1 : ℚ) < 2)).mp (hlow.trans_lt hhigh')
  have hge := (zpow_lt_zpow_iff_right₀ (one_lt_two : (1 : ℚ) < 2)).mp (hlow'.trans_lt hhigh)
  omega

/-- **Rounding leaves alone what the format holds**: the number nearest to a ratio that
equals one of the format's numbers is that number. -/
lemma nearest_of_magnitude? (f : FloatFormat) {num den m b : ℕ} {q : ℤ} (hden : 0 < den)
    (hm : m ≠ 0) (h : (num : ℚ) = m * 2 ^ q * den) (hb : f.magnitude? m q = some b) :
    f.nearest num den = b := by
  obtain ⟨s, hs, hbits, hlt⟩ := (f.magnitude?_eq_some_iff m b q).mp hb
  have hnum : num ≠ 0 := by
    rintro rfl
    have hmQ : (m : ℚ) ≠ 0 := by exact_mod_cast hm
    have hdenQ : (den : ℚ) ≠ 0 := by exact_mod_cast hden.ne'
    have hpow : (2 : ℚ) ^ q ≠ 0 := zpow_ne_zero q two_ne_zero
    exact mul_ne_zero (mul_ne_zero hmQ hpow) hdenQ (by rw [← h, Nat.cast_zero])
  have hunit : max f.least (floorLog2 num den - f.fraction) = f.unit m q := by
    rw [floorLog2_eq hden hm h, unit]
  have hscaled : (num : ℚ) = s * (den * 2 ^ f.unit m q) := by
    rw [h, ← hs]
    ring
  have hrounded : roundedAt (f.unit m q) num den = s :=
    le_antisymm (roundedAt_le hden hscaled.le) (le_roundedAt hden hscaled.ge)
  rw [nearest, if_neg hnum]
  dsimp only
  rw [hunit]
  change min f.infinity ((f.unit m q - f.least).toNat * 2 ^ f.fraction +
    roundedAt (f.unit m q) num den) = b
  rw [hrounded, ← hbits, min_eq_right hlt.le]

end FloatFormat

/-! ### The decimal that shows a double -/

namespace Decimal

/-- Zeros at the end of a fraction do not count. -/
lemma trimmed_spec (n scale : ℕ) :
    ((trimmed n scale).digits : ℚ) * 10 ^ scale = n * 10 ^ (trimmed n scale).scale := by
  induction scale generalizing n with
  | zero => simp [trimmed]
  | succ scale ih =>
      rw [trimmed]
      split_ifs with hzero
      · have hn : (n : ℚ) = 10 * (n / 10 : ℕ) := by
          exact_mod_cast (Nat.mul_div_cancel' (Nat.dvd_of_mod_eq_zero hzero)).symm
        rw [pow_succ, ← mul_assoc, ih, hn]
        ring
      · rfl

/-- The exact decimal equals the number. -/
lemma exact_spec (m : ℕ) (q : ℤ) :
    ((exact m q).digits : ℚ) = m * 2 ^ q * (10 ^ (exact m q).scale : ℕ) := by
  rw [exact]
  split_ifs with hq
  · have hpow : (2 : ℚ) ^ q = 2 ^ q.toNat := by
      rw [← zpow_natCast, Int.toNat_of_nonneg hq]
    rw [hpow]
    simp
  · set n := (-q).toNat with hn
    have hpow : (2 : ℚ) ^ q * 2 ^ n = 1 := by
      rw [← zpow_natCast, ← zpow_add₀ two_ne_zero]
      have hsum : q + (n : ℤ) = 0 := by omega
      rw [hsum, zpow_zero]
    have hten : (10 : ℚ) ^ n = 2 ^ n * 5 ^ n := by rw [← mul_pow]; norm_num
    set d := trimmed (m * 5 ^ n) n
    refine mul_right_cancel₀ (pow_ne_zero n (by norm_num : (10 : ℚ) ≠ 0)) ?_
    calc (d.digits : ℚ) * 10 ^ n = (m * 5 ^ n : ℕ) * 10 ^ d.scale := trimmed_spec _ n
      _ = m * (2 ^ q * 2 ^ n) * 5 ^ n * 10 ^ d.scale := by
        rw [hpow, mul_one]
        push_cast
        ring
      _ = m * 2 ^ q * (10 ^ d.scale : ℕ) * 10 ^ n := by
        rw [hten]
        push_cast
        ring

/-- The exact decimal reads back as the double. -/
lemma magnitude_exact {m b : ℕ} {q : ℤ} (hm : m ≠ 0)
    (hb : FloatFormat.double.magnitude? m q = some b) : (exact m q).magnitude = b :=
  FloatFormat.double.nearest_of_magnitude? (by positivity) hm (exact_spec m q) hb

/-- **What shows a double reads back as that double.** A shorter decimal is taken only if
it reads back, and the exact one does. -/
lemma magnitude_shortest {m b : ℕ} {q : ℤ} (hm : m ≠ 0)
    (hb : FloatFormat.double.magnitude? m q = some b) : (shortest b m q).magnitude = b := by
  rw [shortest, if_neg hm]
  dsimp only
  generalize hfound : List.findSome? _ (List.range 17) = found
  cases found with
  | none => exact magnitude_exact hm hb
  | some d =>
      obtain ⟨n, -, hd⟩ := List.exists_of_findSome?_eq_some hfound
      simpa using List.find?_some hd

end Decimal

/-! ### Finite doubles -/

namespace Number

open Float.Model (Format)
open Float.Model.UnpackedFloat

/-- Whether a double is a number, and no infinity. -/
def IsFinite (x : Float) : Prop :=
  ∃ negative m q, FloatFormat.double.decode x.toBits.toNat = .finite negative m q

/-- The pattern of a finite double is a sign and a magnitude, which is read off the
decimal that shows it. -/
lemma exists_magnitude {x : Float} {negative : Bool} {m : ℕ} {q : ℤ}
    (h : FloatFormat.double.decode x.toBits.toNat = .finite negative m q) :
    ∃ b < FloatFormat.double.infinity, x.toBits.toNat = (if negative then 2 ^ 63 else 0) + b ∧
      (Decimal.shortest b m q).magnitude = b := by
  have hencode := encode?_decode_toBits x
  have hsign : FloatFormat.encode?.sign FloatFormat.double negative =
      if negative then 2 ^ 63 else 0 := rfl
  rw [h, FloatFormat.encode?, hsign] at hencode
  by_cases hm : m = 0
  · rw [if_pos hm] at hencode
    refine ⟨0, by decide, (Option.some.inj hencode).symm, ?_⟩
    rw [Decimal.shortest, if_pos hm]
    rfl
  · rw [if_neg hm] at hencode
    obtain ⟨b, hb, hbits⟩ := Option.map_eq_some_iff.mp hencode
    obtain ⟨-, -, -, hlt⟩ := (FloatFormat.double.magnitude?_eq_some_iff m b q).mp hb
    exact ⟨b, hlt, hbits.symm, Decimal.magnitude_shortest hm hb⟩

/-- The text of a finite double is that of a decimal that reads back as its magnitude,
behind its sign. -/
lemma exists_text_eq {x : Float} (h : IsFinite x) :
    ∃ (negative : Bool) (d : Decimal), d.magnitude < FloatFormat.double.infinity ∧
      x.toBits.toNat = (if negative then 2 ^ 63 else 0) + d.magnitude ∧
      text x = (if negative then "-" else "") ++ d.text := by
  obtain ⟨negative, m, q, hdecode⟩ := h
  obtain ⟨b, hlt, hbits, hshortest⟩ := exists_magnitude hdecode
  have hmod : x.toBits.toNat % FloatFormat.double.signBit = b := by
    have hsignBit : FloatFormat.double.signBit = 2 ^ 63 := rfl
    have hinfinity : FloatFormat.double.infinity < 2 ^ 63 := by decide
    rw [hbits, hsignBit]
    split_ifs
    · rw [Nat.add_mod_left, Nat.mod_eq_of_lt (hlt.trans hinfinity)]
    · rw [Nat.zero_add, Nat.mod_eq_of_lt (hlt.trans hinfinity)]
  refine ⟨negative, Decimal.shortest b m q, hshortest.symm ▸ hlt, ?_, ?_⟩
  · rw [hshortest, hbits]
  · rw [text]
    simp only [hdecode, hmod]

/-- A literal in range has the pattern of its magnitude, without a sign. -/
lemma toBits_nearest {lexeme : String} (h : InRange lexeme) :
    (nearest lexeme).toBits.toNat = (Decimal.ofDigits lexeme.toList).magnitude ∧
      (Decimal.ofDigits lexeme.toList).magnitude < FloatFormat.double.infinity := by
  have hlt := (magnitude_lt_infinity_iff lexeme).mpr h
  have hinf : FloatFormat.double.infinity = 2047 * 2 ^ 52 := by decide
  set m := (Decimal.ofDigits lexeme.toList).magnitude with hm
  have hnat : (UInt64.ofNat m).toNat = m := by
    rw [UInt64.toNat_ofNat']
    omega
  refine ⟨?_, hlt⟩
  rw [nearest, ← hm, toBits_ofBits, hnat]
  rw [hnat, ne_eq, FloatFormat.decode_eq_nan_iff]
  rintro ⟨htop, -⟩
  change m / 2 ^ 52 % 2 ^ 11 = 2047 at htop
  omega

/-- A pattern with the sign bit set means the opposite of the pattern without. -/
lemma unpack_eq_neg {a b : Pattern} (h : a.toNat = 2 ^ 63 + b.toNat) :
    unpack Format.binary64 a = (unpack Format.binary64 b).neg := by
  have ha := toNat_lt a
  have hmantissa : unpackMantissa a = unpackMantissa b := by
    apply BitVec.eq_of_toNat_eq
    rw [toNat_unpackMantissa, toNat_unpackMantissa]
    omega
  have hexponent : unpackExponent a = unpackExponent b := by
    apply BitVec.eq_of_toNat_eq
    rw [toNat_unpackExponent, toNat_unpackExponent]
    omega
  have hone : unpackSign a = 1#1 := by
    apply BitVec.eq_of_toNat_eq
    rw [toNat_unpackSign, BitVec.toNat_ofNat]
    omega
  have hzero : unpackSign b = 0#1 := by
    apply BitVec.eq_of_toNat_eq
    rw [toNat_unpackSign, BitVec.toNat_ofNat]
    omega
  simp only [unpack, hmantissa, hexponent, hone, hzero]
  split_ifs <;> rfl

/-- The double with the sign bit set is the opposite of the one without. -/
lemma neg_eq {x y : Float} (h : x.toBits.toNat = 2 ^ 63 + y.toBits.toNat) : -y = x := by
  have hneg : (-y).toBits =
      UInt64.ofBitVec (pack Format.binary64 (unpack Format.binary64 y.toBits.toBitVec).neg) := rfl
  have hunpack := unpack_eq_neg (a := x.toBits.toBitVec) (b := y.toBits.toBitVec) h
  refine eq_of_toBits_eq ?_
  rw [hneg, ← hunpack, pack_unpack (valid_toBits x)]

/-- **The text of a finite double is a literal for it**, or a minus sign and a literal for
its opposite. -/
lemma text_cases {x : Float} (h : IsFinite x) :
    ∃ d : Decimal, InRange d.text ∧
      (text x = d.text ∧ nearest d.text = x ∨
        text x = "-" ++ d.text ∧ -nearest d.text = x) := by
  obtain ⟨negative, d, hlt, hbits, htext⟩ := exists_text_eq h
  have hrange : InRange d.text := by
    rw [← magnitude_lt_infinity_iff, Decimal.ofDigits_text]
    exact hlt
  have hnearest := (toBits_nearest hrange).1
  rw [Decimal.ofDigits_text] at hnearest
  refine ⟨d, hrange, ?_⟩
  rw [← hnearest] at hbits
  cases negative with
  | false =>
      refine .inl ⟨by rw [htext]; rfl, eq_of_toBits_eq (UInt64.toNat_inj.mp ?_)⟩
      rw [hbits]
      simp
  | true =>
      refine .inr ⟨by rw [htext]; rfl, neg_eq ?_⟩
      rw [hbits]
      simp

end Number

end ExprMachine

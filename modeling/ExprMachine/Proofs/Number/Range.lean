import ExprMachine.Number.Decimal
import Mathlib.Tactic

/-!
Which literals have a double.

A literal that lies halfway between the largest double and the next power of
two, or beyond, rounds to infinity and is refused; all others are read as the
double nearest to them.

* `FloatFormat.le_roundedQuotient`, `FloatFormat.roundedQuotient_le`,
  `FloatFormat.roundedQuotient_lt_iff`: a quotient is rounded to one of its
  neighbours, and a tie goes to the even one.
* `FloatFormat.floorLog2_spec`: the whole part of the binary logarithm.
* `FloatFormat.overflow`, `FloatFormat.nearest_lt_infinity_iff`: that midpoint
  is `2 ^ 1024 - 2 ^ 970`, and the ratios below it are those that round to a
  finite double.
* `Number.InRange`, `Number.ofLiteral?_of_inRange`: the literals that are read,
  and what they are read as.
-/

namespace ExprMachine

namespace FloatFormat

/-! ### Rounding a quotient -/

/-- A quotient that reaches an integer is not rounded below it. -/
lemma le_roundedQuotient {num den k : ℕ} (hden : 0 < den) (h : k * den ≤ num) :
    k ≤ roundedQuotient num den := by
  have hk : k ≤ num / den := (Nat.le_div_iff_mul_le hden).mpr h
  rw [roundedQuotient]
  split_ifs <;> omega

/-- A quotient that does not exceed an integer is not rounded above it. -/
lemma roundedQuotient_le {num den k : ℕ} (hden : 0 < den) (h : num ≤ k * den) :
    roundedQuotient num den ≤ k := by
  have hk : num / den ≤ k := by
    calc num / den ≤ k * den / den := Nat.div_le_div_right h
      _ = k := Nat.mul_div_cancel k hden
  have hdiv := Nat.div_add_mod num den
  rcases Nat.lt_or_eq_of_le hk with hlt | heq
  · rw [roundedQuotient]
    split_ifs <;> omega
  · -- the quotient is `k` itself, so nothing is left over
    have hmod : num % den = 0 := by
      rw [heq, Nat.mul_comm] at hdiv
      omega
    rw [roundedQuotient]
    rw [hmod, if_pos (by omega), heq]

/-- A quotient is rounded below an even integer exactly when it lies below the
middle of the gap before that integer. -/
lemma roundedQuotient_lt_iff {num den k : ℕ} (hden : 0 < den) (heven : k % 2 = 0) :
    roundedQuotient num den < k ↔ 2 * num + den < 2 * k * den := by
  have hdiv := Nat.div_add_mod num den
  have hmod := Nat.mod_lt num hden
  set q := num / den with hq
  set r := num % den with hr
  have hnum : 2 * num + den = (2 * q + 1) * den + 2 * r := by
    rw [← hdiv]
    ring
  rw [hnum]
  rcases lt_trichotomy (q + 1) k with hlt | heq | hgt
  · have hright : (2 * q + 1) * den + 2 * r < 2 * k * den := by
      have : (2 * q + 3) * den ≤ 2 * k * den := Nat.mul_le_mul_right den (by omega)
      nlinarith
    refine iff_of_true ?_ hright
    rw [roundedQuotient]
    rw [← hq, ← hr]
    split_ifs <;> omega
  · -- the integer is the upper neighbour, and the lower one is odd
    have hodd : q % 2 = 1 := by omega
    have hk : 2 * k * den = (2 * q + 1) * den + den := by
      rw [← heq]
      ring
    rw [hk]
    rw [roundedQuotient]
    rw [← hq, ← hr]
    split_ifs <;> omega
  · have hleft : ¬ roundedQuotient num den < k := by
      have hkq : k * den ≤ num := by
        calc k * den ≤ q * den := Nat.mul_le_mul_right den (by omega)
          _ ≤ num := Nat.div_mul_le_self num den
      have := le_roundedQuotient hden hkq
      omega
    have hright : ¬ (2 * q + 1) * den + 2 * r < 2 * k * den := by
      have : 2 * k * den ≤ 2 * q * den := Nat.mul_le_mul_right den (by omega)
      nlinarith
    exact iff_of_false hleft hright

/-! ### The binary logarithm of a ratio -/

/-- A ratio lies between two powers of two, and the logarithm is the exponent
of the lower one. -/
lemma floorLog2_spec {num den : ℕ} (hnum : 0 < num) (hden : 0 < den) :
    (den : ℚ) * 2 ^ floorLog2 num den ≤ num ∧
      (num : ℚ) < den * 2 ^ (floorLog2 num den + 1) := by
  have hnumQ : (0 : ℚ) < num := by exact_mod_cast hnum
  have hdenQ : (0 : ℚ) < den := by exact_mod_cast hden
  have hnlo : (2 : ℚ) ^ (num.log2 : ℤ) ≤ num := by
    exact_mod_cast Nat.log2_self_le hnum.ne'
  have hnhi : (num : ℚ) < 2 ^ ((num.log2 : ℤ) + 1) := by
    exact_mod_cast (Nat.lt_log2_self : num < 2 ^ (num.log2 + 1))
  have hdlo : (2 : ℚ) ^ (den.log2 : ℤ) ≤ den := by
    exact_mod_cast Nat.log2_self_le hden.ne'
  have hdhi : (den : ℚ) < 2 ^ ((den.log2 : ℤ) + 1) := by
    exact_mod_cast (Nat.lt_log2_self : den < 2 ^ (den.log2 + 1))
  set a : ℤ := (num.log2 : ℤ) with ha
  set b : ℤ := (den.log2 : ℤ) with hb
  -- the ratio of the two logarithms is off by one at most
  have hlow : (den : ℚ) * 2 ^ (a - b - 1) ≤ num := by
    calc (den : ℚ) * 2 ^ (a - b - 1) ≤ 2 ^ (b + 1) * 2 ^ (a - b - 1) := by gcongr
      _ = 2 ^ a := by rw [← zpow_add₀ (by norm_num)]; congr 1; ring
      _ ≤ num := hnlo
  have hhigh : (num : ℚ) < den * 2 ^ (a - b + 1) := by
    calc (num : ℚ) < 2 ^ (a + 1) := hnhi
      _ = 2 ^ b * 2 ^ (a - b + 1) := by rw [← zpow_add₀ (by norm_num)]; congr 1; ring
      _ ≤ den * 2 ^ (a - b + 1) := by gcongr
  have hreach : (if 0 ≤ a - b then den * 2 ^ (a - b).toNat ≤ num
      else den ≤ num * 2 ^ (-(a - b)).toNat) ↔ (den : ℚ) * 2 ^ (a - b) ≤ num := by
    split_ifs with h
    · rw [← Nat.cast_le (α := ℚ)]
      push_cast
      rw [← zpow_natCast, Int.toNat_of_nonneg h]
    · have hneg : a - b = -((-(a - b)).toNat : ℤ) := by omega
      rw [← Nat.cast_le (α := ℚ)]
      push_cast
      rw [← zpow_natCast]
      conv_rhs => rw [hneg, zpow_neg, ← div_eq_mul_inv, div_le_iff₀ (by positivity)]
  have hdef : floorLog2 num den = if (if 0 ≤ a - b then den * 2 ^ (a - b).toNat ≤ num
      else den ≤ num * 2 ^ (-(a - b)).toNat) then a - b else a - b - 1 := rfl
  by_cases hr : (den : ℚ) * 2 ^ (a - b) ≤ num
  · rw [hdef, if_pos (hreach.mpr hr)]
    exact ⟨hr, hhigh⟩
  · rw [hdef, if_neg (mt hreach.mp hr), sub_add_cancel]
    exact ⟨hlow, not_le.mp hr⟩

/-! ### The double nearest to a ratio -/

/-- The ratio `num / den` in units of `2 ^ unit`, rounded. -/
def roundedAt (unit : ℤ) (num den : ℕ) : ℕ :=
  if 0 ≤ unit then roundedQuotient num (den * 2 ^ unit.toNat)
  else roundedQuotient (num * 2 ^ (-unit).toNat) den

lemma le_roundedAt {unit : ℤ} {num den k : ℕ} (hden : 0 < den)
    (h : k * (den * 2 ^ unit) ≤ (num : ℚ)) : k ≤ roundedAt unit num den := by
  rw [roundedAt]
  split_ifs with hu
  · refine le_roundedQuotient (by positivity) ?_
    rw [← Int.toNat_of_nonneg hu, zpow_natCast] at h
    exact_mod_cast h
  · refine le_roundedQuotient hden ?_
    have hneg : unit = -((-unit).toNat : ℤ) := by omega
    rw [hneg, zpow_neg, zpow_natCast, ← div_eq_mul_inv, ← mul_div_assoc,
      div_le_iff₀ (by positivity)] at h
    exact_mod_cast h

lemma roundedAt_le {unit : ℤ} {num den k : ℕ} (hden : 0 < den)
    (h : (num : ℚ) ≤ k * (den * 2 ^ unit)) : roundedAt unit num den ≤ k := by
  rw [roundedAt]
  split_ifs with hu
  · refine roundedQuotient_le (by positivity) ?_
    rw [← Int.toNat_of_nonneg hu, zpow_natCast] at h
    exact_mod_cast h
  · refine roundedQuotient_le hden ?_
    have hneg : unit = -((-unit).toNat : ℤ) := by omega
    rw [hneg, zpow_neg, zpow_natCast, ← div_eq_mul_inv, ← mul_div_assoc,
      le_div_iff₀ (by positivity)] at h
    exact_mod_cast h

lemma roundedAt_natCast_lt_iff (num unit : ℕ) {den k : ℕ} (hden : 0 < den) (heven : k % 2 = 0) :
    roundedAt unit num den < k ↔ 2 * num + den * 2 ^ unit < 2 * k * (den * 2 ^ unit) := by
  rw [roundedAt, if_pos (Int.natCast_nonneg unit), Int.toNat_natCast]
  exact roundedQuotient_lt_iff (by positivity) heven

/-- The magnitude bits of the nearest double, with the unit that its binade
has. -/
lemma nearest_double {num den : ℕ} (hnum : 0 < num) :
    double.nearest num den =
      min (2047 * 2 ^ 52) ((max (-1074) (floorLog2 num den - 52) + 1074).toNat * 2 ^ 52
        + roundedAt (max (-1074) (floorLog2 num den - 52)) num den) := by
  rw [nearest, if_neg hnum.ne']
  rfl

/-- The middle between the largest double and the next power of two. -/
def overflow : ℕ := 2 ^ 1024 - 2 ^ 970

lemma overflow_eq : overflow = (2 ^ 54 - 1) * 2 ^ 970 := by
  rw [overflow, Nat.sub_mul, ← Nat.pow_add, Nat.one_mul]

lemma lt_overflow_mul_iff {num den : ℕ} :
    num < overflow * den ↔ (num : ℚ) < (2 ^ 54 - 1) * (den * 2 ^ (970 : ℤ)) := by
  have hcast : ((2 ^ 54 - 1 : ℕ) : ℚ) = 2 ^ 54 - 1 := by norm_num
  rw [overflow_eq, ← Nat.cast_lt (α := ℚ), mul_assoc, mul_comm (2 ^ 970) den,
    show (970 : ℤ) = ((970 : ℕ) : ℤ) from rfl, zpow_natCast, Nat.cast_mul, hcast, Nat.cast_mul,
    Nat.cast_pow, Nat.cast_ofNat]

/-- Below the last binade every ratio has a finite double nearest to it. -/
lemma nearest_lt_infinity_of_lt {num den : ℕ} (hnum : 0 < num) (hden : 0 < den)
    (h : floorLog2 num den < 1023) :
    double.nearest num den < 2047 * 2 ^ 52 ∧ num < overflow * den := by
  obtain ⟨-, hhigh⟩ := floorLog2_spec hnum hden
  rw [nearest_double hnum, lt_overflow_mul_iff]
  set e := floorLog2 num den with he
  constructor
  · have hs : roundedAt (max (-1074) (e - 52)) num den ≤ 2 ^ 53 := by
      refine roundedAt_le hden (hhigh.le.trans ?_)
      have hpow : (2 : ℚ) ^ (e + 1) ≤ 2 ^ (53 : ℤ) * 2 ^ max (-1074) (e - 52) := by
        rw [← zpow_add₀ (by norm_num)]
        exact zpow_le_zpow_right₀ (by norm_num) (by omega)
      calc (den : ℚ) * 2 ^ (e + 1) ≤ den * (2 ^ (53 : ℤ) * 2 ^ max (-1074) (e - 52)) := by gcongr
        _ = ((2 ^ 53 : ℕ) : ℚ) * (den * 2 ^ max (-1074) (e - 52)) := by norm_num; ring
    have hunit : (max (-1074) (e - 52) + 1074).toNat ≤ 2044 := by omega
    omega
  · have hpow : (2 : ℚ) ^ (e + 1) ≤ 2 ^ (53 : ℤ) * 2 ^ (970 : ℤ) := by
      rw [← zpow_add₀ (by norm_num)]
      exact zpow_le_zpow_right₀ (by norm_num) (by omega)
    calc (num : ℚ) < den * 2 ^ (e + 1) := hhigh
      _ ≤ den * (2 ^ (53 : ℤ) * 2 ^ (970 : ℤ)) := by gcongr
      _ = 2 ^ (53 : ℤ) * (den * 2 ^ (970 : ℤ)) := by ring
      _ ≤ (2 ^ 54 - 1) * (den * 2 ^ (970 : ℤ)) := by gcongr; norm_num

/-- Beyond the last binade no ratio has one. -/
lemma infinity_le_nearest_of_gt {num den : ℕ} (hnum : 0 < num) (hden : 0 < den)
    (h : 1023 < floorLog2 num den) :
    2047 * 2 ^ 52 ≤ double.nearest num den ∧ overflow * den ≤ num := by
  obtain ⟨hlow, -⟩ := floorLog2_spec hnum hden
  rw [nearest_double hnum, ← not_lt (a := num), lt_overflow_mul_iff, not_lt]
  set e := floorLog2 num den with he
  have hunit : max (-1074) (e - 52) = e - 52 := by omega
  rw [hunit]
  constructor
  · have hs : 2 ^ 52 ≤ roundedAt (e - 52) num den := by
      refine le_roundedAt hden (le_trans (le_of_eq ?_) hlow)
      have hsplit : (2 : ℚ) ^ e = 2 ^ (52 : ℤ) * 2 ^ (e - 52) := by
        rw [← zpow_add₀ (by norm_num)]
        congr 1
        ring
      rw [hsplit]
      norm_num
      ring
    omega
  · have hpow : (2 : ℚ) ^ (54 : ℤ) * 2 ^ (970 : ℤ) ≤ 2 ^ e := by
      rw [← zpow_add₀ (by norm_num)]
      exact zpow_le_zpow_right₀ (by norm_num) (by omega)
    calc ((2 : ℚ) ^ 54 - 1) * (den * 2 ^ (970 : ℤ))
        ≤ 2 ^ (54 : ℤ) * (den * 2 ^ (970 : ℤ)) := by gcongr; norm_num
      _ = den * (2 ^ (54 : ℤ) * 2 ^ (970 : ℤ)) := by ring
      _ ≤ den * 2 ^ e := by gcongr
      _ ≤ num := hlow

/-- In the last binade a double is finite unless the ratio is rounded up to the
end of it. -/
lemma nearest_lt_infinity_iff_of_eq {num den : ℕ} (hnum : 0 < num) (hden : 0 < den)
    (h : floorLog2 num den = 1023) :
    double.nearest num den < 2047 * 2 ^ 52 ↔ num < overflow * den := by
  have hmax : max (-1074) ((1023 : ℤ) - 52) = 971 := by norm_num
  have hs := roundedAt_natCast_lt_iff (k := 2 ^ 53) num 971 hden (by norm_num)
  have hnearest : double.nearest num den =
      min (2047 * 2 ^ 52) (2045 * 2 ^ 52 + roundedAt (971 : ℕ) num den) := by
    rw [nearest_double hnum, h, hmax]
    rfl
  have hmid : num < overflow * den ↔ num < (2 ^ 54 - 1) * (den * 2 ^ 970) := by
    rw [overflow_eq, mul_assoc, mul_comm (2 ^ 970) den]
  have hdouble : den * 2 ^ 971 = 2 * (den * 2 ^ 970) := by
    rw [pow_succ, ← mul_assoc, mul_comm]
  rw [hdouble] at hs
  rw [hnearest, hmid]
  generalize den * 2 ^ 970 = gap at hs ⊢
  omega

/-- A ratio rounds to a finite double exactly when it lies below `overflow`. -/
lemma nearest_lt_infinity_iff {num den : ℕ} (hden : 0 < den) :
    double.nearest num den < double.infinity ↔ num < overflow * den := by
  have hinf : double.infinity = 2047 * 2 ^ 52 := by decide
  rw [hinf]
  rcases Nat.eq_zero_or_pos num with rfl | hnum
  · have hpos : 0 < overflow := by
      rw [overflow_eq]
      positivity
    refine iff_of_true ?_ (Nat.mul_pos hpos hden)
    rw [nearest, if_pos rfl]
    norm_num
  rcases lt_trichotomy (floorLog2 num den) 1023 with hlt | heq | hgt
  · exact iff_of_true (nearest_lt_infinity_of_lt hnum hden hlt).1
      (nearest_lt_infinity_of_lt hnum hden hlt).2
  · exact nearest_lt_infinity_iff_of_eq hnum hden heq
  · exact iff_of_false (not_lt.mpr (infinity_le_nearest_of_gt hnum hden hgt).1)
      (not_lt.mpr (infinity_le_nearest_of_gt hnum hden hgt).2)

end FloatFormat

/-! ### Literals -/

namespace Number

/-- The double nearest to a literal, infinity if the literal lies beyond all
doubles. -/
def nearest (lexeme : String) : Float :=
  Float.ofBits (UInt64.ofNat (Decimal.ofDigits lexeme.toList).magnitude)

/-- Whether a literal is in the range of doubles: it does not round to
infinity. -/
def InRange (lexeme : String) : Prop :=
  (Decimal.ofDigits lexeme.toList).digits <
    FloatFormat.overflow * 10 ^ (Decimal.ofDigits lexeme.toList).scale

instance (lexeme : String) : Decidable (InRange lexeme) :=
  inferInstanceAs (Decidable (_ < _))

/-- The magnitude of a literal in range is that of a finite double. -/
lemma magnitude_lt_infinity_iff (lexeme : String) :
    (Decimal.ofDigits lexeme.toList).magnitude < FloatFormat.double.infinity ↔
      InRange lexeme :=
  FloatFormat.nearest_lt_infinity_iff (by positivity)

/-- A literal in range is read as the double nearest to it. -/
lemma ofLiteral?_of_inRange {lexeme : String} (h : InRange lexeme) :
    ofLiteral? lexeme = some (nearest lexeme) := by
  rw [ofLiteral?]
  exact if_pos ((magnitude_lt_infinity_iff lexeme).mpr h)

/-- A literal out of range is refused. -/
lemma ofLiteral?_of_not_inRange {lexeme : String} (h : ¬ InRange lexeme) :
    ofLiteral? lexeme = none := by
  rw [ofLiteral?]
  exact if_neg (mt (magnitude_lt_infinity_iff lexeme).mp h)

end Number

end ExprMachine

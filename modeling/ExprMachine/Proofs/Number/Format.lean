import ExprMachine.Number.Format
import Mathlib

/-!
Writing a number in a float format and reading it back.

A format writes a number exactly or not at all, so that what it has written is
read back as the same number, and every other format writes the two alike.

* `Datum.Same`: two meanings of one number, whatever its exponent.
* `FloatFormat.magnitude?_eq_some_iff`: which numbers a format holds.
* `FloatFormat.encode?_congr`: a format writes two meanings of one number alike.
* `FloatFormat.decode_same_of_encode?`: what a format writes, it reads back.
* `FloatFormat.encode?_decode`: what a format reads, it writes back.
-/

namespace ExprMachine

/-- Two meanings of one number: they agree but for the exponent that it is
given with. -/
inductive Datum.Same : Datum → Datum → Prop
  | nan : Same .nan .nan
  | infinite (negative : Bool) : Same (.infinite negative) (.infinite negative)
  | finite (negative : Bool) {m n : ℕ} {q r : ℤ} (h : (m : ℚ) * 2 ^ q = n * 2 ^ r) :
      Same (.finite negative m q) (.finite negative n r)

namespace FloatFormat

/-! ### Which numbers a format holds -/

/-- The unit of the last place of `m * 2 ^ q`. -/
def unit (f : FloatFormat) (m : ℕ) (q : ℤ) : ℤ :=
  max f.least (m.log2 + q - f.fraction)

/-- A natural number times a power of two is the integer `s`. -/
lemma scaled_eq_some_iff (m s : ℕ) (q u : ℤ) :
    (if u ≤ q then some (m * 2 ^ (q - u).toNat)
      else if m % 2 ^ (u - q).toNat = 0 then some (m / 2 ^ (u - q).toNat) else none) = some s ↔
      (s : ℚ) * 2 ^ u = m * 2 ^ q := by
  have hu : (2 : ℚ) ^ u ≠ 0 := zpow_ne_zero u two_ne_zero
  have hq : (2 : ℚ) ^ q ≠ 0 := zpow_ne_zero q two_ne_zero
  by_cases h : u ≤ q
  · have hpow : (2 : ℚ) ^ q = (2 ^ (q - u).toNat : ℕ) * 2 ^ u := by
      rw [Nat.cast_pow, Nat.cast_ofNat, ← zpow_natCast, ← zpow_add₀ two_ne_zero]
      congr 1
      omega
    rw [if_pos h, Option.some_inj, hpow, ← mul_assoc, mul_left_inj' hu, eq_comm]
    exact_mod_cast Iff.rfl
  · have hpow : (2 : ℚ) ^ u = (2 ^ (u - q).toNat : ℕ) * 2 ^ q := by
      rw [Nat.cast_pow, Nat.cast_ofNat, ← zpow_natCast, ← zpow_add₀ two_ne_zero]
      congr 1
      omega
    have hpos : 0 < 2 ^ (u - q).toNat := Nat.two_pow_pos _
    rw [if_neg h, hpow, ← mul_assoc, mul_left_inj' hq]
    have hcast : (s : ℚ) * (2 ^ (u - q).toNat : ℕ) = m ↔ s * 2 ^ (u - q).toNat = m := by
      exact_mod_cast Iff.rfl
    rw [hcast]
    generalize 2 ^ (u - q).toNat = p at hpos
    constructor
    · intro hs
      split_ifs at hs with hmod
      obtain rfl : m / p = s := by simpa using hs
      exact Nat.div_mul_cancel (Nat.dvd_of_mod_eq_zero hmod)
    · rintro rfl
      rw [if_pos (Nat.mul_mod_left s p), Nat.mul_div_cancel s hpos]

/-- A format holds a number that is a multiple of the unit of its last place and
lies below infinity. -/
lemma magnitude?_eq_some_iff (f : FloatFormat) (m b : ℕ) (q : ℤ) :
    f.magnitude? m q = some b ↔
      ∃ s : ℕ, (s : ℚ) * 2 ^ f.unit m q = m * 2 ^ q ∧
        b = (f.unit m q - f.least).toNat * 2 ^ f.fraction + s ∧ b < f.infinity := by
  rw [magnitude?, Option.bind_eq_some_iff]
  refine exists_congr fun s => ?_
  rw [← scaled_eq_some_iff]
  refine and_congr Iff.rfl ?_
  change (if (f.unit m q - f.least).toNat * 2 ^ f.fraction + s < f.infinity
    then some ((f.unit m q - f.least).toNat * 2 ^ f.fraction + s) else none) = some b ↔ _
  constructor
  · intro h
    split_ifs at h with hlt
    obtain rfl := Option.some_inj.mp h
    exact ⟨rfl, hlt⟩
  · rintro ⟨rfl, hlt⟩
    rw [if_pos hlt]

/-- A number lies between two powers of two, and the exponent of the lower one
does not depend on how the number is given. -/
lemma le_mul_zpow_and_lt {m : ℕ} (hm : m ≠ 0) (q : ℤ) :
    (2 : ℚ) ^ ((m.log2 : ℤ) + q) ≤ m * 2 ^ q ∧ (m : ℚ) * 2 ^ q < 2 ^ ((m.log2 : ℤ) + q + 1) := by
  have hlow : (2 : ℚ) ^ (m.log2 : ℤ) ≤ m := by exact_mod_cast Nat.log2_self_le hm
  have hhigh : (m : ℚ) < 2 ^ ((m.log2 : ℤ) + 1) := by
    exact_mod_cast (Nat.lt_log2_self : m < 2 ^ (m.log2 + 1))
  constructor
  · rw [zpow_add₀ two_ne_zero]
    gcongr
  · rw [add_right_comm, zpow_add₀ two_ne_zero]
    gcongr

lemma log2_add_le_of_eq {m n : ℕ} {q r : ℤ} (hm : m ≠ 0) (hn : n ≠ 0)
    (h : (m : ℚ) * 2 ^ q = n * 2 ^ r) : (m.log2 : ℤ) + q ≤ n.log2 + r := by
  have hlow := (le_mul_zpow_and_lt hm q).1
  have hhigh := (le_mul_zpow_and_lt hn r).2
  rw [h] at hlow
  have hlt := (zpow_lt_zpow_iff_right₀ (one_lt_two : (1 : ℚ) < 2)).mp (hlow.trans_lt hhigh)
  omega

/-- Whether a format holds a number, and as what, does not depend on how the
number is given. -/
lemma magnitude?_congr (f : FloatFormat) {m n : ℕ} {q r : ℤ} (hm : m ≠ 0) (hn : n ≠ 0)
    (h : (m : ℚ) * 2 ^ q = n * 2 ^ r) : f.magnitude? m q = f.magnitude? n r := by
  have hlog : (m.log2 : ℤ) + q = n.log2 + r :=
    le_antisymm (log2_add_le_of_eq hm hn h) (log2_add_le_of_eq hn hm h.symm)
  have hunit : f.unit m q = f.unit n r := by rw [unit, unit, hlog]
  refine Option.ext fun b => ?_
  rw [magnitude?_eq_some_iff, magnitude?_eq_some_iff, hunit, h]

/-! ### Reading the fields of a pattern -/

/-- The meaning of a pattern by its fields. -/
lemma decode_of_fields (f : FloatFormat) (negative : Bool) {exponent fraction : ℕ}
    (he : exponent < 2 ^ f.exponent) (hf : fraction < 2 ^ f.fraction) :
    f.decode (encode?.sign f negative + (exponent * 2 ^ f.fraction + fraction)) =
      if exponent = f.top then
        if fraction = 0 then .infinite negative else .nan
      else if exponent = 0 then .finite negative fraction f.least
      else .finite negative (2 ^ f.fraction + fraction) (f.least + exponent - 1) := by
  have hsign : f.signBit = 2 ^ f.exponent * 2 ^ f.fraction := by
    rw [signBit, pow_add, mul_comm]
  set sign : ℕ := if negative then 1 else 0 with hs
  have hbits : encode?.sign f negative + (exponent * 2 ^ f.fraction + fraction) =
      (sign * 2 ^ f.exponent + exponent) * 2 ^ f.fraction + fraction := by
    have : encode?.sign f negative = sign * f.signBit := by cases negative <;> simp [encode?.sign, hs]
    rw [this, hsign]
    ring
  have hF : 0 < 2 ^ f.fraction := Nat.two_pow_pos _
  have hE : 0 < 2 ^ f.exponent := Nat.two_pow_pos _
  have hdiv : ((sign * 2 ^ f.exponent + exponent) * 2 ^ f.fraction + fraction) / 2 ^ f.fraction =
      sign * 2 ^ f.exponent + exponent := by
    rw [add_comm, Nat.add_mul_div_right _ _ hF, Nat.div_eq_of_lt hf, zero_add]
  have hfraction :
      ((sign * 2 ^ f.exponent + exponent) * 2 ^ f.fraction + fraction) % 2 ^ f.fraction =
        fraction := by
    rw [add_comm, Nat.add_mul_mod_self_right, Nat.mod_eq_of_lt hf]
  have hexponent : (sign * 2 ^ f.exponent + exponent) % 2 ^ f.exponent = exponent := by
    rw [add_comm, Nat.add_mul_mod_self_right, Nat.mod_eq_of_lt he]
  have hnegative : ((sign * 2 ^ f.exponent + exponent) * 2 ^ f.fraction + fraction) / f.signBit =
      sign := by
    rw [hsign, mul_comm (2 ^ f.exponent), ← Nat.div_div_eq_div_mul, hdiv, add_comm,
      Nat.add_mul_div_right _ _ hE, Nat.div_eq_of_lt he, zero_add]
  have hbool : decide (sign % 2 = 1) = negative := by cases negative <;> simp [hs]
  rw [hbits]
  simp only [decode, hdiv, hfraction, hexponent, hnegative, hbool]

/-- The patterns that are no number: an exponent field of ones and a fraction. -/
lemma decode_eq_nan_iff (f : FloatFormat) (bits : ℕ) :
    f.decode bits = .nan ↔
      bits / 2 ^ f.fraction % 2 ^ f.exponent = f.top ∧ bits % 2 ^ f.fraction ≠ 0 := by
  rw [decode]
  by_cases htop : bits / 2 ^ f.fraction % 2 ^ f.exponent = f.top
  · by_cases hzero : bits % 2 ^ f.fraction = 0 <;> simp [htop, hzero]
  · simp only [htop, if_false, false_and, iff_false]
    split_ifs <;> simp

/-- Every pattern has fields. -/
lemma exists_fields (f : FloatFormat) {bits : ℕ} (h : bits < 2 * f.signBit) :
    ∃ (negative : Bool) (exponent fraction : ℕ), exponent < 2 ^ f.exponent ∧
      fraction < 2 ^ f.fraction ∧
      bits = encode?.sign f negative + (exponent * 2 ^ f.fraction + fraction) := by
  have hF : 0 < 2 ^ f.fraction := Nat.two_pow_pos _
  -- below the sign bit a pattern is its exponent field and its fraction field
  have hmagnitude : ∀ b, b < f.signBit → b / 2 ^ f.fraction < 2 ^ f.exponent := by
    intro b hb
    rw [Nat.div_lt_iff_lt_mul hF, ← pow_add, add_comm]
    exact hb
  by_cases hs : bits < f.signBit
  · refine ⟨false, bits / 2 ^ f.fraction, bits % 2 ^ f.fraction, hmagnitude bits hs,
      Nat.mod_lt _ hF, ?_⟩
    simp [encode?.sign, Nat.div_add_mod']
  · refine ⟨true, (bits - f.signBit) / 2 ^ f.fraction, (bits - f.signBit) % 2 ^ f.fraction,
      hmagnitude _ (by omega), Nat.mod_lt _ hF, ?_⟩
    rw [Nat.div_add_mod']
    simp only [encode?.sign, if_true]
    omega

/-! ### Writing and reading back -/

/-- A number in units of its last place fits the fraction field with the bit
before it, and has that bit unless the unit is the least there is. -/
lemma unit_bounds (f : FloatFormat) {m s : ℕ} {q : ℤ} (hm : m ≠ 0)
    (hs : (s : ℚ) * 2 ^ f.unit m q = m * 2 ^ q) :
    s < 2 ^ (f.fraction + 1) ∧ (s < 2 ^ f.fraction → f.unit m q = f.least) := by
  obtain ⟨hlow, hhigh⟩ := le_mul_zpow_and_lt hm q
  have hpos : (0 : ℚ) < 2 ^ f.unit m q := zpow_pos two_pos _
  rw [← hs] at hlow hhigh
  constructor
  · have hle : (2 : ℚ) ^ ((m.log2 : ℤ) + q + 1) ≤ (2 ^ (f.fraction + 1) : ℕ) * 2 ^ f.unit m q := by
      rw [Nat.cast_pow, Nat.cast_ofNat, ← zpow_natCast, ← zpow_add₀ two_ne_zero]
      refine zpow_le_zpow_right₀ one_le_two ?_
      rw [unit]
      omega
    exact_mod_cast lt_of_mul_lt_mul_right (hhigh.trans_le hle) hpos.le
  · intro hlt
    by_contra hne
    have hunit : f.unit m q = (m.log2 : ℤ) + q - f.fraction := by
      rw [unit] at hne ⊢
      omega
    have heq : (2 : ℚ) ^ ((m.log2 : ℤ) + q) = (2 ^ f.fraction : ℕ) * 2 ^ f.unit m q := by
      rw [Nat.cast_pow, Nat.cast_ofNat, ← zpow_natCast, ← zpow_add₀ two_ne_zero, hunit]
      congr 1
      ring
    rw [heq] at hlow
    have hge : 2 ^ f.fraction ≤ s := by exact_mod_cast le_of_mul_le_mul_right hlow hpos
    omega

/-- The exponent field of a finite number lies below that of infinity. -/
lemma lt_top_of_lt_infinity (f : FloatFormat) {exponent fraction : ℕ}
    (h : exponent * 2 ^ f.fraction + fraction < f.infinity) :
    exponent < f.top ∧ exponent < 2 ^ f.exponent := by
  have hlt : exponent < f.top := by
    rw [infinity] at h
    have : exponent * 2 ^ f.fraction < f.top * 2 ^ f.fraction := by omega
    exact Nat.lt_of_mul_lt_mul_right this
  have htop : f.top < 2 ^ f.exponent := Nat.sub_lt (Nat.two_pow_pos _) one_pos
  exact ⟨hlt, by omega⟩

/-- A pattern below that of infinity is a finite number without a sign. -/
lemma exists_decode_of_lt_infinity (f : FloatFormat) {bits : ℕ} (h : bits < f.infinity) :
    ∃ m q, f.decode bits = .finite false m q := by
  have hfields : bits = encode?.sign f false +
      (bits / 2 ^ f.fraction * 2 ^ f.fraction + bits % 2 ^ f.fraction) := by
    simp [encode?.sign, Nat.div_add_mod']
  have hbelow : bits / 2 ^ f.fraction * 2 ^ f.fraction + bits % 2 ^ f.fraction < f.infinity := by
    rwa [Nat.div_add_mod']
  obtain ⟨htop, hexponent⟩ := f.lt_top_of_lt_infinity hbelow
  rw [hfields, f.decode_of_fields false hexponent (Nat.mod_lt _ (Nat.two_pow_pos _)),
    if_neg htop.ne]
  split_ifs
  · exact ⟨_, _, rfl⟩
  · exact ⟨_, _, rfl⟩

/-- A positive number that a format holds is read back in units of its last
place. -/
lemma decode_of_magnitude? (f : FloatFormat) (negative : Bool) {m b : ℕ} {q : ℤ} (hm : m ≠ 0)
    (h : f.magnitude? m q = some b) :
    ∃ s : ℕ, (s : ℚ) * 2 ^ f.unit m q = m * 2 ^ q ∧
      f.decode (encode?.sign f negative + b) = .finite negative s (f.unit m q) := by
  obtain ⟨s, hs, hb, hinf⟩ := (f.magnitude?_eq_some_iff m b q).mp h
  obtain ⟨hhigh, hleast⟩ := f.unit_bounds hm hs
  refine ⟨s, hs, ?_⟩
  by_cases hlow : s < 2 ^ f.fraction
  · -- no leading bit: the exponent field is zero
    have hbits : b = 0 * 2 ^ f.fraction + s := by
      rw [hb, hleast hlow]
      simp
    rw [hbits] at hinf ⊢
    obtain ⟨htop, hE⟩ := f.lt_top_of_lt_infinity hinf
    rw [f.decode_of_fields negative hE hlow, if_neg htop.ne, if_pos rfl, hleast hlow]
  · -- the leading bit is carried into the exponent field
    have hbits : b = ((f.unit m q - f.least).toNat + 1) * 2 ^ f.fraction + (s - 2 ^ f.fraction) := by
      rw [hb, add_mul, one_mul]
      omega
    have hunit : f.least ≤ f.unit m q := le_max_left _ _
    rw [hbits] at hinf ⊢
    obtain ⟨htop, hE⟩ := f.lt_top_of_lt_infinity hinf
    rw [f.decode_of_fields negative hE (by rw [pow_succ] at hhigh; omega), if_neg htop.ne,
      if_neg (Nat.succ_ne_zero _)]
    congr 1
    · omega
    · push_cast
      omega

/-- **Writing loses nothing**: what a format has written means the number that
was to be written. -/
lemma decode_same_of_encode? (f : FloatFormat) (hfraction : 0 < f.fraction)
    (hexponent : 0 < f.exponent) {d : Datum} {b : ℕ} (h : f.encode? d = some b) :
    Datum.Same (f.decode b) d := by
  have hF : 0 < 2 ^ f.fraction := Nat.two_pow_pos _
  have htop : f.top < 2 ^ f.exponent := Nat.sub_lt (Nat.two_pow_pos _) one_pos
  have htop0 : 0 ≠ f.top := by
    have : 2 ^ 1 ≤ 2 ^ f.exponent := Nat.pow_le_pow_right two_pos hexponent
    rw [top]
    omega
  cases d with
  | nan =>
      obtain rfl : f.infinity + 2 ^ (f.fraction - 1) = b := Option.some_inj.mp h
      have hfield := f.decode_of_fields false htop
        (Nat.pow_lt_pow_right one_lt_two (Nat.sub_lt hfraction one_pos))
      rw [if_pos rfl, if_neg (Nat.two_pow_pos _).ne'] at hfield
      simp only [encode?.sign, Bool.false_eq_true, if_false, zero_add] at hfield
      rw [infinity, hfield]
      exact .nan
  | infinite negative =>
      obtain rfl : encode?.sign f negative + f.infinity = b := Option.some_inj.mp h
      have hfield := f.decode_of_fields negative htop hF
      rw [if_pos rfl, if_pos rfl, add_zero] at hfield
      rw [infinity, hfield]
      exact .infinite negative
  | finite negative m q =>
      by_cases hm : m = 0
      · simp only [encode?, if_pos hm] at h
        obtain rfl : encode?.sign f negative = b := Option.some_inj.mp h
        have hfield := f.decode_of_fields negative (Nat.two_pow_pos _) hF
        rw [if_neg htop0, if_pos rfl, zero_mul, add_zero, add_zero] at hfield
        rw [hfield, hm]
        exact .finite negative (by simp)
      · simp only [encode?, if_neg hm] at h
        obtain ⟨b, hb, rfl⟩ := Option.map_eq_some_iff.mp h
        obtain ⟨s, hs, hdecode⟩ := f.decode_of_magnitude? negative hm hb
        rw [hdecode]
        exact .finite negative hs

/-- A format writes two meanings of one number alike. -/
lemma encode?_congr (f : FloatFormat) {d d' : Datum} (h : Datum.Same d d') :
    f.encode? d = f.encode? d' := by
  cases h with
  | nan => rfl
  | infinite negative => rfl
  | @finite negative m n q r h =>
      have hq : (2 : ℚ) ^ q ≠ 0 := zpow_ne_zero q two_ne_zero
      have hr : (2 : ℚ) ^ r ≠ 0 := zpow_ne_zero r two_ne_zero
      have hzero : m = 0 ↔ n = 0 := by
        constructor
        · rintro rfl
          simpa [hr] using h.symm
        · rintro rfl
          simpa [hq] using h
      by_cases hm : m = 0
      · simp only [encode?, if_pos hm, if_pos (hzero.mp hm)]
      · simp only [encode?, if_neg hm, if_neg (mt hzero.mpr hm),
          f.magnitude?_congr hm (mt hzero.mpr hm) h]

/-- A number in units of its last place has the magnitude that its fields say. -/
lemma magnitude?_of_unit (f : FloatFormat) {s k : ℕ} (hunit : f.unit s (f.least + k) = f.least + k)
    (hinf : k * 2 ^ f.fraction + s < f.infinity) :
    f.magnitude? s (f.least + k) = some (k * 2 ^ f.fraction + s) := by
  rw [magnitude?_eq_some_iff, hunit]
  refine ⟨s, rfl, ?_, hinf⟩
  congr 2
  omega

/-- A number without a leading bit is its own magnitude. -/
lemma magnitude?_of_fraction (f : FloatFormat) {fraction : ℕ} (hpos : fraction ≠ 0)
    (hF : fraction < 2 ^ f.fraction) (hinf : fraction < f.infinity) :
    f.magnitude? fraction f.least = some fraction := by
  have hlog : fraction.log2 < f.fraction := (Nat.log2_lt hpos).mpr hF
  have hunit : f.unit fraction (f.least + (0 : ℕ)) = f.least + (0 : ℕ) := by
    rw [unit]
    omega
  have hmagnitude := f.magnitude?_of_unit hunit (by simpa using hinf)
  simpa using hmagnitude

/-- The leading bit of a number is carried into the exponent field of its
magnitude. -/
lemma magnitude?_of_leading (f : FloatFormat) {exponent fraction : ℕ} (hexponent : exponent ≠ 0)
    (hF : fraction < 2 ^ f.fraction) (hinf : exponent * 2 ^ f.fraction + fraction < f.infinity) :
    f.magnitude? (2 ^ f.fraction + fraction) (f.least + exponent - 1) =
      some (exponent * 2 ^ f.fraction + fraction) := by
  obtain ⟨k, rfl⟩ := Nat.exists_eq_succ_of_ne_zero hexponent
  have hs : 2 ^ f.fraction + fraction ≠ 0 := by positivity
  have hlog : (2 ^ f.fraction + fraction).log2 = f.fraction := by
    have hlow : f.fraction ≤ (2 ^ f.fraction + fraction).log2 :=
      (Nat.le_log2 hs).mpr (Nat.le_add_right _ _)
    have hhigh : (2 ^ f.fraction + fraction).log2 < f.fraction + 1 := by
      rw [Nat.log2_lt hs, pow_succ]
      omega
    omega
  have hbits : k.succ * 2 ^ f.fraction + fraction =
      k * 2 ^ f.fraction + (2 ^ f.fraction + fraction) := by
    rw [Nat.succ_mul, add_assoc]
  have hq : f.least + (k.succ : ℤ) - 1 = f.least + (k : ℤ) := by omega
  rw [hbits] at hinf ⊢
  rw [hq]
  refine f.magnitude?_of_unit ?_ hinf
  rw [unit, hlog]
  omega

/-- **Reading loses nothing**: what a format has read as a number, it writes
back. -/
lemma encode?_decode (f : FloatFormat) {bits : ℕ} (h : bits < 2 * f.signBit)
    (hnan : f.decode bits ≠ .nan) : f.encode? (f.decode bits) = some bits := by
  obtain ⟨negative, exponent, fraction, hE, hF, rfl⟩ := f.exists_fields h
  rw [f.decode_of_fields negative hE hF] at hnan ⊢
  by_cases htop : exponent = f.top
  · rw [if_pos htop] at hnan ⊢
    by_cases hzero : fraction = 0
    · rw [if_pos hzero, hzero, htop, add_zero]
      rfl
    · exact absurd (if_neg hzero) hnan
  rw [if_neg htop]
  have hinf : exponent * 2 ^ f.fraction + fraction < f.infinity := by
    have hlt : exponent < f.top := by
      rw [top] at htop ⊢
      omega
    have hle : (exponent + 1) * 2 ^ f.fraction ≤ f.top * 2 ^ f.fraction :=
      Nat.mul_le_mul_right _ hlt
    rw [infinity]
    rw [add_mul] at hle
    omega
  by_cases hzero : exponent = 0
  · rw [if_pos hzero]
    rw [hzero, zero_mul, zero_add] at hinf ⊢
    by_cases hfraction : fraction = 0
    · simp [encode?, hfraction]
    · simp only [encode?, if_neg hfraction, f.magnitude?_of_fraction hfraction hF hinf,
        Option.map_some]
  · rw [if_neg hzero]
    have hs : 2 ^ f.fraction + fraction ≠ 0 := by positivity
    simp only [encode?, if_neg hs, f.magnitude?_of_leading hzero hF hinf, Option.map_some]

/-- A pattern that a format writes has no bit above the sign. -/
lemma encode?_lt (f : FloatFormat) (hfraction : 0 < f.fraction) {d : Datum} {b : ℕ}
    (h : f.encode? d = some b) : b < 2 * f.signBit := by
  have hsign : ∀ negative, encode?.sign f negative ≤ f.signBit := by
    intro negative
    cases negative <;> simp [encode?.sign]
  have hinf : f.infinity + 2 ^ f.fraction = f.signBit := by
    have hE : 0 < 2 ^ f.exponent := Nat.two_pow_pos _
    rw [infinity, top, signBit, pow_add, mul_comm (2 ^ f.fraction), ← Nat.succ_mul]
    congr 1
    omega
  have hF : 2 ^ (f.fraction - 1) < 2 ^ f.fraction :=
    Nat.pow_lt_pow_right one_lt_two (Nat.sub_lt hfraction one_pos)
  have hF0 : 0 < 2 ^ (f.fraction - 1) := Nat.two_pow_pos _
  cases d with
  | nan =>
      obtain rfl : f.infinity + 2 ^ (f.fraction - 1) = b := Option.some_inj.mp h
      omega
  | infinite negative =>
      obtain rfl : encode?.sign f negative + f.infinity = b := Option.some_inj.mp h
      have := hsign negative
      omega
  | finite negative m q =>
      have := hsign negative
      by_cases hm : m = 0
      · simp only [encode?, if_pos hm] at h
        obtain rfl : encode?.sign f negative = b := Option.some_inj.mp h
        omega
      · simp only [encode?, if_neg hm] at h
        obtain ⟨b, hb, rfl⟩ := Option.map_eq_some_iff.mp h
        obtain ⟨-, -, -, hlt⟩ := (f.magnitude?_eq_some_iff m b q).mp hb
        omega

end FloatFormat

end ExprMachine

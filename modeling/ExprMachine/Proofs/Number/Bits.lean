import ExprMachine.Proofs.Number.Format

/-!
Numbers as patterns of 64 bits.

A number is what its pattern means in the format `FloatFormat.double`, and there
is one pattern for what is no number.

* `Number.pack_unpack`: a pattern taken apart and put together again.
* `Number.ofBits_toBits`, `Number.toBits_ofBits`: from numbers to patterns and
  back.
* `Number.encode?_decode_toBits`: the format writes back the pattern of every
  number.
* `Number.beq_zero_iff`: two numbers equal zero, and they differ in sign.
-/

namespace ExprMachine.Number

open Float.Model (Format)
open Float.Model.UnpackedFloat

/-! ### The fields of a pattern -/

/-- A pattern of 64 bits. -/
abbrev Pattern := BitVec Format.binary64.numBits

/-- A pattern has no more than 64 bits. -/
lemma toNat_lt (b : Pattern) : b.toNat < 2 ^ 64 := b.isLt

lemma toNat_unpackMantissa (b : Pattern) : (unpackMantissa b).toNat = b.toNat % 2 ^ 52 := by
  simp [unpackMantissa, BitVec.extractLsb]

lemma toNat_unpackExponent (b : Pattern) :
    (unpackExponent b).toNat = b.toNat / 2 ^ 52 % 2 ^ 11 := by
  simp [unpackExponent, BitVec.extractLsb, Nat.shiftRight_eq_div_pow]

lemma toNat_unpackSign (b : Pattern) : (unpackSign b).toNat = b.toNat / 2 ^ 63 := by
  have h := toNat_lt b
  simp [unpackSign, BitVec.extractLsb, Nat.shiftRight_eq_div_pow]
  omega

lemma toNat_packComponents (sign : Sign) (exponent : BitVec 11) (mantissa : BitVec 52) :
    (packComponents Format.binary64 sign exponent mantissa).toNat =
      sign.toBitVec.toNat * 2 ^ 63 + exponent.toNat * 2 ^ 52 + mantissa.toNat := by
  have hm : mantissa.toNat < 2 ^ 52 := mantissa.isLt
  have he : exponent.toNat < 2 ^ 11 := exponent.isLt
  rw [packComponents, BitVec.toNat_append, BitVec.toNat_append, ← Nat.shiftLeft_add_eq_or_of_lt hm,
    ← Nat.shiftLeft_add_eq_or_of_lt he]
  simp only [Nat.shiftLeft_eq]
  ring

lemma packComponents_unpack (b : Pattern) :
    packComponents Format.binary64 (Sign.ofBitVec (unpackSign b)) (unpackExponent b)
      (unpackMantissa b) = b := by
  have hs : (Sign.ofBitVec (unpackSign b)).toBitVec = unpackSign b := by
    generalize unpackSign b = s
    revert s
    decide
  apply BitVec.eq_of_toNat_eq
  rw [toNat_packComponents, hs, toNat_unpackMantissa, toNat_unpackExponent, toNat_unpackSign]
  have h := toNat_lt b
  omega

/-- A pattern is made up of its fields. -/
lemma packComponents_of_fields {b : Pattern} {exponent : BitVec 11} {mantissa : BitVec 52}
    (he : (unpackExponent b).toNat = exponent.toNat)
    (hm : (unpackMantissa b).toNat = mantissa.toNat) :
    packComponents Format.binary64 (Sign.ofBitVec (unpackSign b)) exponent mantissa = b := by
  rw [← BitVec.eq_of_toNat_eq he, ← BitVec.eq_of_toNat_eq hm]
  exact packComponents_unpack b

/-! ### Putting a pattern together -/

/-- A number without a leading bit has the exponent field zero. -/
lemma pack_subnormal (sign : Sign) {m : Nat} (h0 : 0 < m) (hm : m < 2 ^ 52) :
    pack Format.binary64 (.finite sign m (-1074) h0) =
      packComponents Format.binary64 sign 0#11 (BitVec.ofNat 52 m) := by
  have hlog : m.log2 < 52 := (Nat.log2_lt h0.ne').2 hm
  have hbits : Format.binary64.mantissaBits = 53 := rfl
  rw [pack, if_neg (by decide), if_neg (by omega)]

/-- A number with a leading bit has its exponent in the exponent field and the
other bits in the fraction field. -/
lemma pack_normal (sign : Sign) {m e : Nat} (h0 : 0 < m) (hm : 2 ^ 52 ≤ m) (hm' : m < 2 ^ 53)
    (he : e < 2047) :
    pack Format.binary64 (.finite sign m (e - 1075) h0) =
      packComponents Format.binary64 sign (BitVec.ofNat 11 e) (BitVec.ofNat 52 m) := by
  have hlog : m.log2 = 52 := by
    have h1 : m.log2 < 53 := (Nat.log2_lt h0.ne').2 hm'
    have h2 : 52 ≤ m.log2 := (Nat.le_log2 h0.ne').2 hm
    omega
  have hbits : Format.binary64.mantissaBits = 53 := rfl
  have hbias : (e - 1075 + (Format.binary64.exponentBias : Int) + (52 : Nat)).toNat = e := by
    have : (Format.binary64.exponentBias : Int) = 1023 := rfl
    omega
  rw [pack]
  simp only [hbias]
  rw [if_neg (by omega), if_pos (by omega)]

/-- A pattern taken apart and put together again is the same. -/
lemma pack_unpack {b : Pattern} (h : Format.binary64.Valid b) :
    pack Format.binary64 (unpack Format.binary64 b) = b := by
  have hm : (unpackMantissa b).toNat < 2 ^ 52 := (unpackMantissa b).isLt
  have he : (unpackExponent b).toNat < 2 ^ 11 := (unpackExponent b).isLt
  by_cases h1 : unpackExponent b = -1#_
  · by_cases h2 : unpackMantissa b = 0#_
    · rw [unpack, if_pos h1, if_pos h2]
      exact packComponents_of_fields (congrArg _ h1) (congrArg _ h2)
    · rw [unpack, if_pos h1, if_neg h2]
      exact (h.eq_packedNaN h1 h2).symm
  by_cases h3 : unpackExponent b = 0#_
  · by_cases h2 : unpackMantissa b = 0#_
    · rw [unpack, if_neg h1, if_pos h3, dif_pos h2]
      exact packComponents_of_fields (congrArg _ h3) (congrArg _ h2)
    · have h0 : 0 < (unpackMantissa b).toNat :=
        Nat.pos_of_ne_zero fun e => h2 (BitVec.eq_of_toNat_eq e)
      rw [unpack, if_neg h1, if_pos h3, dif_neg h2]
      simp only [h3]
      refine (pack_subnormal _ h0 hm).trans (packComponents_of_fields (congrArg _ h3) ?_)
      exact (Nat.mod_eq_of_lt hm).symm
  · have h1' : (unpackExponent b).toNat ≠ 2047 := fun e => h1 (BitVec.eq_of_toNat_eq e)
    have hone : (1#1 ++ unpackMantissa b).toNat = 2 ^ 52 + (unpackMantissa b).toNat := by
      rw [BitVec.toNat_append, ← Nat.shiftLeft_add_eq_or_of_lt hm]
      rfl
    rw [unpack, if_neg h1, if_neg h3]
    simp only [hone]
    refine (pack_normal _ (by omega) (by omega) (by omega) (by omega)).trans
      (packComponents_of_fields ?_ ?_)
    · exact (Nat.mod_eq_of_lt he).symm
    · rw [BitVec.toNat_ofNat]
      omega

/-! ### Numbers and their patterns -/

/-- The pattern of a number is a valid one. -/
lemma valid_toBits (x : Float) : Format.binary64.Valid x.toBits.toBitVec := x.toModel.valid

lemma eq_of_toBits_eq {x y : Float} (h : x.toBits = y.toBits) : x = y := by
  obtain ⟨⟨a, ha⟩⟩ := x
  obtain ⟨⟨b, hb⟩⟩ := y
  obtain rfl : a = b := h
  rfl

lemma toBits_ofBits_of_valid {b : UInt64} (h : Format.binary64.Valid b.toBitVec) :
    (Float.ofBits b).toBits = b := by
  change UInt64.ofBitVec (pack Format.binary64 (unpack Format.binary64 b.toBitVec)) = b
  rw [pack_unpack h]

/-- A number is the one that its pattern means. -/
lemma ofBits_toBits (x : Float) : Float.ofBits x.toBits = x :=
  eq_of_toBits_eq (toBits_ofBits_of_valid (valid_toBits x))

/-- The patterns that mean no number, by their fields. -/
lemma decode_toNat_eq_nan_iff (b : Pattern) :
    FloatFormat.double.decode b.toNat = .nan ↔
      unpackExponent b = -1#_ ∧ unpackMantissa b ≠ 0#_ := by
  rw [FloatFormat.decode_eq_nan_iff]
  change b.toNat / 2 ^ 52 % 2 ^ 11 = 2047 ∧ b.toNat % 2 ^ 52 ≠ 0 ↔ _
  rw [← toNat_unpackExponent, ← toNat_unpackMantissa]
  refine and_congr ?_ (not_congr ?_)
  · exact ⟨fun h => BitVec.eq_of_toNat_eq h, fun h => congrArg BitVec.toNat h⟩
  · exact ⟨fun h => BitVec.eq_of_toNat_eq h, fun h => congrArg BitVec.toNat h⟩

/-- A pattern that means a number is the pattern of that number. -/
lemma toBits_ofBits {b : UInt64} (h : FloatFormat.double.decode b.toNat ≠ .nan) :
    (Float.ofBits b).toBits = b := by
  refine toBits_ofBits_of_valid ⟨fun he hm => absurd ?_ h⟩
  exact (decode_toNat_eq_nan_iff b.toBitVec).mpr ⟨he, hm⟩

/-- The format writes back the pattern of every number, and of what is no
number. -/
lemma encode?_decode_toBits (x : Float) :
    FloatFormat.double.encode? (FloatFormat.double.decode x.toBits.toNat) =
      some x.toBits.toNat := by
  by_cases hnan : FloatFormat.double.decode x.toBits.toNat = .nan
  · obtain ⟨he, hm⟩ := (decode_toNat_eq_nan_iff x.toBits.toBitVec).mp hnan
    have hbits : x.toBits.toNat = (packedNaN Format.binary64).toNat :=
      congrArg BitVec.toNat ((valid_toBits x).eq_packedNaN he hm)
    rw [hnan, hbits]
    rfl
  · exact FloatFormat.double.encode?_decode x.toBits.toNat_lt hnan

/-- The pattern of the number zero with a minus sign. -/
def negativeZeroBits : UInt64 := 0x8000000000000000

/-- The numbers that equal zero are the two zeros. -/
lemma beq_zero_iff (x : Float) : (x == 0) = true ↔ x.toBits = 0 ∨ x.toBits = negativeZeroBits := by
  have hcompare : (x == 0) =
      ((unpack Format.binary64 x.toBits.toBitVec).compare (.zero .positive) == some .eq) := rfl
  have hpack := pack_unpack (valid_toBits x)
  rw [hcompare]
  constructor
  · intro h
    cases hu : unpack Format.binary64 x.toBits.toBitVec with
    | zero sign =>
        rw [hu] at hpack
        cases sign with
        | positive => exact .inl (UInt64.toBitVec_inj.mp hpack.symm)
        | negative => exact .inr (UInt64.toBitVec_inj.mp hpack.symm)
    | infinity sign => cases sign <;> simp [hu, Float.Model.UnpackedFloat.compare] at h
    | notANumber => simp [hu, Float.Model.UnpackedFloat.compare] at h
    | finite sign m e hm => cases sign <;> simp [hu, Float.Model.UnpackedFloat.compare] at h
  · rintro (h | h)
    · rw [h]
      decide
    · rw [h]
      decide

end ExprMachine.Number

import Mathlib
import PlaneSketch.Proofs.Binary.Accuracy

namespace PlaneSketch.Binary

open Float.Model Float.Model.UnpackedFloat

-- Half a step beyond the largest double. Whatever is at least as large is rounded to infinity.
def overflowBound : Nat := (2 ^ 54 - 1) * 2 ^ 970

-- The first bit that is not kept.
theorem roundBit_shiftRight (em : ExtendedMantissa) (k : Nat) :
    (em >>> (k + 1)).roundBit.toNat = em.mantissa / 2 ^ k % 2 := by
  have hbit : (em >>> (k + 1)).roundBit = (em.mantissa / 2 ^ k % 2 != 0) := by
    rw [← mantissa_shiftRight]
    rfl
  rw [hbit]
  rcases Nat.mod_two_eq_zero_or_one (em.mantissa / 2 ^ k) with h | h <;> simp [h]

-- An odd mantissa is rounded up from the half on.
theorem roundedMantissa_of_odd {em : ExtendedMantissa} (h : em.mantissa % 2 = 1) :
    em.roundedMantissa = em.mantissa + em.roundBit.toNat := by
  obtain ⟨m, _ | _, _ | _⟩ := em <;>
    simp_all [ExtendedMantissa.roundedMantissa, ExtendedMantissa.accuracy,
      Accuracy.roundToNearestEven]

theorem isInf_pack_finite (s : Sign) {m : Nat} {e : Int} (hm : 0 < m)
    (h : m < 2 ^ 53 ∧ -1074 ≤ e ∧ (e = -1074 ∨ 2 ^ 52 ≤ m)) :
    (Float.Model.pack (.finite s m e hm)).isInf = true ↔ 972 ≤ e := by
  change (Float.Model.pack (.finite s m e hm)).unpack.isInf = true ↔ _
  constructor
  · intro hinfinite
    rcases unpack_pack_canonical s hm h with hsame | ⟨he, -⟩
    · rw [hsame] at hinfinite
      cases hinfinite
    · exact he
  · intro he
    rw [unpack_pack, pack_finite, if_pos (by omega)]
    cases s <;> rfl

section Integers

variable {m k : Nat}

theorem shiftAmount_integer (hm : m ≠ 0) : shiftAmount (m * 2 ^ 53) (-53) = m.log2 + 1 := by
  have hlog : (m * 2 ^ 53).log2 = m.log2 + 53 := by
    have hpos : m * 2 ^ 53 ≠ 0 := by positivity
    refine (Nat.log2_eq_iff hpos).mpr ⟨?_, ?_⟩
    · rw [Nat.pow_add]
      exact Nat.mul_le_mul_right _ (Nat.log2_self_le hm)
    · rw [Nat.add_right_comm, Nat.pow_add]
      exact Nat.mul_lt_mul_of_pos_right Nat.lt_log2_self (by norm_num)
  simp only [shiftAmount, totalExponent, hlog]
  omega

-- All but the last case are told apart by the number of bits.
theorem isInf_round_of_log2 (s : Sign) (hm : m ≠ 0) :
    (Float.Model.pack (roundWithAccuracy Format.binary64 s (m * 2 ^ 53) (-53) .exact)).isInf =
        true ↔
      1024 ≤ m.log2 ∨ m.log2 = 1023 ∧ keptMantissa (m * 2 ^ 53) (-53) .exact = 2 ^ 53 := by
  obtain ⟨hbelow, -, hcases⟩ := roundWithAccuracy_kept s (m * 2 ^ 53) (-53) .exact rfl
  generalize keptMantissa (m * 2 ^ 53) (-53) .exact = r at hbelow hcases ⊢
  rw [shiftAmount_integer hm] at hbelow hcases
  have hfull : 2 ^ 52 ≤ r := by
    refine le_trans ?_ hbelow
    rw [Nat.le_div_iff_mul_le (Nat.two_pow_pos _), ← Nat.pow_add, Nat.add_comm, Nat.add_assoc,
      Nat.pow_add]
    exact Nat.mul_le_mul_right _ (Nat.log2_self_le hm)
  rcases hcases with ⟨rfl, -⟩ | ⟨hr, hlt, hfinite⟩ | ⟨rfl, hfinite⟩
  · omega
  · rw [hfinite, isInf_pack_finite s hr ⟨hlt, by omega, .inr hfull⟩]
    omega
  · rw [hfinite, isInf_pack_finite s _ ⟨by decide, by omega, .inr le_rfl⟩]
    omega

-- Of the 54 highest bits all but the last are kept, and the last is the round bit.
theorem shiftToTargetExponent_integer (h : m.log2 = k + 53) :
    (shiftToTargetExponent Format.binary64 (m * 2 ^ 53) (-53) .exact).1.mantissa =
        m / 2 ^ k / 2 ∧
      (shiftToTargetExponent Format.binary64 (m * 2 ^ 53) (-53) .exact).1.roundBit.toNat =
        m / 2 ^ k % 2 := by
  have hm : m ≠ 0 := by
    rintro rfl
    simp at h
  have hshift : shiftAmount (m * 2 ^ 53) (-53) = k + 53 + 1 := by rw [shiftAmount_integer hm, h]
  have hhigh : m * 2 ^ 53 / 2 ^ (k + 53) = m / 2 ^ k := by
    rw [Nat.pow_add]
    exact Nat.mul_div_mul_right _ _ (Nat.two_pow_pos _)
  constructor
  · rw [(shiftToTargetExponent_eq _ _ _).1, hshift, Nat.pow_succ 2 (k + 53),
      ← Nat.div_div_eq_div_mul, hhigh]
  · change (ExtendedMantissa.ofMantissaAndAccuracy (m * 2 ^ 53) .exact >>>
      shiftAmount (m * 2 ^ 53) (-53)).roundBit.toNat = _
    rw [hshift, roundBit_shiftRight, ← hhigh]
    rfl

-- The mantissa is full after rounding if it is all ones before and the round bit is set.
theorem keptMantissa_eq_iff (h : m.log2 = k + 53) :
    keptMantissa (m * 2 ^ 53) (-53) .exact = 2 ^ 53 ↔ 2 ^ 54 - 1 ≤ m / 2 ^ k := by
  have hbelow : m / 2 ^ k < 2 ^ 54 := by
    have hbits : m < 2 ^ (m.log2 + 1) := Nat.lt_log2_self
    rw [Nat.div_lt_iff_lt_mul (Nat.two_pow_pos _), ← Nat.pow_add]
    rwa [h, show k + 53 + 1 = 54 + k by omega] at hbits
  obtain ⟨hmantissa, hround⟩ := shiftToTargetExponent_integer h
  rw [keptMantissa]
  generalize (shiftToTargetExponent Format.binary64 (m * 2 ^ 53) (-53) .exact).1 = em at *
  have hgrow := roundedMantissa_le em
  have hodd (hlast : em.mantissa % 2 = 1) :
      em.roundedMantissa = em.mantissa + em.roundBit.toNat := roundedMantissa_of_odd hlast
  generalize m / 2 ^ k = q at *
  omega

theorem two_pow_le_div_iff (hm : m ≠ 0) (b : Nat) : 2 ^ b ≤ m / 2 ^ k ↔ b + k ≤ m.log2 := by
  rw [Nat.le_div_iff_mul_le (Nat.two_pow_pos _), ← Nat.pow_add, Nat.le_log2 hm]

theorem overflowBound_le_iff : overflowBound ≤ m ↔ 2 ^ 54 - 1 ≤ m / 2 ^ 970 := by
  unfold overflowBound
  generalize 970 = k
  exact (Nat.le_div_iff_mul_le (Nat.two_pow_pos k)).symm

theorem isInf_round_integer (s : Sign) (hm : m ≠ 0) :
    (Float.Model.pack (roundWithAccuracy Format.binary64 s (m * 2 ^ 53) (-53) .exact)).isInf =
      true ↔ overflowBound ≤ m := by
  have hlonger := two_pow_le_div_iff (k := 970) hm 54
  have hshorter := two_pow_le_div_iff (k := 970) hm 53
  have hsame (h : m.log2 = 1023) := keptMantissa_eq_iff (k := 970) h
  rw [isInf_round_of_log2 s hm, overflowBound_le_iff]
  generalize m / 2 ^ 970 = q at *
  by_cases hlog : m.log2 = 1023
  · rw [hsame hlog]
    omega
  · simp only [hlog, false_and, or_false]
    omega

-- The bound on the power of ten.
theorem not_lt_neg (b k : Nat) : ¬(0 : Int) < -(2 ^ b + k) := by
  have hpos : (0 : Int) ≤ 2 ^ b := by positivity
  omega

theorem ofScientific_integer (hm : m ≠ 0) : UnpackedFloat.ofScientific Format.binary64 m 0 =
    roundWithAccuracy Format.binary64 .positive (m * 2 ^ 53) (-53) .exact := by
  have hunfold (hpos : 0 < m <<< 53) : UnpackedFloat.ofScientific Format.binary64 m 0 =
      UnpackedFloat.mul Format.binary64 (.finite .positive (m <<< 53) (-53) hpos)
        (.finite .positive 1 0 Nat.one_pos) := by
    unfold UnpackedFloat.ofScientific
    rw [dif_neg hm, if_neg (by decide), if_neg (not_lt_neg _ _), if_pos le_rfl]
    rfl
  have hpos : 0 < m <<< 53 := by
    rw [Nat.shiftLeft_eq]
    positivity
  have hmul : UnpackedFloat.mul Format.binary64 (.finite .positive (m <<< 53) (-53) hpos)
      (.finite .positive 1 0 Nat.one_pos) =
        roundWithAccuracy Format.binary64 .positive (m <<< 53 * 1) (-53 + 0) .exact := rfl
  rw [hunfold hpos, hmul, Nat.mul_one, Nat.shiftLeft_eq, Int.add_zero]

theorem isInf_ofNat_of_le (h : 2 ^ 53 ≤ m) :
    (Float.ofNat m).isInf = true ↔ overflowBound ≤ m := by
  have hm : m ≠ 0 := by
    rintro rfl
    simp at h
  have hscaled : (Float.ofNat m).toModel = Float.Model.ofScientific m 0 :=
    congrArg Float.toModel (dif_neg (by omega))
  rw [← isInf_round_integer .positive hm, ← ofScientific_integer hm]
  exact iff_of_eq (congrArg (Float.Model.isInf · = true) hscaled)

-- A number that is a double is taken as it is, times one.
theorem isFinite_ofNat_of_lt (h : m < 2 ^ 53) : (Float.ofNat m).isFinite = true := by
  have hunfold : Float.ofNat m = m.toUInt64.toFloat * Float.ofBits 4607182418800017408 :=
    dif_pos ⟨h, by decide⟩
  have hone : (Float.ofBits 4607182418800017408).toModel.unpack =
      .finite .positive (2 ^ 52) (-52) (by decide) := by rfl
  have hunit : toReal (Float.ofBits 4607182418800017408) = 1 := by
    rw [toReal, hone]
    norm_num [unit]
  have hnat : Approximates m.toUInt64.toFloat ((m.toUInt64.toNat : Int) * 2 ^ (0 : Int)) :=
    approximates_of_rounds (rounds_normalize _ 0 .positive) rfl
  have hsmall : |(((m.toUInt64.toNat : Int) * 2 ^ (0 : Int) : ℝ))| ≤ 2 ^ 64 := by
    rw [zpow_zero, mul_one, abs_of_nonneg (by positivity)]
    exact_mod_cast m.toUInt64.toNat_lt.le
  have hfinite := hnat.isFinite (hsmall.trans (by norm_num))
  rw [hunfold]
  refine (approximates_mul hfinite ?_).isFinite ?_
  · exact congrArg UnpackedFloat.isFinite hone
  · rw [hunit, mul_one]
    have hnear := (hnat.near hfinite).abs_le
    linarith

theorem isInf_ofNat_iff (m : Nat) : (Float.ofNat m).isInf = true ↔ overflowBound ≤ m := by
  rcases Nat.lt_or_ge m (2 ^ 53) with hlt | hge
  · have hfinite := isInf_of_isFinite (isFinite_ofNat_of_lt hlt)
    have hbelow : m / 2 ^ 970 < 2 ^ 54 - 1 := (Nat.div_le_self _ _).trans_lt (by omega)
    rw [hfinite, overflowBound_le_iff]
    exact iff_of_false Bool.false_ne_true (not_le.mpr hbelow)
  · exact isInf_ofNat_of_le hge

end Integers

theorem isInf_neg (x : Float) : (-x).isInf = x.isInf := by
  change (Float.Model.pack x.toModel.unpack.neg).unpack.isInf = x.toModel.unpack.isInf
  cases h : x.toModel.unpack with
  | finite s m e hm =>
      have hrange := finite_range h
      have hfits := (isInf_pack_finite (-s) hm hrange.1).not.mpr (not_le.mpr hrange.2)
      exact Bool.eq_false_iff.mpr hfits
  | _ => simp [UnpackedFloat.neg, UnpackedFloat.isInf]

-- An integer is too large for a double from half a step beyond the largest one on.
theorem isInf_ofInt_iff (n : Int) : (Float.ofInt n).isInf = true ↔ overflowBound ≤ n.natAbs := by
  cases n with
  | ofNat m => exact isInf_ofNat_iff m
  | negSucc m =>
      change (-Float.ofNat (m + 1)).isInf = true ↔ _
      rw [isInf_neg]
      exact isInf_ofNat_iff (m + 1)

end PlaneSketch.Binary

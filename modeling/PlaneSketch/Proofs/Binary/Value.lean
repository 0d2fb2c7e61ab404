import PlaneSketch.Proofs.Binary.Magnitude

namespace PlaneSketch.Binary

open Float.Model Float.Model.UnpackedFloat

-- One with the given sign.
def unit : Sign → ℝ
  | .negative => -1
  | .positive => 1

@[simp] theorem abs_unit (s : Sign) : |unit s| = 1 := by cases s <;> simp [unit]

-- The number that is meant; infinities and NaN count as zero.
noncomputable def value : UnpackedFloat → ℝ
  | .finite s m e _ => unit s * (m * 2 ^ e)
  | _ => 0

@[simp] theorem value_zero (s : Sign) : value (.zero s) = 0 := rfl

@[simp] theorem value_finite (s : Sign) (m : Nat) (e : Int) (hm : 0 < m) :
    value (.finite s m e hm) = unit s * (m * 2 ^ e) := rfl

-- Written as the format asks: with all bits of the mantissa, unless the exponent is the least one.
def Canonical : UnpackedFloat → Prop
  | .finite _ m e _ => m < 2 ^ 53 ∧ -1074 ≤ e ∧ (e = -1074 ∨ 2 ^ 52 ≤ m)
  | _ => True

theorem canonical_unpack (x : Float.Model) : Canonical x.unpack := by
  cases h : x.unpack with
  | finite s m e hm => exact finite_bounds h
  | _ => trivial

-- A number and what it was rounded to: no farther apart than one unit in the last place.
def Near (x v : ℝ) : Prop := |x - v| ≤ 2 ^ (-52 : ℤ) * |v| + 2 ^ (-1074 : ℤ)

section Rounding

variable {m : Nat} {e : Int}

-- The place of the last bit that is kept, where there were enough bits to begin with.
theorem shifted_exponent (hfine : 2 ^ 52 ≤ m ∨ e ≤ -1074) :
    e + shiftAmount m e = max (totalExponent m e - 53) (-1074) := by
  have hlog : 52 ≤ m.log2 ∨ e ≤ -1074 := hfine.imp_left fun hm => by
    have hpos : 0 < m := lt_of_lt_of_le (by norm_num) hm
    exact (Nat.le_log2 hpos.ne').mpr hm
  simp only [shiftAmount, totalExponent]
  omega

-- It is worth little beside the number itself.
theorem two_zpow_le {v : ℝ} (hlow : m * 2 ^ e ≤ v) (hfine : 2 ^ 52 ≤ m ∨ e ≤ -1074) :
    (2 : ℝ) ^ (e + shiftAmount m e) ≤ 2 ^ (-52 : ℤ) * v + 2 ^ (-1074 : ℤ) := by
  have hv : 0 ≤ v := le_trans (by positivity) hlow
  have hplace := shifted_exponent hfine
  rcases le_total (totalExponent m e - 53) (-1074) with hle | hle
  · rw [hplace, max_eq_right hle]
    exact le_add_of_nonneg_left (by positivity)
  · rw [max_eq_left hle] at hplace
    have hm : m ≠ 0 := by
      rintro rfl
      simp only [totalExponent, Nat.log2_zero] at hplace hle
      omega
    have hexponent : e + shiftAmount m e = -52 + (m.log2 + e) := by
      simp only [totalExponent] at hplace
      omega
    have hlog : (2 : ℝ) ^ m.log2 ≤ m := by exact_mod_cast Nat.log2_self_le hm
    calc (2 : ℝ) ^ (e + shiftAmount m e)
        = 2 ^ (-52 : ℤ) * (2 ^ m.log2 * 2 ^ e) := by
          rw [hexponent, zpow_add₀ two_ne_zero, zpow_add₀ two_ne_zero, zpow_natCast]
      _ ≤ 2 ^ (-52 : ℤ) * v := by
          gcongr
          exact le_trans (by gcongr) hlow
      _ ≤ 2 ^ (-52 : ℤ) * v + 2 ^ (-1074 : ℤ) := le_add_of_nonneg_right (by positivity)

-- Enough bits are kept.
theorem full_of_fine (hfine : 2 ^ 52 ≤ m ∨ e ≤ -1074) :
    e + shiftAmount m e = -1074 ∨ 2 ^ 52 ≤ m / 2 ^ shiftAmount m e := by
  have hplace := shifted_exponent hfine
  rcases le_total (totalExponent m e - 53) (-1074) with hle | hle
  · left
    omega
  · right
    have hlog : m.log2 = 52 + shiftAmount m e := by
      simp only [totalExponent] at hplace hle
      omega
    have hm : m ≠ 0 := by
      rintro rfl
      rw [Nat.log2_zero] at hlog
      omega
    rw [Nat.le_div_iff_mul_le (Nat.two_pow_pos _), ← Nat.pow_add, ← hlog]
    exact Nat.log2_self_le hm

-- The number and what is left of it have all bits but the last in common.
theorem abs_sub_le_of_kept {k r : Nat} {v : ℝ} (hlow : m * 2 ^ e ≤ v)
    (hhigh : v ≤ (m + 1) * 2 ^ e) (hbelow : m / 2 ^ k ≤ r) (habove : r ≤ m / 2 ^ k + 1) :
    |r * 2 ^ (e + (k : ℤ)) - v| ≤ 2 ^ (e + (k : ℤ)) := by
  have hfloor : r * 2 ^ k ≤ m + 2 ^ k := by
    calc r * 2 ^ k ≤ (m / 2 ^ k + 1) * 2 ^ k := Nat.mul_le_mul_right _ habove
      _ = m / 2 ^ k * 2 ^ k + 2 ^ k := Nat.succ_mul _ _
      _ ≤ m + 2 ^ k := Nat.add_le_add_right (Nat.div_mul_le_self m _) _
  have hceil : m + 1 ≤ (r + 1) * 2 ^ k := by
    calc m + 1 ≤ 2 ^ k * (m / 2 ^ k + 1) := Nat.lt_mul_div_succ m (Nat.two_pow_pos k)
      _ ≤ 2 ^ k * (r + 1) := Nat.mul_le_mul_left _ (Nat.succ_le_succ hbelow)
      _ = (r + 1) * 2 ^ k := Nat.mul_comm _ _
  have hfloor : (r : ℝ) * 2 ^ k ≤ m + 2 ^ k := by exact_mod_cast hfloor
  have hceil : (m : ℝ) + 1 ≤ (r + 1) * 2 ^ k := by exact_mod_cast hceil
  have hscale : (0 : ℝ) < 2 ^ e := by positivity
  rw [zpow_add₀ two_ne_zero, zpow_natCast, abs_le]
  constructor
  · nlinarith
  · nlinarith

-- A finite result of an operation whose exact result is known.
structure Rounds (a : UnpackedFloat) (v : ℝ) : Prop where
  finite : a.isFinite = true
  canonical : Canonical a
  near : Near (value a) v

theorem rounds_roundWithAccuracy (s : Sign) (accuracy : Accuracy) {v : ℝ} (hlow : m * 2 ^ e ≤ v)
    (hhigh : v ≤ (m + 1) * 2 ^ e) (hfine : 2 ^ 52 ≤ m ∨ e ≤ -1074) :
    Rounds (roundWithAccuracy Format.binary64 s m e accuracy) (unit s * v) := by
  obtain ⟨r, hbelow, habove, hcases⟩ := roundWithAccuracy_parts s m e accuracy
  have hkept := rounded_shift m e
  have hvalue : value (roundWithAccuracy Format.binary64 s m e accuracy) =
      unit s * (r * 2 ^ (e + (shiftAmount m e : ℤ))) := by
    rcases hcases with ⟨rfl, h⟩ | ⟨hr, -, h⟩ | ⟨rfl, h⟩
    · simp [h, value]
    · simp [h, value]
    · rw [h, value, zpow_add₀ two_ne_zero]
      push_cast
      ring
  have hnear : |unit s * (r * 2 ^ (e + (shiftAmount m e : ℤ))) - unit s * v| ≤
      2 ^ (e + (shiftAmount m e : ℤ)) := by
    rw [← mul_sub, abs_mul, abs_unit, one_mul]
    exact abs_sub_le_of_kept hlow hhigh hbelow habove
  refine ⟨isFinite_roundWithAccuracy _ _ _ _, ?_, ?_⟩
  · have hfull := full_of_fine hfine
    rcases hcases with ⟨-, h⟩ | ⟨hr, hlt, h⟩ | ⟨-, h⟩
    · rw [h]
      trivial
    · rw [h]
      exact ⟨hlt, hkept.2, hfull.imp_right fun hq => hq.trans hbelow⟩
    · rw [h]
      exact ⟨by norm_num, by have := hkept.2; omega, .inr le_rfl⟩
  · rw [Near, hvalue, abs_mul, abs_unit, one_mul]
    refine hnear.trans ((two_zpow_le hlow hfine).trans ?_)
    gcongr
    exact le_abs_self v

theorem two_pow_le_shiftLeft (hm : 0 < m) {k amount : Nat} (h : k ≤ m.log2 + amount) :
    2 ^ k ≤ m <<< amount := by
  calc 2 ^ k ≤ 2 ^ (m.log2 + amount) := Nat.pow_le_pow_right (by norm_num) h
    _ = 2 ^ m.log2 * 2 ^ amount := Nat.pow_add _ _ _
    _ ≤ m * 2 ^ amount := Nat.mul_le_mul_right _ (Nat.log2_self_le hm.ne')
    _ = m <<< amount := (Nat.shiftLeft_eq _ _).symm

theorem rounds_round (s : Sign) (hm : 0 < m) :
    Rounds (UnpackedFloat.round Format.binary64 s m e) (unit s * (m * 2 ^ e)) := by
  let amount := (e - max (totalExponent m e - 53) (-1074)).toNat
  have hunfold : UnpackedFloat.round Format.binary64 s m e =
      roundWithAccuracy Format.binary64 s (m <<< amount) (e - amount) .exact := rfl
  have hsame : ((m <<< amount : Nat) : ℝ) * 2 ^ (e - amount : ℤ) = m * 2 ^ e := by
    rw [Nat.shiftLeft_eq, zpow_sub₀ two_ne_zero, zpow_natCast]
    push_cast
    field_simp
  have hfine : 2 ^ 52 ≤ m <<< amount ∨ e - amount ≤ -1074 := by
    by_cases hlog : 52 ≤ m.log2 + amount
    · exact .inl (two_pow_le_shiftLeft hm hlog)
    · right
      simp only [amount, totalExponent] at hlog ⊢
      omega
  rw [hunfold, ← hsame]
  refine rounds_roundWithAccuracy s .exact le_rfl ?_ hfine
  rw [add_mul]
  exact le_add_of_nonneg_right (by positivity)

end Rounding

theorem near_self (v : ℝ) : Near v v := by
  rw [Near, sub_self, abs_zero]
  positivity

theorem rounds_normalize (mantissa e : Int) (zeroSign : Sign) :
    Rounds (UnpackedFloat.normalize Format.binary64 mantissa e zeroSign) (mantissa * 2 ^ e) := by
  unfold UnpackedFloat.normalize
  split
  · rename_i hneg
    rw [Int.compare_eq_lt] at hneg
    have hcast : ((-mantissa).toNat : ℝ) = -mantissa := by
      exact_mod_cast Int.toNat_of_nonneg (by omega : 0 ≤ -mantissa)
    have hround := rounds_round .negative (m := (-mantissa).toNat) (e := e) (by omega)
    rw [hcast] at hround
    simpa [unit] using hround
  · rename_i hzero
    rw [Int.compare_eq_eq] at hzero
    subst hzero
    exact ⟨rfl, trivial, by simpa [value] using near_self 0⟩
  · rename_i hpos
    rw [Int.compare_eq_gt] at hpos
    have hcast : (mantissa.toNat : ℝ) = mantissa := by
      exact_mod_cast Int.toNat_of_nonneg (by omega : 0 ≤ mantissa)
    have hround := rounds_round .positive (m := mantissa.toNat) (e := e) (by omega)
    rw [hcast] at hround
    simpa [unit] using hround

end PlaneSketch.Binary

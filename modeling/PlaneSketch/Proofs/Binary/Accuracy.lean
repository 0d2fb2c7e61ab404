import PlaneSketch.Proofs.Binary.Value

namespace PlaneSketch.Binary

open Float.Model Float.Model.UnpackedFloat

theorem Near.abs_le {x v : ℝ} (h : Near x v) : |x| ≤ 2 * |v| + 1 := by
  have htriangle := abs_sub_abs_le_abs_sub x v
  have hbound : 2 ^ (-52 : ℤ) * |v| + 2 ^ (-1074 : ℤ) ≤ 1 * |v| + 1 := by
    gcongr
    · norm_num
    · exact zpow_le_one_of_nonpos₀ one_le_two (by norm_num)
  rw [Near] at h
  linarith

theorem Near.abs_sub_le {x v b : ℝ} (h : Near x v) (hv : |v| ≤ b) :
    |x - v| ≤ 2 ^ (-52 : ℤ) * (b + 1) := by
  have htiny : (2 : ℝ) ^ (-1074 : ℤ) ≤ 2 ^ (-52 : ℤ) :=
    zpow_le_zpow_right₀ one_le_two (by norm_num)
  have hscaled : (2 : ℝ) ^ (-52 : ℤ) * |v| ≤ 2 ^ (-52 : ℤ) * b := by gcongr
  rw [Near] at h
  linarith

section Operations

variable {a b : UnpackedFloat}

theorem unit_mul (s t : Sign) : unit (s * t) = unit s * unit t := by
  cases s <;> cases t <;> norm_num [unit]

theorem unit_div (s t : Sign) : unit (s / t) = unit s / unit t := by
  cases s <;> cases t <;> norm_num [unit] <;> rfl

theorem unit_neg (s : Sign) : unit (-s) = -unit s := by
  cases s <;> norm_num [unit]

theorem cast_apply (s : Sign) (n : Int) : ((s.apply n : Int) : ℝ) = unit s * n := by
  cases s <;> simp [Sign.apply, unit]

-- An exact result.
theorem rounds_self {v : ℝ} (ha : Canonical a) (hfinite : a.isFinite = true) (hv : v = value a) :
    Rounds a v :=
  ⟨hfinite, ha, hv ▸ near_self _⟩

theorem rounds_zero (s : Sign) {v : ℝ} (hv : v = 0) : Rounds (.zero s) v :=
  rounds_self trivial rfl hv

-- The same number with more bits and a smaller exponent.
theorem shiftLeft_mul_zpow (m : Nat) {e low : Int} (h : low ≤ e) :
    ((m <<< (e - low).toNat : Nat) : ℝ) * 2 ^ low = m * 2 ^ e := by
  have hexponent : (2 : ℝ) ^ e = 2 ^ (e - low).toNat * 2 ^ low := by
    rw [← zpow_natCast, ← zpow_add₀ two_ne_zero]
    congr 1
    omega
  rw [Nat.shiftLeft_eq, hexponent]
  push_cast
  ring

theorem rounds_abs (ha : Canonical a) (hfinite : a.isFinite = true) : Rounds a.abs |value a| := by
  cases a with
  | zero s => exact rounds_zero _ (by simp)
  | finite s m e hm =>
      refine rounds_self (a := .finite .positive m e hm) ha rfl ?_
      rw [value_finite, abs_mul, abs_unit, value_finite, unit, abs_of_nonneg (by positivity)]
  | _ => cases hfinite

theorem rounds_mul (ha : Canonical a) (hb : Canonical b) (hfa : a.isFinite = true)
    (hfb : b.isFinite = true) :
    Rounds (UnpackedFloat.mul Format.binary64 a b) (value a * value b) := by
  cases a with
  | zero s =>
      cases b with
      | zero t => exact rounds_zero (s * t) (by simp)
      | finite t n f hn => exact rounds_zero (s * t) (by simp)
      | _ => cases hfb
  | finite s m e hm =>
      cases b with
      | zero t => exact rounds_zero (s * t) (by simp)
      | finite t n f hn =>
          have hvalue : value (.finite s m e hm) * value (.finite t n f hn) =
              unit (s * t) * ((m * n : Nat) * 2 ^ (e + f)) := by
            rw [value_finite, value_finite, unit_mul, zpow_add₀ two_ne_zero]
            push_cast
            ring
          have hfine : 2 ^ 52 ≤ m * n ∨ e + f ≤ -1074 := by
            rcases ha.2.2 with he | hfull
            · rcases hb.2.2 with hf | hfull
              · right
                omega
              · exact .inl (hfull.trans (Nat.le_mul_of_pos_left n hm))
            · exact .inl (hfull.trans (Nat.le_mul_of_pos_right m hn))
          rw [hvalue]
          refine rounds_roundWithAccuracy (s * t) .exact le_rfl ?_ hfine
          gcongr
          exact le_add_of_nonneg_right zero_le_one
      | _ => cases hfb
  | _ => cases hfa

theorem rounds_sub (ha : Canonical a) (hb : Canonical b) (hfa : a.isFinite = true)
    (hfb : b.isFinite = true) :
    Rounds (UnpackedFloat.sub Format.binary64 a b) (value a - value b) := by
  cases a with
  | zero s =>
      cases b with
      | zero t =>
          cases s <;> cases t <;> exact rounds_zero _ (by simp)
      | finite t n f hn =>
          refine rounds_self (a := .finite (-t) n f hn) hb rfl ?_
          rw [value_zero, value_finite, value_finite, unit_neg]
          ring
      | _ => cases hfb
  | finite s m e hm =>
      cases b with
      | zero t => exact rounds_self ha rfl (sub_zero _)
      | finite t n f hn =>
          have hvalue : value (.finite s m e hm) - value (.finite t n f hn) =
              (s.apply (m <<< (e - min e f).toNat : Nat) -
                t.apply (n <<< (f - min e f).toNat : Nat) : Int) * 2 ^ min e f := by
            rw [value_finite, value_finite, ← shiftLeft_mul_zpow m (min_le_left e f),
              ← shiftLeft_mul_zpow n (min_le_right e f), Int.cast_sub, cast_apply, cast_apply]
            rw [Int.cast_natCast, Int.cast_natCast, mul_sub_right_distrib, mul_assoc, mul_assoc]
          rw [sub_finite, hvalue]
          exact rounds_normalize _ _ _
      | _ => cases hfb
  | _ => cases hfa

-- Quotients are computed with a bit to spare.
theorem div_finite (s t : Sign) {m n : Nat} (e f : Int) (hm : 0 < m) (hn : 0 < n) :
    ∃ target accuracy, target ≤ e - f ∧
      UnpackedFloat.div Format.binary64 (.finite s m e hm) (.finite t n f hn) =
        roundWithAccuracy Format.binary64 (s / t) ((m <<< (e - f - target).toNat) / n) target
          accuracy ∧
      (2 ^ 52 ≤ (m <<< (e - f - target).toNat) / n ∨ target ≤ -1074) := by
  let target := min (e - f) (max (totalExponent m e - totalExponent n f - 53) (-1074))
  refine ⟨target, _, min_le_left _ _, rfl, ?_⟩
  by_cases htarget : target ≤ -1074
  · exact .inr htarget
  · left
    have hlog : 52 + (n.log2 + 1) ≤ m.log2 + (e - f - target).toNat := by
      simp only [target, totalExponent] at htarget ⊢
      omega
    rw [Nat.le_div_iff_mul_le hn]
    calc 2 ^ 52 * n ≤ 2 ^ 52 * 2 ^ (n.log2 + 1) := Nat.mul_le_mul_left _ Nat.lt_log2_self.le
      _ = 2 ^ (52 + (n.log2 + 1)) := (Nat.pow_add _ _ _).symm
      _ ≤ m <<< (e - f - target).toNat := two_pow_le_shiftLeft hm hlog

theorem rounds_div (hfa : a.isFinite = true) (hfb : b.isFinite = true) (hzero : value b ≠ 0) :
    Rounds (UnpackedFloat.div Format.binary64 a b) (value a / value b) := by
  cases b with
  | finite t n f hn =>
      cases a with
      | zero s => exact rounds_zero (s / t) (by simp)
      | finite s m e hm =>
          obtain ⟨target, accuracy, htarget, hdiv, hfine⟩ := div_finite s t e f hm hn
          have hn' : (0 : ℝ) < n := by exact_mod_cast hn
          have hvalue : value (.finite s m e hm) / value (.finite t n f hn) =
              unit (s / t) * ((m <<< (e - f - target).toNat : Nat) / n * 2 ^ target) := by
            rw [value_finite, value_finite, unit_div, div_mul_eq_mul_div (_ : ℝ) n,
              shiftLeft_mul_zpow m htarget, zpow_sub₀ two_ne_zero]
            field_simp
          rw [hdiv, hvalue]
          refine rounds_roundWithAccuracy (s / t) accuracy ?_ ?_ hfine
          · gcongr
            exact Nat.cast_div_le
          · gcongr
            rw [div_le_iff₀ hn', mul_comm]
            exact_mod_cast (Nat.lt_mul_div_succ _ hn).le
      | _ => cases hfa
  | zero t => exact absurd (value_zero t) hzero
  | _ => cases hfb

-- Lengths are computed with all their bits, and the squares before them exactly.
theorem unpackedHypot_parts (s t : Sign) {m n : Nat} (e f : Int) (hm : 0 < m) (hn : 0 < n) :
    ∃ M target accuracy, unpackedHypot (.finite s m e hm) (.finite t n f hn) =
        roundWithAccuracy Format.binary64 .positive (Nat.sqrt M) target accuracy ∧
      (M : ℝ) * 2 ^ (2 * target) = (m * 2 ^ e) ^ 2 + (n * 2 ^ f) ^ 2 ∧
      (2 ^ 52 ≤ Nat.sqrt M ∨ target ≤ -1074) := by
  let low := min e f
  let S := (sumOfSquares m e n f).1
  let target := min (2 * low / 2) (max ((totalExponent S (2 * low) + 1) / 2 - 53) (-1074))
  have hS : 0 < S := sumOfSquares_pos m e n f hm
  have htarget : target ≤ low := le_trans (min_le_left _ _) (by omega)
  refine ⟨S <<< (2 * low - 2 * target).toNat, target, _, rfl, ?_, ?_⟩
  · have hsquare (k : Nat) (g : Int) : ((k * k : Nat) : ℝ) * 2 ^ (2 * g) = (k * 2 ^ g) ^ 2 := by
      rw [mul_comm 2 g, zpow_mul, zpow_ofNat]
      push_cast
      ring
    have hsum : S = (m * m) <<< (2 * e - 2 * low).toNat + (n * n) <<< (2 * f - 2 * low).toNat := by
      rw [← mul_sub, ← mul_sub]
      rfl
    rw [shiftLeft_mul_zpow S (by omega), hsum, Nat.cast_add, add_mul,
      shiftLeft_mul_zpow _ (by omega), shiftLeft_mul_zpow _ (by omega), hsquare, hsquare]
  · by_cases hcoarse : target ≤ -1074
    · exact .inr hcoarse
    · left
      have hlog : 104 ≤ S.log2 + (2 * low - 2 * target).toNat := by
        simp only [target, totalExponent] at hcoarse ⊢
        omega
      rw [Nat.le_sqrt, ← Nat.pow_add]
      exact two_pow_le_shiftLeft hS hlog

theorem rounds_unpackedHypot (ha : Canonical a) (hb : Canonical b) (hfa : a.isFinite = true)
    (hfb : b.isFinite = true) :
    Rounds (unpackedHypot a b) (√(value a ^ 2 + value b ^ 2)) := by
  have hsquare (s : Sign) (x : ℝ) : (unit s * x) ^ 2 = x ^ 2 := by
    cases s <;> simp [unit]
  have hroot {s : Sign} {m : Nat} {e : Int} {hm : 0 < m} :
      √(value (.finite s m e hm) ^ 2) = value (.finite .positive m e hm) := by
    rw [value_finite, hsquare, Real.sqrt_sq (by positivity), value_finite, unit, one_mul]
  cases a with
  | zero s =>
      cases b with
      | zero t => exact rounds_zero _ (by simp)
      | finite t n f hn =>
          exact rounds_self (a := .finite .positive n f hn) hb rfl
            (by rw [value_zero, zero_pow two_ne_zero, zero_add, hroot])
      | _ => cases hfb
  | finite s m e hm =>
      cases b with
      | zero t =>
          exact rounds_self (a := .finite .positive m e hm) ha rfl
            (by rw [value_zero, zero_pow two_ne_zero, add_zero, hroot])
      | finite t n f hn =>
          obtain ⟨M, target, accuracy, hhypot, hsum, hfine⟩ := unpackedHypot_parts s t e f hm hn
          have hvalue : √(value (.finite s m e hm) ^ 2 + value (.finite t n f hn) ^ 2) =
              unit .positive * (√M * 2 ^ target) := by
            rw [value_finite, value_finite, hsquare, hsquare, ← hsum, Real.sqrt_mul (by positivity),
              mul_comm 2 target, zpow_mul, zpow_ofNat, Real.sqrt_sq (by positivity), unit, one_mul]
          rw [hhypot, hvalue]
          refine rounds_roundWithAccuracy .positive accuracy ?_ ?_ hfine
          · gcongr
            exact Real.nat_sqrt_le_real_sqrt
          · gcongr
            exact Real.real_sqrt_le_nat_sqrt_succ
      | _ => cases hfb
  | _ => cases hfa

end Operations

section Order

variable {m n : Nat} {e f : Int}

-- Of two numbers with all their bits the one with the smaller exponent is smaller.
theorem mul_zpow_lt (hm : m < 2 ^ 53) (hn : 2 ^ 52 ≤ n) (h : e < f) :
    (m : ℝ) * 2 ^ e < n * 2 ^ f := by
  have hm : (m : ℝ) < 2 ^ 53 := by exact_mod_cast hm
  have hn : (2 : ℝ) ^ 52 ≤ n := by exact_mod_cast hn
  calc (m : ℝ) * 2 ^ e < 2 ^ 53 * 2 ^ e := by gcongr
    _ = 2 ^ 52 * 2 ^ (e + 1) := by
        rw [zpow_add_one₀ two_ne_zero]
        ring
    _ ≤ n * 2 ^ f := by
        gcongr
        · norm_num
        · omega

theorem compare_parts_eq_lt (hm : m < 2 ^ 53 ∧ -1074 ≤ e ∧ (e = -1074 ∨ 2 ^ 52 ≤ m))
    (hn : n < 2 ^ 53 ∧ -1074 ≤ f ∧ (f = -1074 ∨ 2 ^ 52 ≤ n)) :
    (compare e f).then (compare m n) = .lt ↔ (m : ℝ) * 2 ^ e < n * 2 ^ f := by
  rcases lt_trichotomy e f with hlt | rfl | hgt
  · have hvalue := mul_zpow_lt hm.1 (hn.2.2.resolve_left (by omega)) hlt
    simp [Int.compare_eq_lt.mpr hlt, hvalue]
  · have hscale : (0 : ℝ) < 2 ^ e := by positivity
    simp [Nat.compare_eq_lt, mul_lt_mul_iff_left₀ hscale]
  · have hvalue := mul_zpow_lt hn.1 (hm.2.2.resolve_left (by omega)) hgt
    simp [Int.compare_eq_gt.mpr hgt, hvalue.le]

variable {a b : UnpackedFloat}

theorem compare_eq_lt_iff (ha : Canonical a) (hb : Canonical b) (hfa : a.isFinite = true)
    (hfb : b.isFinite = true) : a.compare b = some .lt ↔ value a < value b := by
  cases a with
  | zero s =>
      cases b with
      | zero t => simp [UnpackedFloat.compare]
      | finite t n f hn =>
          have hpos : (0 : ℝ) < n * 2 ^ f := by positivity
          cases t <;> simp [UnpackedFloat.compare, unit, hpos, hpos.le]
      | _ => cases hfb
  | finite s m e hm =>
      have hpos : (0 : ℝ) < m * 2 ^ e := by positivity
      cases b with
      | zero t => cases s <;> simp [UnpackedFloat.compare, unit, hpos, hpos.le]
      | finite t n f hn =>
          have hpos' : (0 : ℝ) < n * 2 ^ f := by positivity
          cases s with
          | negative =>
              cases t with
              | negative =>
                  have hparts := compare_parts_eq_lt hb ha
                  simpa [UnpackedFloat.compare, unit, Ordering.swap_then, Int.compare_swap,
                    Nat.compare_swap] using hparts
              | positive =>
                  have hlt : -((m : ℝ) * 2 ^ e) < n * 2 ^ f := by linarith
                  simp [UnpackedFloat.compare, unit, hlt]
          | positive =>
              cases t with
              | negative =>
                  have hlt : -((n : ℝ) * 2 ^ f) < m * 2 ^ e := by linarith
                  simp [UnpackedFloat.compare, unit, hlt.le]
              | positive => simpa [UnpackedFloat.compare, unit] using compare_parts_eq_lt ha hb
      | _ => cases hfb
  | _ => cases hfa

end Order

-- The number that a double stands for.
noncomputable def toReal (x : Float) : ℝ := value x.toModel.unpack

-- A double that was computed in place of a number: it is near it, and finite unless the number is
-- very large.
structure Approximates (x : Float) (v : ℝ) : Prop where
  isFinite : |v| ≤ 2 ^ 200 → x.isFinite = true
  near : x.isFinite = true → Near (toReal x) v

theorem approximates_of_rounds {x : Float} {a : UnpackedFloat} {v : ℝ} (h : Rounds a v)
    (hx : x.toModel.unpack = (Float.Model.pack a).unpack) : Approximates x v := by
  have hkept (hsame : (Float.Model.pack a).unpack = a) : Approximates x v := by
    rw [hsame] at hx
    exact ⟨fun _ => (congrArg UnpackedFloat.isFinite hx).trans h.finite, fun _ => by
      rw [toReal, hx]
      exact h.near⟩
  cases a with
  | zero s => exact hkept (unpack_pack_zero s)
  | finite s m e hm =>
      rcases unpack_pack_canonical s hm h.canonical with hsame | ⟨he, hinfinite⟩
      · exact hkept hsame
      · rw [hinfinite] at hx
        have hnot : x.isFinite = false := congrArg UnpackedFloat.isFinite hx
        have hlarge : (2 : ℝ) ^ 256 ≤ |value (.finite s m e hm)| := by
          have hone : (1 : ℝ) ≤ m := by exact_mod_cast hm
          rw [value_finite, abs_mul, abs_unit, one_mul, abs_of_nonneg (by positivity)]
          calc (2 : ℝ) ^ 256 = 1 * 2 ^ (256 : ℤ) := by rw [one_mul, zpow_ofNat]
            _ ≤ (m : ℝ) * 2 ^ e := by
                gcongr
                · exact one_le_two
                · omega
        refine ⟨fun hv => ?_, fun hx => by simp [hnot] at hx⟩
        have hbound := hlarge.trans h.near.abs_le
        norm_num at hv hbound
        exfalso
        linarith
  | _ => cases h.finite

section Doubles

variable {x y : Float}

theorem approximates_abs (hx : x.isFinite = true) : Approximates x.abs |toReal x| :=
  approximates_of_rounds (rounds_abs (canonical_unpack _) hx) rfl

theorem approximates_mul (hx : x.isFinite = true) (hy : y.isFinite = true) :
    Approximates (x * y) (toReal x * toReal y) :=
  approximates_of_rounds (rounds_mul (canonical_unpack _) (canonical_unpack _) hx hy) rfl

theorem approximates_sub (hx : x.isFinite = true) (hy : y.isFinite = true) :
    Approximates (x - y) (toReal x - toReal y) :=
  approximates_of_rounds (rounds_sub (canonical_unpack _) (canonical_unpack _) hx hy) rfl

theorem approximates_div (hx : x.isFinite = true) (hy : y.isFinite = true) (h : toReal y ≠ 0) :
    Approximates (x / y) (toReal x / toReal y) :=
  approximates_of_rounds (rounds_div hx hy h) rfl

theorem approximates_hypot (hx : x.isFinite = true) (hy : y.isFinite = true) :
    Approximates (hypot x y) (√(toReal x ^ 2 + toReal y ^ 2)) :=
  approximates_of_rounds (rounds_unpackedHypot (canonical_unpack _) (canonical_unpack _) hx hy) rfl

-- A difference is zero only where a number was taken from itself.
theorem toReal_eq_of_sub {r : Sign} (h : (x - y).toModel.unpack = .zero r) :
    x.isFinite = true ∧ y.isFinite = true ∧ toReal x = toReal y := by
  obtain ⟨s, hs⟩ := zero_of_unpack_pack (fits_sub (fits_unpack _) (fits_unpack _)) h
  have hfinite := (isFinite_sub x.toModel.unpack y.toModel.unpack).symm.trans
    (congrArg UnpackedFloat.isFinite hs)
  obtain ⟨hx, hy⟩ := Bool.and_eq_true_iff.mp hfinite
  refine ⟨hx, hy, ?_⟩
  rw [toReal, toReal]
  rcases sameValue_of_sub hs with hsame | ⟨t, u, hx, hy⟩
  · rw [hsame]
  · rw [hx, hy, value_zero, value_zero]

theorem unpack_of_beq_zero (h : (x == 0.0) = true) : ∃ s, x.toModel.unpack = .zero s := by
  change (x.toModel.unpack.compare (.zero .positive) == some .eq) = true at h
  rw [beq_iff_eq] at h
  cases hx : x.toModel.unpack with
  | zero s => exact ⟨s, rfl⟩
  | finite s m e hm => cases s <;> simp [hx, UnpackedFloat.compare] at h
  | infinity s => cases s <;> simp [hx, UnpackedFloat.compare] at h
  | notANumber => simp [hx, UnpackedFloat.compare] at h

-- Numbers vanish beside an infinity.
theorem unpack_div_of_infinite (hx : x.isFinite = true) (hy : y.isFinite = false)
    (hnan : y.isNaN = false) : ∃ s, (x / y).toModel.unpack = .zero s := by
  change ∃ s, (Float.Model.pack (UnpackedFloat.div _ x.toModel.unpack
    y.toModel.unpack)).unpack = .zero s
  change x.toModel.unpack.isFinite = true at hx
  change y.toModel.unpack.isFinite = false at hy
  change y.toModel.unpack.isNaN = false at hnan
  generalize x.toModel.unpack = a at *
  generalize y.toModel.unpack = b at *
  cases b with
  | infinity t =>
      cases a with
      | zero s => exact ⟨s / t, unpack_pack_zero _⟩
      | finite s m e hm => exact ⟨s / t, unpack_pack_zero _⟩
      | _ => cases hx
  | notANumber => cases hnan
  | _ => cases hy

theorem lt_iff_toReal (hx : x.isFinite = true) (hy : y.isFinite = true) :
    x < y ↔ toReal x < toReal y := by
  rw [lt_iff]
  exact compare_eq_lt_iff (canonical_unpack _) (canonical_unpack _) hx hy

end Doubles

end PlaneSketch.Binary

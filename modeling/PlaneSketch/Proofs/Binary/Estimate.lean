import PlaneSketch.Proofs.Binary.Identities

namespace PlaneSketch.Binary

open Float.Model Float.Model.UnpackedFloat

section Unpacked

variable {a b : UnpackedFloat}

theorem value_neg (a : UnpackedFloat) : value a.neg = -value a := by
  cases a with
  | finite s m e hm =>
      change unit (-s) * _ = -(unit s * _)
      rw [unit_neg, neg_mul]
  | _ => simp [UnpackedFloat.neg, value]

theorem abs_eq_or_neg (a : UnpackedFloat) : a.abs = a ∨ a.abs = a.neg := by
  cases a with
  | finite s m e hm =>
      cases s with
      | negative => exact .inr rfl
      | positive => exact .inl rfl
  | infinity s =>
      cases s with
      | negative => exact .inr rfl
      | positive => exact .inl rfl
  | zero s =>
      cases s with
      | negative => exact .inr rfl
      | positive => exact .inl rfl
  | notANumber => exact .inl rfl

theorem value_abs (a : UnpackedFloat) : value a.abs = |value a| := by
  cases a with
  | finite s m e hm =>
      rw [value_finite, abs_mul, abs_unit, one_mul, abs_of_nonneg (by positivity)]
      change unit .positive * _ = _
      rw [unit, one_mul]
  | _ => simp [UnpackedFloat.abs, value]

-- Sums are computed over the smaller exponent, as differences are.
theorem add_finite (s t : Sign) {m n : Nat} {e f : Int} (hm : 0 < m) (hn : 0 < n) :
    UnpackedFloat.add Format.binary64 (.finite s m e hm) (.finite t n f hn) =
      UnpackedFloat.normalize Format.binary64
        (s.apply (m <<< (e - min e f).toNat : Nat) + t.apply (n <<< (f - min e f).toNat : Nat))
        (min e f) .positive :=
  rfl

theorem rounds_add (ha : Canonical a) (hb : Canonical b) (hfa : a.isFinite = true)
    (hfb : b.isFinite = true) :
    Rounds (UnpackedFloat.add Format.binary64 a b) (value a + value b) := by
  cases a with
  | zero s =>
      cases b with
      | zero t => cases s <;> cases t <;> exact rounds_zero _ (by simp)
      | finite t n f hn => exact rounds_self (a := .finite t n f hn) hb rfl (zero_add _)
      | _ => cases hfb
  | finite s m e hm =>
      cases b with
      | zero t => exact rounds_self ha rfl (add_zero _)
      | finite t n f hn =>
          have hvalue : value (.finite s m e hm) + value (.finite t n f hn) =
              (s.apply (m <<< (e - min e f).toNat : Nat) +
                t.apply (n <<< (f - min e f).toNat : Nat) : Int) * 2 ^ min e f := by
            rw [value_finite, value_finite, ← shiftLeft_mul_zpow m (min_le_left e f),
              ← shiftLeft_mul_zpow n (min_le_right e f), Int.cast_add, cast_apply, cast_apply]
            rw [Int.cast_natCast, Int.cast_natCast, right_distrib, mul_assoc, mul_assoc]
          rw [add_finite, hvalue]
          exact rounds_normalize _ _ _
      | _ => cases hfb
  | _ => cases hfa

-- The root is computed with all its bits.
theorem sqrt_parts {m : Nat} (e : Int) (hm : 0 < m) :
    ∃ M target accuracy, UnpackedFloat.sqrt Format.binary64 (.finite .positive m e hm) =
        roundWithAccuracy Format.binary64 .positive (Nat.sqrt M) target accuracy ∧
      (M : ℝ) * 2 ^ (2 * target) = m * 2 ^ e ∧ (2 ^ 52 ≤ Nat.sqrt M ∨ target ≤ -1074) := by
  let target := min (e / 2) (max ((totalExponent m e + 1) / 2 - 53) (-1074))
  have htarget : 2 * target ≤ e := by omega
  refine ⟨m <<< (e - 2 * target).toNat, target, _, rfl, shiftLeft_mul_zpow m htarget, ?_⟩
  by_cases hcoarse : target ≤ -1074
  · exact .inr hcoarse
  · left
    have hlog : 104 ≤ m.log2 + (e - 2 * target).toNat := by
      simp only [target, totalExponent] at hcoarse ⊢
      omega
    rw [Nat.le_sqrt, ← Nat.pow_add]
    exact two_pow_le_shiftLeft hm hlog

theorem rounds_sqrt (hfinite : a.isFinite = true) (hpos : 0 ≤ value a) :
    Rounds (UnpackedFloat.sqrt Format.binary64 a) √(value a) := by
  cases a with
  | zero s => exact rounds_zero s (by simp)
  | finite s m e hm =>
      have hsize : (0 : ℝ) < m * 2 ^ e := by positivity
      cases s with
      | negative =>
          rw [value_finite, unit] at hpos
          linarith
      | positive =>
          obtain ⟨M, target, accuracy, hsqrt, hsame, hfine⟩ := sqrt_parts e hm
          have hvalue : √(value (.finite .positive m e hm)) =
              unit .positive * (√M * 2 ^ target) := by
            rw [value_finite, unit, one_mul, ← hsame, Real.sqrt_mul (by positivity),
              mul_comm 2 target, zpow_mul, zpow_ofNat, Real.sqrt_sq (by positivity), one_mul]
          rw [hsqrt, hvalue]
          refine rounds_roundWithAccuracy .positive accuracy ?_ ?_ hfine
          · gcongr
            exact Real.nat_sqrt_le_real_sqrt
          · gcongr
            exact Real.real_sqrt_le_nat_sqrt_succ
  | _ => cases hfinite

end Unpacked

section Doubles

variable {x y : Float}

theorem le_iff_toReal (hx : x.isFinite = true) (hy : y.isFinite = true) :
    x ≤ y ↔ toReal x ≤ toReal y := by
  rw [← not_lt_iff_le (isNaN_of_isFinite hy) (isNaN_of_isFinite hx), lt_iff_toReal hy hx, not_lt]

theorem approximates_add (hx : x.isFinite = true) (hy : y.isFinite = true) :
    Approximates (x + y) (toReal x + toReal y) :=
  approximates_of_rounds (rounds_add (canonical_unpack _) (canonical_unpack _) hx hy) rfl

theorem approximates_sqrt (hx : x.isFinite = true) (hpos : 0 ≤ toReal x) :
    Approximates x.sqrt √(toReal x) :=
  approximates_of_rounds (rounds_sqrt hx hpos) rfl

theorem unpack_abs (x : Float) : x.abs.toModel.unpack = x.toModel.unpack.abs := by
  change (Float.Model.pack x.toModel.unpack.abs).unpack = _
  rcases abs_eq_or_neg x.toModel.unpack with h | h
  · rw [h, unpack_pack_unpack]
  · rw [h, unpack_pack_neg (canonical_unpack _), unpack_pack_unpack]

@[simp] theorem toReal_neg (x : Float) : toReal (-x) = -toReal x := by
  rw [toReal, unpack_neg, value_neg, toReal]

@[simp] theorem toReal_abs (x : Float) : toReal x.abs = |toReal x| := by
  rw [toReal, unpack_abs, value_abs, toReal]

@[simp] theorem isFinite_neg (x : Float) : (-x).isFinite = x.isFinite := by
  change (-x).toModel.unpack.isFinite = x.toModel.unpack.isFinite
  rw [unpack_neg]
  cases x.toModel.unpack <;> rfl

@[simp] theorem isFinite_abs (x : Float) : x.abs.isFinite = x.isFinite := by
  change x.abs.toModel.unpack.isFinite = x.toModel.unpack.isFinite
  rw [unpack_abs]
  cases x.toModel.unpack <;> rfl

theorem isNaN_abs (x : Float) : x.abs.isNaN = x.isNaN := by
  change x.abs.toModel.unpack.isNaN = x.toModel.unpack.isNaN
  rw [unpack_abs]
  cases x.toModel.unpack <;> rfl

theorem toReal_two : toReal 2.0 = 2 := by
  have hunpack : (2.0 : Float).toModel.unpack =
      .finite .positive 4503599627370496 (-51) (by decide) := rfl
  rw [toReal, hunpack, value_finite, unit]
  norm_num

theorem toReal_zero : toReal 0.0 = 0 := rfl

theorem toReal_one : toReal 1.0 = 1 := by
  have hunpack : (1.0 : Float).toModel.unpack =
      .finite .positive 4503599627370496 (-52) (by decide) := rfl
  rw [toReal, hunpack, value_finite, unit]
  norm_num

theorem toReal_thousand : toReal 1000.0 = 1000 := by
  have hunpack : (1000.0 : Float).toModel.unpack =
      .finite .positive 8796093022208000 (-43) (by decide) := by rfl
  rw [toReal, hunpack, value_finite, unit]
  norm_num

end Doubles

section Numbers

variable {v w a b : ℝ}

theorem abs_mul_le_mul (hv : |v| ≤ a) (hw : |w| ≤ b) : |v * w| ≤ a * b := by
  rw [abs_mul]
  exact mul_le_mul hv hw (abs_nonneg _) ((abs_nonneg _).trans hv)

theorem abs_sq_sub_sq_le (hsum : |v + w| ≤ a) (h : |v - w| ≤ b) : |v ^ 2 - w ^ 2| ≤ a * b := by
  rw [sq_sub_sq]
  exact abs_mul_le_mul hsum h

end Numbers

-- A double that is finite and not larger than a bound.
structure Bounded (x : Float) (bound : ℝ) : Prop where
  finite : x.isFinite = true
  abs_le : |toReal x| ≤ bound

-- A double that is finite and close to the number it was computed for.
structure Estimates (x : Float) (v error : ℝ) : Prop where
  finite : x.isFinite = true
  near : |toReal x - v| ≤ error

theorem Approximates.estimates {x : Float} {v a : ℝ} (h : Approximates x v) (hv : |v| ≤ a)
    (ha : a ≤ 2 ^ 200) : Estimates x v (2 ^ (-52 : ℤ) * (a + 1)) :=
  have hfinite := h.isFinite (hv.trans ha)
  ⟨hfinite, (h.near hfinite).abs_sub_le hv⟩

theorem Estimates.bounded {x : Float} {v e a : ℝ} (h : Estimates x v e) (ha : |v| + e ≤ a) :
    Bounded x a := by
  have htriangle := abs_sub_abs_le_abs_sub (toReal x) v
  exact ⟨h.finite, by linarith [h.near]⟩

theorem Estimates.weaken {x : Float} {v d e : ℝ} (h : Estimates x v d) (hle : d ≤ e) :
    Estimates x v e :=
  ⟨h.finite, h.near.trans hle⟩

namespace Bounded

variable {x y : Float} {a b : ℝ}

theorem estimates (hx : Bounded x a) : Estimates x (toReal x) 0 := ⟨hx.finite, by simp⟩

-- What one operation adds to the error, by the size of its operands.
theorem estimates_add (hx : Bounded x a) (hy : Bounded y b) (hbound : a + b ≤ 2 ^ 200) :
    Estimates (x + y) (toReal x + toReal y) (2 ^ (-52 : ℤ) * (a + b + 1)) :=
  (approximates_add hx.finite hy.finite).estimates
    ((abs_add_le _ _).trans (add_le_add hx.abs_le hy.abs_le)) hbound

theorem estimates_sub (hx : Bounded x a) (hy : Bounded y b) (hbound : a + b ≤ 2 ^ 200) :
    Estimates (x - y) (toReal x - toReal y) (2 ^ (-52 : ℤ) * (a + b + 1)) :=
  (approximates_sub hx.finite hy.finite).estimates
    ((abs_sub _ _).trans (add_le_add hx.abs_le hy.abs_le)) hbound

theorem estimates_mul (hx : Bounded x a) (hy : Bounded y b) (hbound : a * b ≤ 2 ^ 200) :
    Estimates (x * y) (toReal x * toReal y) (2 ^ (-52 : ℤ) * (a * b + 1)) :=
  (approximates_mul hx.finite hy.finite).estimates (abs_mul_le_mul hx.abs_le hy.abs_le) hbound

theorem sq_le (hx : Bounded x a) : |toReal x ^ 2| ≤ a ^ 2 := by
  rw [sq, sq]
  exact abs_mul_le_mul hx.abs_le hx.abs_le

theorem estimates_sq (hx : Bounded x a) (hbound : a ^ 2 ≤ 2 ^ 200) :
    Estimates (x * x) (toReal x ^ 2) (2 ^ (-52 : ℤ) * (a ^ 2 + 1)) := by
  rw [sq] at hbound ⊢
  rw [sq]
  exact hx.estimates_mul hx hbound

-- Rounding does not make a number more than twice as large.
theorem sub (hx : Bounded x a) (hy : Bounded y b) (hbound : a + b ≤ 2 ^ 200) :
    Bounded (x - y) (2 * (a + b) + 1) := by
  have hsum : |toReal x - toReal y| ≤ a + b :=
    (abs_sub _ _).trans (add_le_add hx.abs_le hy.abs_le)
  have happroximates := approximates_sub hx.finite hy.finite
  have hfinite := happroximates.isFinite (hsum.trans hbound)
  exact ⟨hfinite, (happroximates.near hfinite).abs_le.trans (by gcongr)⟩

theorem add (hx : Bounded x a) (hy : Bounded y b) (hbound : a + b ≤ 2 ^ 200) :
    Bounded (x + y) (2 * (a + b) + 1) := by
  have hsum : |toReal x + toReal y| ≤ a + b :=
    (abs_add_le _ _).trans (add_le_add hx.abs_le hy.abs_le)
  have happroximates := approximates_add hx.finite hy.finite
  have hfinite := happroximates.isFinite (hsum.trans hbound)
  exact ⟨hfinite, (happroximates.near hfinite).abs_le.trans (by gcongr)⟩

theorem mul (hx : Bounded x a) (hy : Bounded y b) (hbound : a * b ≤ 2 ^ 200) :
    Bounded (x * y) (2 * (a * b) + 1) := by
  have hproduct := abs_mul_le_mul hx.abs_le hy.abs_le
  have happroximates := approximates_mul hx.finite hy.finite
  have hfinite := happroximates.isFinite (hproduct.trans hbound)
  exact ⟨hfinite, (happroximates.near hfinite).abs_le.trans (by gcongr)⟩

theorem weaken (hx : Bounded x a) (hle : a ≤ b) : Bounded x b := ⟨hx.finite, hx.abs_le.trans hle⟩

theorem neg (hx : Bounded x a) : Bounded (-x) a :=
  ⟨(isFinite_neg x).trans hx.finite, by rw [toReal_neg, abs_neg]; exact hx.abs_le⟩

end Bounded

-- Whether a number is in the range that coordinates are drawn from, as it can be computed.
theorem bounded_of_le {x : Float} (h : x.isFinite = true ∧ x.abs ≤ 1000.0) : Bounded x 1000 := by
  obtain ⟨hfinite, hle⟩ := h
  rw [le_iff_toReal ((isFinite_abs x).trans hfinite) rfl, toReal_abs, toReal_thousand] at hle
  exact ⟨hfinite, hle⟩

namespace Estimates

variable {x y : Float} {v w d e a b : ℝ}

-- Errors add up over sums and differences, beside what rounding these adds.
theorem add (hx : Estimates x v d) (hy : Estimates y w e) (ha : |v| + d ≤ a) (hb : |w| + e ≤ b)
    (hbound : a + b ≤ 2 ^ 200) :
    Estimates (x + y) (v + w) (2 ^ (-52 : ℤ) * (a + b + 1) + (d + e)) := by
  have hsum := (hx.bounded ha).estimates_add (hy.bounded hb) hbound
  refine ⟨hsum.finite, (abs_sub_le _ (toReal x + toReal y) _).trans (add_le_add hsum.near ?_)⟩
  rw [add_sub_add_comm]
  exact (abs_add_le _ _).trans (add_le_add hx.near hy.near)

theorem sub (hx : Estimates x v d) (hy : Estimates y w e) (ha : |v| + d ≤ a) (hb : |w| + e ≤ b)
    (hbound : a + b ≤ 2 ^ 200) :
    Estimates (x - y) (v - w) (2 ^ (-52 : ℤ) * (a + b + 1) + (d + e)) := by
  have hdifference := (hx.bounded ha).estimates_sub (hy.bounded hb) hbound
  refine ⟨hdifference.finite,
    (abs_sub_le _ (toReal x - toReal y) _).trans (add_le_add hdifference.near ?_)⟩
  rw [sub_sub_sub_comm]
  exact (abs_sub _ _).trans (add_le_add hx.near hy.near)

end Estimates

-- The root of a number not much above a million.
theorem sqrt_estimate {x : Float} (hx : x.isFinite = true) (hpos : 0 ≤ toReal x)
    (hle : toReal x ≤ 1000001) :
    Bounded x.sqrt 1002 ∧ |toReal x.sqrt ^ 2 - toReal x| ≤ 2 ^ (-30 : ℤ) := by
  have hnonneg := Real.sqrt_nonneg (toReal x)
  have hroot : √(toReal x) ≤ 1001 := by
    rw [Real.sqrt_le_left (by norm_num)]
    linarith
  have hestimate := (approximates_sqrt hx hpos).estimates (a := 1001)
    (by rwa [abs_of_nonneg hnonneg]) (by norm_num)
  have hsum : |toReal x.sqrt + √(toReal x)| ≤ 2003 := by
    have hnear := hestimate.near
    rw [abs_le] at hnear ⊢
    norm_num at hnear ⊢
    constructor <;> linarith
  have hsquare := abs_sq_sub_sq_le hsum hestimate.near
  rw [Real.sq_sqrt hpos] at hsquare
  refine ⟨hestimate.bounded ?_, hsquare.trans (by norm_num)⟩
  rw [abs_of_nonneg hnonneg]
  norm_num
  linarith

end PlaneSketch.Binary

import PlaneSketch.Proofs.Binary.Accuracy
import PlaneSketch.Proofs.Geometry.Distance

namespace PlaneSketch

open Binary

theorem isFinite_tolerance : (Scalar.tolerance : Float).isFinite = true := rfl

theorem le_toReal_tolerance : 2 ^ (-17 : ℤ) ≤ toReal Scalar.tolerance := by
  have hunpack : (Scalar.tolerance : Float).toModel.unpack =
      .finite .positive 5902958103587057 (-69) (by decide) := rfl
  rw [toReal, hunpack, value_finite, unit]
  norm_num

namespace Point

-- A vector that was divided by its length: some scale gives it, up to rounding.
structure Scaled (p n : Point Float) (t : ℝ) : Prop where
  nonneg : 0 ≤ t
  bounded : t ≤ 2 ^ 17
  short_x : |toReal p.x * t| ≤ 2
  short_y : |toReal p.y * t| ≤ 2
  finite : n.IsFinite
  near_x : |toReal n.x - toReal p.x * t| ≤ 2 ^ (-50 : ℤ)
  near_y : |toReal n.y - toReal p.y * t| ≤ 2 ^ (-50 : ℤ)

namespace Scaled

variable {p q n k : Point Float} {t u : ℝ}

theorem zero {s s' : Float.Model.UnpackedFloat.Sign} (hx : n.x.toModel.unpack = .zero s)
    (hy : n.y.toModel.unpack = .zero s') : Scaled p n 0 where
  nonneg := le_rfl
  bounded := by positivity
  short_x := by simp
  short_y := by simp
  finite := ⟨congrArg Float.Model.UnpackedFloat.isFinite hx,
    congrArg Float.Model.UnpackedFloat.isFinite hy⟩
  near_x := by simp [toReal, hx]
  near_y := by simp [toReal, hy]

theorem abs_x_le (h : Scaled p n t) : |toReal n.x| ≤ 3 := by
  have htriangle := abs_sub_abs_le_abs_sub (toReal n.x) (toReal p.x * t)
  have hsmall : (2 : ℝ) ^ (-50 : ℤ) ≤ 1 := by norm_num
  linarith [h.near_x, h.short_x]

theorem abs_y_le (h : Scaled p n t) : |toReal n.y| ≤ 3 := by
  have htriangle := abs_sub_abs_le_abs_sub (toReal n.y) (toReal p.y * t)
  have hsmall : (2 : ℝ) ^ (-50 : ℤ) ≤ 1 := by norm_num
  linarith [h.near_y, h.short_y]

-- Products that agree once they are rounded still agree, up to rounding, when they are scaled.
theorem abs_cross_mul_le (hp : Scaled p n t) (hq : Scaled q k u) {r : ℝ}
    (hleft : Near r (toReal p.x * toReal q.y)) (hright : Near r (toReal p.y * toReal q.x)) :
    |(toReal p.x * toReal q.y - toReal p.y * toReal q.x) * (t * u)| ≤ 2 ^ (-48 : ℤ) := by
  have hscale : 0 ≤ t * u := mul_nonneg hp.nonneg hq.nonneg
  have hbound : t * u ≤ 2 ^ 17 * 2 ^ 17 :=
    mul_le_mul hp.bounded hq.bounded hq.nonneg (by positivity)
  have hproduct {x y : ℝ} (hx : |x * t| ≤ 2) (hy : |y * u| ≤ 2) : |x * y| * (t * u) ≤ 4 := by
    have hmul := mul_le_mul hx hy (abs_nonneg _) zero_le_two
    rw [← abs_mul, mul_mul_mul_comm, abs_mul, abs_of_nonneg hscale] at hmul
    linarith
  have hxy := hproduct hp.short_x hq.short_y
  have hyx := hproduct hp.short_y hq.short_x
  generalize toReal p.x * toReal q.y = v at *
  generalize toReal p.y * toReal q.x = w at *
  have htiny : (2 : ℝ) ^ (-1074 : ℤ) ≤ 2 ^ (-100 : ℤ) :=
    zpow_le_zpow_right₀ one_le_two (by norm_num)
  have hgap : |v - w| ≤ 2 ^ (-52 : ℤ) * (|v| + |w|) + 2 * 2 ^ (-100 : ℤ) := by
    have htriangle := abs_sub_le v r w
    rw [abs_sub_comm v r] at htriangle
    rw [Near] at hleft hright
    linarith
  calc |(v - w) * (t * u)| = |v - w| * (t * u) := by rw [abs_mul, abs_of_nonneg hscale]
    _ ≤ (2 ^ (-52 : ℤ) * (|v| + |w|) + 2 * 2 ^ (-100 : ℤ)) * (t * u) := by gcongr
    _ = 2 ^ (-52 : ℤ) * (|v| * (t * u) + |w| * (t * u)) + 2 * 2 ^ (-100 : ℤ) * (t * u) := by ring
    _ ≤ 2 ^ (-52 : ℤ) * (4 + 4) + 2 * 2 ^ (-100 : ℤ) * (2 ^ 17 * 2 ^ 17) := by gcongr
    _ ≤ 2 ^ (-48 : ℤ) := by norm_num

-- So the cross product of the scaled vectors is small as well.
theorem abs_cross_le (hp : Scaled p n t) (hq : Scaled q k u) {r : ℝ}
    (hleft : Near r (toReal p.x * toReal q.y)) (hright : Near r (toReal p.y * toReal q.x)) :
    |toReal n.x * toReal k.y - toReal n.y * toReal k.x| ≤ 2 ^ (-46 : ℤ) := by
  have hmul {v w b c : ℝ} (hv : |v| ≤ b) (hw : |w| ≤ c) : |v * w| ≤ b * c := by
    rw [abs_mul]
    exact mul_le_mul hv hw (abs_nonneg _) ((abs_nonneg _).trans hv)
  have hfirst := hmul hp.near_x hq.abs_y_le
  have hsecond := hmul hp.short_x hq.near_y
  have hthird := hmul hp.near_y hq.abs_x_le
  have hfourth := hmul hp.short_y hq.near_x
  have hfifth := hp.abs_cross_mul_le hq hleft hright
  have hsplit : toReal n.x * toReal k.y - toReal n.y * toReal k.x =
      (toReal n.x - toReal p.x * t) * toReal k.y + toReal p.x * t * (toReal k.y - toReal q.y * u) -
        (toReal n.y - toReal p.y * t) * toReal k.x -
        toReal p.y * t * (toReal k.x - toReal q.x * u) +
        (toReal p.x * toReal q.y - toReal p.y * toReal q.x) * (t * u) := by ring
  rw [hsplit]
  rw [abs_le] at hfirst hsecond hthird hfourth hfifth ⊢
  norm_num at hfirst hsecond hthird hfourth hfifth ⊢
  constructor <;> linarith

end Scaled

variable {p : Point Float}

-- A length is about as large as each of the coordinates, or larger.
theorem abs_le_norm (hp : p.IsFinite) (hnorm : p.norm.isFinite = true)
    (hlong : ¬p.norm < Scalar.tolerance) :
    2 ^ (-17 : ℤ) ≤ toReal p.norm ∧ |toReal p.x| ≤ 2 * toReal p.norm ∧
      |toReal p.y| ≤ 2 * toReal p.norm := by
  rw [lt_iff_toReal hnorm isFinite_tolerance, not_lt] at hlong
  have hlow := le_toReal_tolerance.trans hlong
  have hgap := ((approximates_hypot hp.x hp.y).near hnorm).abs_sub_le le_rfl
  rw [abs_of_nonneg (Real.sqrt_nonneg _)] at hgap
  have hx : |toReal p.x| ≤ √(toReal p.x ^ 2 + toReal p.y ^ 2) :=
    Real.abs_le_sqrt (le_add_of_nonneg_right (sq_nonneg _))
  have hy : |toReal p.y| ≤ √(toReal p.x ^ 2 + toReal p.y ^ 2) :=
    Real.abs_le_sqrt (le_add_of_nonneg_left (sq_nonneg _))
  generalize √(toReal p.x ^ 2 + toReal p.y ^ 2) = length at *
  have hlength : length ≤ 2 * toReal p.norm := by
    have hle := (neg_le_abs _).trans hgap
    change -(toReal p.norm - length) ≤ _ at hle
    norm_num at hle hlow
    linarith
  exact ⟨hlow, hx.trans hlength, hy.trans hlength⟩

-- A vector without a length, short or endless, is scaled by zero.
theorem exists_scaled_normalize (hp : p.IsFinite) : ∃ t, Scaled p p.normalize t := by
  by_cases hshort : p.norm < Scalar.tolerance
  · have hnormalize : p.normalize = origin := if_pos hshort
    rw [hnormalize]
    exact ⟨0, .zero rfl rfl⟩
  have hnormalize : p.normalize = ⟨p.x / p.norm, p.y / p.norm⟩ := if_neg hshort
  rw [hnormalize]
  cases hnorm : p.norm.isFinite with
  | false =>
      have hnan : p.norm.isNaN = false := by
        rw [norm]
        refine (isNaN_hypot _ _).trans ?_
        rw [isNaN_of_isFinite hp.x, isNaN_of_isFinite hp.y]
        rfl
      obtain ⟨s, hs⟩ := unpack_div_of_infinite hp.x hnorm hnan
      obtain ⟨t, ht⟩ := unpack_div_of_infinite hp.y hnorm hnan
      exact ⟨0, .zero hs ht⟩
  | true =>
      obtain ⟨hlow, hx, hy⟩ := abs_le_norm hp hnorm hshort
      have hpos : 0 < toReal p.norm := lt_of_lt_of_le (by positivity) hlow
      have hscaled {x : Float} (hx : x.isFinite = true) (hbound : |toReal x| ≤ 2 * toReal p.norm) :
          |toReal x * (toReal p.norm)⁻¹| ≤ 2 ∧ (x / p.norm).isFinite = true ∧
            |toReal (x / p.norm) - toReal x * (toReal p.norm)⁻¹| ≤ 2 ^ (-50 : ℤ) := by
        rw [← div_eq_mul_inv]
        have hshort : |toReal x / toReal p.norm| ≤ 2 := by
          rwa [abs_div, abs_of_pos hpos, div_le_iff₀ hpos]
        have hquotient := approximates_div hx hnorm hpos.ne'
        have hfinite := hquotient.isFinite (hshort.trans (by norm_num))
        refine ⟨hshort, hfinite, ((hquotient.near hfinite).abs_sub_le hshort).trans ?_⟩
        norm_num
      obtain ⟨hshortX, hfiniteX, hnearX⟩ := hscaled hp.x hx
      obtain ⟨hshortY, hfiniteY, hnearY⟩ := hscaled hp.y hy
      have hbounded : (toReal p.norm)⁻¹ ≤ 2 ^ 17 := by
        rw [inv_le_comm₀ hpos (by positivity)]
        norm_num at hlow ⊢
        exact hlow
      exact ⟨_, (inv_pos.mpr hpos).le, hbounded, hshortX, hshortY, ⟨hfiniteX, hfiniteY⟩, hnearX,
        hnearY⟩

-- What is left of a small cross product when it is computed.
theorem abs_cross_lt {q n k : Point Float} {t u : ℝ} (hp : Scaled p n t) (hq : Scaled q k u)
    (h : |toReal n.x * toReal k.y - toReal n.y * toReal k.x| ≤ 2 ^ (-46 : ℤ)) :
    Scalar.abs (n.cross k) < Scalar.tolerance := by
  have hproduct {x y : Float} (hx : x.isFinite = true) (hy : y.isFinite = true)
      (hshortX : |toReal x| ≤ 3) (hshortY : |toReal y| ≤ 3) :
      (x * y).isFinite = true ∧ |toReal (x * y) - toReal x * toReal y| ≤ 2 ^ (-48 : ℤ) := by
    have hbound : |toReal x * toReal y| ≤ 3 * 3 := by
      rw [abs_mul]
      exact mul_le_mul hshortX hshortY (abs_nonneg _) (by norm_num)
    have hmul := approximates_mul hx hy
    have hfinite := hmul.isFinite (hbound.trans (by norm_num))
    refine ⟨hfinite, ((hmul.near hfinite).abs_sub_le hbound).trans ?_⟩
    norm_num
  obtain ⟨hleft, hnearLeft⟩ := hproduct hp.finite.x hq.finite.y hp.abs_x_le hq.abs_y_le
  obtain ⟨hright, hnearRight⟩ := hproduct hp.finite.y hq.finite.x hp.abs_y_le hq.abs_x_le
  have hsub := approximates_sub hleft hright
  have hdifference : |toReal (n.x * k.y) - toReal (n.y * k.x)| ≤ 2 ^ (-45 : ℤ) := by
    rw [abs_le] at h hnearLeft hnearRight ⊢
    norm_num at h hnearLeft hnearRight ⊢
    constructor <;> linarith
  have hfinite : (n.cross k).isFinite = true := hsub.isFinite (hdifference.trans (by norm_num))
  have hcross : |toReal (n.cross k)| ≤ 2 ^ (-44 : ℤ) := by
    have hnear : |toReal (n.cross k) - _| ≤ _ := (hsub.near hfinite).abs_sub_le hdifference
    rw [abs_le] at hdifference hnear ⊢
    norm_num at hdifference hnear ⊢
    constructor <;> linarith
  have habs := approximates_abs hfinite
  have hshort : |(|toReal (n.cross k)|)| ≤ 2 ^ (-44 : ℤ) := by rwa [abs_abs]
  have hfinite' : (Scalar.abs (n.cross k)).isFinite = true :=
    habs.isFinite (hshort.trans (by norm_num))
  rw [lt_iff_toReal hfinite' isFinite_tolerance]
  refine lt_of_lt_of_le ?_ le_toReal_tolerance
  have hnear : |toReal (Scalar.abs (n.cross k)) - _| ≤ _ := (habs.near hfinite').abs_sub_le hshort
  have hle := (le_abs_self _).trans hnear
  norm_num at hle hcross ⊢
  linarith

-- Vectors that the rounded products cannot tell from parallel ones are taken for parallel.
theorem cross_normalize_lt {p q : Point Float} (h : (p.cross q == 0.0) = true) :
    Scalar.abs (p.normalize.cross q.normalize) < Scalar.tolerance := by
  obtain ⟨s, hs⟩ := unpack_of_beq_zero h
  obtain ⟨hleft, hright, hsame⟩ := toReal_eq_of_sub hs
  obtain ⟨hpx, hqy⟩ := isFinite_of_mul hleft
  obtain ⟨hpy, hqx⟩ := isFinite_of_mul hright
  obtain ⟨t, ht⟩ := exists_scaled_normalize (p := p) ⟨hpx, hpy⟩
  obtain ⟨u, hu⟩ := exists_scaled_normalize (p := q) ⟨hqx, hqy⟩
  have hcross := ht.abs_cross_le hu ((approximates_mul hpx hqy).near hleft)
    (hsame ▸ (approximates_mul hpy hqx).near hright)
  exact abs_cross_lt ht hu hcross

end Point

end PlaneSketch

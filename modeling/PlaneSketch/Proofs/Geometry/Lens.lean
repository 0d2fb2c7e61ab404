import PlaneSketch.Proofs.Geometry.Secant

namespace PlaneSketch

open Binary

-- Where the common chord of two circles cuts the line of centers, by the gap between the centers,
-- the radii, and how far the chord is from the first center.
structure Chord (gap r s a : ℝ) : Prop where
  pos : 0 < gap
  first : 0 ≤ r
  second : 0 ≤ s
  offset : 2 * gap * a = gap ^ 2 + r ^ 2 - s ^ 2

theorem le_abs_add_of_sq {v w e : ℝ} (he : 0 ≤ e) (h : v ^ 2 ≤ w ^ 2 + e ^ 2) : v ≤ |w| + e := by
  have hsquare : v ^ 2 ≤ (|w| + e) ^ 2 := by
    rw [add_sq, sq_abs]
    have hproduct : 0 ≤ 2 * |w| * e := by positivity
    linarith
  exact (le_abs_self v).trans (abs_le_of_sq_le_sq hsquare (by positivity))

theorem abs_near {v w r : ℝ} (hoff : |v - w| ≤ 1 / 4000) (h : |(|w| - r)| ≤ 6 / 10 ^ 4) :
    |(|v| - r)| ≤ 9 / 10 ^ 4 := by
  have htriangle := abs_le.mp ((abs_abs_sub_abs_le v w).trans hoff)
  rw [abs_le] at h ⊢
  norm_num at h htriangle ⊢
  constructor <;> linarith

section Factors

variable {g x y z k t : ℝ}

theorem abs_le_of_two_mul (hg : 0 < g) (h : 2 * g * x = y * z) (hy : |y| ≤ t)
    (hz : |z| ≤ 2 * g * k) : |x| ≤ t * k := by
  refine le_of_mul_le_mul_left ?_ (show 0 < 2 * g by linarith)
  calc 2 * g * |x| = |y * z| := by rw [← h, abs_mul, abs_of_pos (show 0 < 2 * g by linarith)]
    _ ≤ t * (2 * g * k) := abs_mul_le_mul hy hz
    _ = 2 * g * (t * k) := by ring

-- The other factor is not much larger than the first, but for twice some length.
theorem abs_le_of_drift {m : ℝ} (hg : 0 < g) (h : 2 * g * x = y * z) (hy : |y| ≤ t)
    (hz : |z| ≤ 4 * g + 2 * m) (hm : |y| * m ≤ k * g) : |x| ≤ 2 * t + k := by
  refine le_of_mul_le_mul_left ?_ (show 0 < 2 * g by linarith)
  calc 2 * g * |x| = |y| * |z| := by
        rw [← abs_mul, ← h, abs_mul, abs_of_pos (show 0 < 2 * g by linarith)]
    _ ≤ |y| * (4 * g + 2 * m) := by gcongr
    _ = 4 * g * |y| + 2 * (|y| * m) := by ring
    _ ≤ 4 * g * t + 2 * (k * g) := by gcongr
    _ = 2 * g * (2 * t + k) := by ring

theorem le_of_two_mul (hg : 0 < g) (h : 2 * g * x = y * z) (hy : y ≤ t) (ht : 0 ≤ t) (hz : 0 ≤ z)
    (hzk : z ≤ 2 * g * k) : x ≤ t * k := by
  refine le_of_mul_le_mul_left ?_ (show 0 < 2 * g by linarith)
  calc 2 * g * x = y * z := h
    _ ≤ t * (2 * g * k) := by gcongr
    _ = 2 * g * (t * k) := by ring

end Factors

namespace Chord

variable {g r s a t k : ℝ}

-- The same chord as it is seen from the other center.
theorem swap (h : Chord g r s a) : Chord g s r (g - a) where
  pos := h.pos
  first := h.second
  second := h.first
  offset := by linear_combination -h.offset

theorem abs_abs_sub_le (h : Chord g r s a) : |(|a| - r)| ≤ |a - r| ∧ |(|a| - r)| ≤ |a + r| := by
  have hr := abs_of_nonneg h.first
  constructor
  · have hpos := abs_abs_sub_abs_le a r
    rwa [hr] at hpos
  · rw [← sub_neg_eq_add]
    have hneg := abs_abs_sub_abs_le a (-r)
    rwa [abs_neg, hr] at hneg

-- Circles that touch from outside do so at the chord.
theorem outside (h : Chord g r s a) (ht : t ≤ 2 * g) (hsum : |g - (r + s)| ≤ t) :
    |(|a| - r)| ≤ t * 2 := by
  have hbound := abs_le.mp hsum
  refine h.abs_abs_sub_le.1.trans (abs_le_of_two_mul h.pos
    (show 2 * g * (a - r) = (g - (r + s)) * (g - r + s) by linear_combination h.offset) hsum ?_)
  rw [abs_le]
  constructor <;> linarith [h.pos, h.first, h.second]

-- Circles that touch from inside do so at the chord, but how well the chord is known depends on
-- the smaller radius and the gap.
theorem inside (h : Chord g r s a) (ht : t ≤ 2 * g) (hdifference : |g - (|r - s|)| ≤ t)
    (hround : |g - (|r - s|)| * min r s ≤ k * g) : |(|a| - r)| ≤ 2 * t + k := by
  rcases le_total s r with hle | hle
  · rw [min_eq_right hle, abs_of_nonneg (sub_nonneg.mpr hle)] at hround
    rw [abs_of_nonneg (sub_nonneg.mpr hle)] at hdifference
    have htriangle := abs_sub (g - (r - s)) (2 * s)
    rw [abs_of_nonneg (show 0 ≤ 2 * s by linarith [h.second])] at htriangle
    exact h.abs_abs_sub_le.1.trans (abs_le_of_drift h.pos
      (show 2 * g * (a - r) = (g - (r - s)) * (g - (r - s) - 2 * s) by
        linear_combination h.offset) hdifference (by linarith [h.pos]) hround)
  · rw [min_eq_left hle, abs_of_nonpos (sub_nonpos.mpr hle)] at hround
    rw [abs_of_nonpos (sub_nonpos.mpr hle)] at hdifference
    have htriangle := abs_sub (2 * g + 2 * r) (g - -(r - s))
    rw [abs_of_nonneg (show 0 ≤ 2 * g + 2 * r by linarith [h.pos, h.first])] at htriangle
    exact h.abs_abs_sub_le.2.trans (abs_le_of_drift h.pos
      (show 2 * g * (a + r) = (g - -(r - s)) * (2 * g + 2 * r - (g - -(r - s))) by
        linear_combination h.offset) hdifference (by linarith) hround)

-- The chord of circles that meet is not further away than their points.
theorem within (h : Chord g r s a) (ht : 0 ≤ t) (hsum : g ≤ r + s)
    (hdifference : |r - s| ≤ g + t) (hk : r + s + g ≤ 2 * g * k) : |a| ≤ r + t * k := by
  have hpos := h.pos
  have hr := h.first
  have hs := h.second
  have hbound := abs_le.mp hdifference
  have hlow : -a - r ≤ t * k := le_of_two_mul hpos
    (show 2 * g * (-a - r) = (s - r - g) * (r + s + g) by linear_combination -h.offset)
    (by linarith) ht (by linarith) hk
  have hhigh : a - r ≤ t * k := le_of_two_mul hpos
    (show 2 * g * (a - r) = (r - s - g) * (r + s - g) by linear_combination h.offset)
    (by linarith) ht (by linarith) (by linarith)
  rw [abs_le']
  constructor <;> linarith

end Chord

theorem abs_root_sub_one_le {q : ℝ} (hq : 0 ≤ q) : |√q - 1| ≤ |q - 1| := by
  have hsplit : q - 1 = (√q + 1) * (√q - 1) := by linear_combination -Real.sq_sqrt hq
  have hroot := Real.sqrt_nonneg q
  rw [hsplit, abs_mul, abs_of_nonneg (show 0 ≤ √q + 1 by positivity)]
  exact le_mul_of_one_le_left (abs_nonneg _) (by linarith)

-- A unit vector and the one to its right are the axes of other coordinates, up to rounding.
theorem polar_estimate {x y f g t s e : ℝ} (hx : |x - (f * t + g * s)| ≤ e)
    (hy : |y - (g * t - f * s)| ≤ e) (hunit : |f ^ 2 + g ^ 2 - 1| ≤ 2 ^ (-47 : ℤ)) :
    |√(x ^ 2 + y ^ 2) - √(t ^ 2 + s ^ 2)| ≤ 2 ^ (-47 : ℤ) * √(t ^ 2 + s ^ 2) + 2 * e := by
  have hturn : (f * t + g * s) ^ 2 + (g * t - f * s) ^ 2 =
      (f ^ 2 + g ^ 2) * (t ^ 2 + s ^ 2) := by ring
  have hmoved := abs_root_sub_root_le x y (f * t + g * s) (g * t - f * s)
  have hroot := (abs_root_sub_one_le (show 0 ≤ f ^ 2 + g ^ 2 by positivity)).trans hunit
  rw [hturn, Real.sqrt_mul (by positivity)] at hmoved
  have hscaled := abs_mul_le_mul hroot (abs_of_nonneg (Real.sqrt_nonneg (t ^ 2 + s ^ 2))).le
  rw [sub_mul, one_mul] at hscaled
  have htriangle := abs_sub_le √(x ^ 2 + y ^ 2) (√(f ^ 2 + g ^ 2) * √(t ^ 2 + s ^ 2))
    √(t ^ 2 + s ^ 2)
  linarith

-- A quotient that was computed for the offset of a chord.
theorem offset_estimate {g n m v a : ℝ} (hlow : 1 / 10 ^ 5 ≤ g) (hv : |v| ≤ 6202 * g)
    (hn : |n - v| ≤ 39 / 10 ^ 10) (hm : |m - 2 * g| ≤ 2 ^ (-51 : ℤ) * 1.01 * g) :
    0 < m ∧ |n / m| ≤ 3102 ∧ (|a - n / m| ≤ 2 ^ (-52 : ℤ) * 3103 →
      |2 * g * a - v| ≤ 2 ^ (-37 : ℤ) * g + 39 / 10 ^ 10) := by
  have hg : 0 < g := lt_of_lt_of_le (by norm_num) hlow
  have hm' := abs_le.mp hm
  have hpos : 0 < m := by
    norm_num at hm'
    linarith
  have hshort : |n / m| ≤ 3102 := by
    rw [abs_div, abs_of_pos hpos, div_le_iff₀ hpos]
    have htriangle := abs_sub_abs_le_abs_sub n v
    norm_num at hm' hn hlow ⊢
    linarith
  refine ⟨hpos, hshort, fun ha => ?_⟩
  have hback : n / m * m = n := div_mul_cancel₀ n hpos.ne'
  have hsplit : 2 * g * a - v = g * (2 * (a - n / m)) - n / m * (m - 2 * g) + (n - v) := by
    linear_combination hback
  have hfirst := abs_mul_le_mul (abs_of_pos hg).le (abs_mul_le_mul (abs_of_pos two_pos).le ha)
  have hsecond := abs_mul_le_mul hshort hm
  rw [hsplit]
  rw [abs_le] at hfirst hsecond hn ⊢
  norm_num at hfirst hsecond hn ⊢
  constructor <;> linarith

theorem bounded_tolerance : Bounded Scalar.tolerance 1 := by
  obtain ⟨hlow, hhigh⟩ := toReal_tolerance
  refine ⟨isFinite_tolerance, ?_⟩
  rw [abs_le]
  norm_num at hlow hhigh ⊢
  constructor <;> linarith

-- What the program takes for equal is about equal.
theorem abs_sub_le_of_lt_tolerance {x y : Float} {v : ℝ} (hx : Bounded x 2001)
    (hy : Estimates y v (2 ^ (-41 : ℤ))) (hv : |v| ≤ 2000)
    (h : Scalar.abs (x - y) < Scalar.tolerance) : |toReal x - v| ≤ 11 / 10 ^ 6 := by
  have hsub := hx.estimates.sub hy (a := 2001) (b := 2001) (by linarith [hx.abs_le])
    (by norm_num; linarith) (by norm_num)
  change Float.abs (x - y) < _ at h
  rw [lt_iff_toReal ((isFinite_abs _).trans hsub.finite) isFinite_tolerance, toReal_abs] at h
  have hshort := abs_le.mp (h.le.trans toReal_tolerance.2)
  have hnear := abs_le.mp hsub.near
  rw [abs_le]
  norm_num at hshort hnear ⊢
  constructor <;> linarith

namespace Circle

variable {c d : Circle Float}

-- The circles touch from inside, or the one is inside the other by less than shows.
def TouchesInside (c d : Circle Float) : Prop :=
  c.gap d < c.difference d ∨ Scalar.abs (c.gap d - c.difference d) < Scalar.tolerance

instance : Decidable (c.TouchesInside d) := inferInstanceAs (Decidable (_ ∨ _))

-- How far the circles are from touching so exactly.
noncomputable def misfit (c d : Circle Float) : ℝ :=
  |toReal (c.gap d) - (|toReal c.radius - toReal d.radius|)|

-- Circles in range that neither coincide nor lie apart or one in the other.
structure Meets (c d : Circle Float) : Prop where
  first : c.Within 1000
  second : d.Within 1000
  apart : ¬c.gap d < Scalar.tolerance
  close : ¬c.sumRadii d + Scalar.tolerance < c.gap d
  wide : ¬c.gap d < c.difference d - Scalar.tolerance

namespace Meets

theorem sum_le (h : c.Meets d) : |toReal c.radius + toReal d.radius| ≤ 2000 := by
  linarith [abs_add_le (toReal c.radius) (toReal d.radius), h.first.radius.abs_le,
    h.second.radius.abs_le]

theorem difference_le (h : c.Meets d) : |(|toReal c.radius - toReal d.radius|)| ≤ 2000 := by
  rw [abs_abs]
  linarith [abs_sub (toReal c.radius) (toReal d.radius), h.first.radius.abs_le,
    h.second.radius.abs_le]

theorem estimates_sumRadii (h : c.Meets d) :
    Estimates (c.sumRadii d) (toReal c.radius + toReal d.radius) (2 ^ (-41 : ℤ)) :=
  (h.first.radius.estimates_add h.second.radius (by norm_num)).weaken (by norm_num)

theorem estimates_difference (h : c.Meets d) :
    Estimates (c.difference d) |toReal c.radius - toReal d.radius| (2 ^ (-41 : ℤ)) := by
  have hsub := (h.first.radius.estimates_sub h.second.radius (by norm_num)).weaken
    (e := 2 ^ (-41 : ℤ)) (by norm_num)
  refine ⟨(isFinite_abs _).trans hsub.finite, ?_⟩
  change |toReal (c.radius - d.radius).abs - _| ≤ _
  rw [toReal_abs]
  exact (abs_abs_sub_abs_le _ _).trans hsub.near

theorem heading (h : c.Meets d) : Heading (c.forward d) (toReal (c.gap d))
    (toReal d.center.x - toReal c.center.x) (toReal d.center.y - toReal c.center.y) :=
  (heading_normalize h.first.center h.second.center (by norm_num) h.apart).2

theorem isFinite_gap (h : c.Meets d) : (c.gap d).isFinite = true :=
  (heading_normalize h.first.center h.second.center (by norm_num) h.apart).1

theorem le_gap (h : c.Meets d) : 1 / 10 ^ 5 ≤ toReal (c.gap d) := by
  have hapart := h.apart
  rw [lt_iff_toReal h.isFinite_gap isFinite_tolerance, not_lt] at hapart
  exact toReal_tolerance.1.trans hapart

theorem gap_le (h : c.Meets d) :
    toReal (c.gap d) ≤ toReal c.radius + toReal d.radius + 11 / 10 ^ 6 := by
  have hle := h.sum_le
  have hclose := h.close
  have hreach := h.estimates_sumRadii.add bounded_tolerance.estimates (a := 2001) (b := 1)
    (by norm_num; linarith) (by linarith [bounded_tolerance.abs_le]) (by norm_num)
  have htolerance := toReal_tolerance.2
  have hhigh := (abs_le.mp hreach.near).2
  rw [lt_iff_toReal hreach.finite h.isFinite_gap, not_lt] at hclose
  norm_num at hhigh htolerance ⊢
  linarith

theorem bounded_gap (h : c.Meets d) : Bounded (c.gap d) 2001 := by
  refine ⟨h.isFinite_gap, ?_⟩
  rw [abs_of_pos h.heading.pos]
  have hle := h.gap_le
  have hsum := (le_abs_self _).trans h.sum_le
  norm_num at hle
  linarith

theorem difference_le_gap (h : c.Meets d) :
    |toReal c.radius - toReal d.radius| ≤ toReal (c.gap d) + 11 / 10 ^ 6 := by
  have hle := h.difference_le
  have hwide := h.wide
  have hreach := h.estimates_difference.sub bounded_tolerance.estimates (a := 2001) (b := 1)
    (by norm_num at hle ⊢; linarith) (by linarith [bounded_tolerance.abs_le]) (by norm_num)
  have htolerance := toReal_tolerance.2
  have hlow := (abs_le.mp hreach.near).1
  rw [lt_iff_toReal h.isFinite_gap hreach.finite, not_lt] at hwide
  norm_num at hlow htolerance ⊢
  linarith

theorem misfit_le (h : c.Meets d) (hinside : c.TouchesInside d) : c.misfit d ≤ 11 / 10 ^ 6 := by
  have hdifference := h.estimates_difference
  unfold misfit
  obtain hlt | hlt := hinside
  · rw [lt_iff_toReal h.isFinite_gap hdifference.finite] at hlt
    have hle := h.difference_le_gap
    have hhigh := (abs_le.mp hdifference.near).2
    rw [abs_le]
    norm_num at hle hhigh ⊢
    constructor <;> linarith
  · exact abs_sub_le_of_lt_tolerance h.bounded_gap hdifference h.difference_le hlt

theorem estimates_numerator (h : c.Meets d) :
    Estimates (c.gap d * c.gap d + c.radius * c.radius - d.radius * d.radius)
      (toReal (c.gap d) ^ 2 + toReal c.radius ^ 2 - toReal d.radius ^ 2) (39 / 10 ^ 10) := by
  have hgap := h.bounded_gap.sq_le
  have hfirst := h.first.radius.sq_le
  have hsecond := h.second.radius.sq_le
  have htriangle := abs_add_le (toReal (c.gap d) ^ 2) (toReal c.radius ^ 2)
  have hsum := (h.bounded_gap.estimates_sq (by norm_num)).add
    (h.first.radius.estimates_sq (by norm_num)) (a := 4004002) (b := 1000001)
    (by norm_num at hgap ⊢; linarith) (by norm_num at hfirst ⊢; linarith) (by norm_num)
  refine (hsum.sub (h.second.radius.estimates_sq (by norm_num)) (a := 5004004) (b := 1000001)
    ?_ ?_ (by norm_num)).weaken (by norm_num)
  · norm_num at hgap hfirst htriangle ⊢
    linarith
  · norm_num at hsecond ⊢
    linarith

-- The radii do not differ by more than the gap, so the offset is not far either.
theorem numerator_le (h : c.Meets d) :
    |toReal (c.gap d) ^ 2 + toReal c.radius ^ 2 - toReal d.radius ^ 2| ≤
      6202 * toReal (c.gap d) := by
  have hlow := h.le_gap
  have hhigh := (le_abs_self _).trans h.bounded_gap.abs_le
  have hproduct := abs_mul_le_mul h.difference_le_gap h.sum_le
  have hsquare : toReal (c.gap d) ^ 2 ≤ 2001 * toReal (c.gap d) := by
    rw [sq]
    exact mul_le_mul_of_nonneg_right hhigh h.heading.pos.le
  have hpos := sq_nonneg (toReal (c.gap d))
  rw [show toReal (c.gap d) ^ 2 + toReal c.radius ^ 2 - toReal d.radius ^ 2 =
    toReal (c.gap d) ^ 2 + (toReal c.radius - toReal d.radius) *
      (toReal c.radius + toReal d.radius) by ring]
  rw [abs_le] at hproduct ⊢
  norm_num at hlow hproduct ⊢
  constructor <;> linarith

theorem double_gap (h : c.Meets d) : (2.0 * c.gap d).isFinite = true ∧
    |toReal (2.0 * c.gap d) - 2 * toReal (c.gap d)| ≤
      2 ^ (-51 : ℤ) * 1.01 * toReal (c.gap d) := by
  have hpos := h.heading.pos
  have hdouble := approximates_mul (x := 2.0) rfl h.isFinite_gap
  have habs : |2 * toReal (c.gap d)| = 2 * toReal (c.gap d) := abs_of_pos (by linarith)
  have hhigh := (le_abs_self _).trans h.bounded_gap.abs_le
  rw [toReal_two] at hdouble
  have hfinite := hdouble.isFinite (by rw [habs]; norm_num; linarith)
  have hnear := hdouble.near hfinite
  have hleast := least_le (le_trans (by norm_num) h.heading.long)
  rw [Near, habs] at hnear
  refine ⟨hfinite, ?_⟩
  generalize (2 : ℝ) ^ (-1074 : ℤ) = least at *
  norm_num at hnear hleast ⊢
  linarith

-- How well the offset of the chord is known, as the numerator of its quotient.
theorem estimates_chordOffset (h : c.Meets d) : Bounded (c.chordOffset d) 3103 ∧
    |2 * toReal (c.gap d) * toReal (c.chordOffset d) -
      (toReal (c.gap d) ^ 2 + toReal c.radius ^ 2 - toReal d.radius ^ 2)| ≤
        2 ^ (-37 : ℤ) * toReal (c.gap d) + 39 / 10 ^ 10 := by
  have hnumerator := h.estimates_numerator
  obtain ⟨hfinite, hdouble⟩ := h.double_gap
  obtain ⟨hpos, hshort, hoffset⟩ := offset_estimate (a := toReal (c.chordOffset d)) h.le_gap
    h.numerator_le hnumerator.near hdouble
  have hquotient := (approximates_div hnumerator.finite hfinite hpos.ne').estimates hshort
    (by norm_num)
  refine ⟨hquotient.bounded ?_, hoffset (hquotient.near.trans (by norm_num))⟩
  norm_num
  linarith

theorem estimates_heightSquared (h : c.Meets d) : Estimates (c.heightSquared d)
    (toReal c.radius ^ 2 - toReal (c.chordOffset d) ^ 2) (2 ^ (-27 : ℤ)) := by
  obtain ⟨hoffset, -⟩ := h.estimates_chordOffset
  have hfirst := h.first.radius.sq_le
  have hsquare := hoffset.sq_le
  refine ((h.first.radius.estimates_sq (by norm_num)).sub (hoffset.estimates_sq (by norm_num))
    (a := 1000001) (b := 9628611) ?_ ?_ (by norm_num)).weaken (by norm_num)
  · norm_num at hfirst ⊢
    linarith
  · norm_num at hsquare ⊢
    linarith

-- The distances of a place from both centers, by its other coordinates.
theorem dist_estimate (h : c.Meets d) {p : Point Float} {t s : ℝ} (ht : |t| ≤ 3103)
    (hs : |s| ≤ 1002)
    (hx : |toReal p.x - (toReal c.center.x + toReal (c.forward d).x * t +
      toReal (c.forward d).y * s)| ≤ 2 ^ (-38 : ℤ))
    (hy : |toReal p.y - (toReal c.center.y + toReal (c.forward d).y * t -
      toReal (c.forward d).x * s)| ≤ 2 ^ (-38 : ℤ)) :
    |p.real.dist c.center.real - √(t ^ 2 + s ^ 2)| ≤ 1 / 10 ^ 9 ∧
      |p.real.dist d.center.real - √((t - toReal (c.gap d)) ^ 2 + s ^ 2)| ≤ 1 / 10 ^ 9 := by
  have hgap := h.bounded_gap.abs_le
  have hlong {t : ℝ} (ht : |t| ≤ 5104) : √(t ^ 2 + s ^ 2) ≤ 6106 := by
    rw [Real.sqrt_le_left (by norm_num)]
    have ht := sq_le_sq' (abs_le.mp ht).1 (abs_le.mp ht).2
    have hs := sq_le_sq' (abs_le.mp hs).1 (abs_le.mp hs).2
    linarith
  have hback : |t - toReal (c.gap d)| ≤ 5104 := by linarith [abs_sub t (toReal (c.gap d))]
  have hfirst := hlong (by linarith : |t| ≤ 5104)
  have hsecond := hlong hback
  have halongX := h.heading.along_x
  have halongY := h.heading.along_y
  have hlength := (le_abs_self _).trans hgap
  rw [Point.dist_eq, Point.dist_eq]
  constructor
  · refine (polar_estimate (e := 2 ^ (-38 : ℤ)) ?_ ?_ h.heading.unit).trans ?_
    · convert hx using 2
      change toReal p.x - toReal c.center.x - _ = _
      ring
    · convert hy using 2
      change toReal p.y - toReal c.center.y - _ = _
      ring
    · norm_num at hfirst ⊢
      linarith
  · refine (polar_estimate (e := 2 ^ (-37 : ℤ)) ?_ ?_ h.heading.unit).trans ?_
    · change |toReal p.x - toReal d.center.x - _| ≤ _
      rw [abs_le] at hx halongX ⊢
      norm_num at hx halongX ⊢
      constructor <;> linarith
    · change |toReal p.y - toReal d.center.y - _| ≤ _
      rw [abs_le] at hy halongY ⊢
      norm_num at hy halongY ⊢
      constructor <;> linarith
    · norm_num at hsecond ⊢
      linarith

theorem estimates_chordBase (h : c.Meets d) :
    Estimates (c.chordBase d).x (toReal c.center.x + toReal (c.forward d).x *
      toReal (c.chordOffset d)) (2 ^ (-39 : ℤ)) ∧
    Estimates (c.chordBase d).y (toReal c.center.y + toReal (c.forward d).y *
      toReal (c.chordOffset d)) (2 ^ (-39 : ℤ)) := by
  obtain ⟨hoffset, -⟩ := h.estimates_chordOffset
  have heading := h.heading
  exact ⟨(estimates_add_mul h.first.center.x ⟨heading.finite.x, heading.short_x⟩ hoffset
      (by norm_num) (by norm_num)).weaken (by norm_num),
    (estimates_add_mul h.first.center.y ⟨heading.finite.y, heading.short_y⟩ hoffset
      (by norm_num) (by norm_num)).weaken (by norm_num)⟩

theorem within_chordBase (h : c.Meets d) : (c.chordBase d).Within 4136 := by
  obtain ⟨hoffset, -⟩ := h.estimates_chordOffset
  obtain ⟨hx, hy⟩ := h.estimates_chordBase
  have hbounded {x u f : Float} (hu : Bounded u 1000) (hf : |toReal f| ≤ 1.01)
      (hx : Estimates x (toReal u + toReal f * toReal (c.chordOffset d)) (2 ^ (-39 : ℤ))) :
      Bounded x 4136 := by
    have hproduct := abs_mul_le_mul hf hoffset.abs_le
    refine hx.bounded ?_
    have htriangle := abs_add_le (toReal u) (toReal f * toReal (c.chordOffset d))
    have hsmall : (2 : ℝ) ^ (-39 : ℤ) ≤ 1 := by norm_num
    linarith [hu.abs_le]
  exact ⟨hbounded h.first.center.x h.heading.short_x hx,
    hbounded h.first.center.y h.heading.short_y hy⟩

theorem chordBase_near (h : c.Meets d) : (c.chordBase d).IsFinite ∧
    |(c.chordBase d).real.dist c.center.real - (|toReal (c.chordOffset d)|)| ≤ 1 / 10 ^ 9 ∧
    |(c.chordBase d).real.dist d.center.real -
      (|toReal (c.chordOffset d) - toReal (c.gap d)|)| ≤ 1 / 10 ^ 9 := by
  obtain ⟨hoffset, -⟩ := h.estimates_chordOffset
  obtain ⟨hx, hy⟩ := h.estimates_chordBase
  have hsmall : (2 : ℝ) ^ (-39 : ℤ) ≤ 2 ^ (-38 : ℤ) := by norm_num
  have hdist := h.dist_estimate (p := c.chordBase d) (s := 0) hoffset.abs_le (by norm_num)
    (by rw [mul_zero, add_zero]; exact hx.near.trans hsmall)
    (by rw [mul_zero, sub_zero]; exact hy.near.trans hsmall)
  rw [zero_pow two_ne_zero, add_zero, add_zero, Real.sqrt_sq_eq_abs, Real.sqrt_sq_eq_abs] at hdist
  exact ⟨⟨hx.finite, hy.finite⟩, hdist⟩

theorem across_near (h : c.Meets d) {s : Float} (hs : Bounded s 1002) :
    (c.across d (c.chordOffset d) s).IsFinite ∧
    |(c.across d (c.chordOffset d) s).real.dist c.center.real -
      √(toReal (c.chordOffset d) ^ 2 + toReal s ^ 2)| ≤ 1 / 10 ^ 9 ∧
    |(c.across d (c.chordOffset d) s).real.dist d.center.real -
      √((toReal (c.chordOffset d) - toReal (c.gap d)) ^ 2 + toReal s ^ 2)| ≤ 1 / 10 ^ 9 := by
  obtain ⟨hoffset, -⟩ := h.estimates_chordOffset
  obtain ⟨hbaseX, hbaseY⟩ := h.estimates_chordBase
  have heading := h.heading
  have hbase := h.within_chordBase
  have hforward : Bounded (c.forward d).x 1.01 := ⟨heading.finite.x, heading.short_x⟩
  have hx : Estimates (c.across d (c.chordOffset d) s).x
      (toReal (c.chordBase d).x + toReal (c.forward d).y * toReal s) _ :=
    estimates_add_mul hbase.x ⟨heading.finite.y, heading.short_y⟩ hs (by norm_num) (by norm_num)
  have hy : Estimates (c.across d (c.chordOffset d) s).y
      (toReal (c.chordBase d).y + toReal (-(c.forward d).x) * toReal s) _ :=
    estimates_add_mul hbase.y hforward.neg hs (by norm_num) (by norm_num)
  refine ⟨⟨hx.finite, hy.finite⟩, h.dist_estimate hoffset.abs_le hs.abs_le ?_ ?_⟩
  · have hnear := abs_le.mp hx.near
    have hnear' := abs_le.mp hbaseX.near
    rw [abs_le]
    norm_num at hnear hnear' ⊢
    constructor <;> linarith
  · have hnear := abs_le.mp hy.near
    have hnear' := abs_le.mp hbaseY.near
    rw [toReal_neg] at hnear
    rw [abs_le]
    norm_num at hnear hnear' ⊢
    constructor <;> linarith

-- The exact chord, with how far off the computed offset is.
theorem exists_chord (h : c.Meets d) :
    ∃ a, Chord (toReal (c.gap d)) (toReal c.radius) (toReal d.radius) a ∧
      |toReal (c.chordOffset d) - a| ≤ 1 / 4000 := by
  have hpos := h.heading.pos
  have hlow := h.le_gap
  obtain ⟨-, hoffset⟩ := h.estimates_chordOffset
  have hchord : 2 * toReal (c.gap d) *
      ((toReal (c.gap d) ^ 2 + toReal c.radius ^ 2 - toReal d.radius ^ 2) /
        (2 * toReal (c.gap d))) =
      toReal (c.gap d) ^ 2 + toReal c.radius ^ 2 - toReal d.radius ^ 2 := by field_simp
  refine ⟨_, ⟨hpos, h.first.nonneg, h.second.nonneg, hchord⟩, ?_⟩
  rw [← hchord, ← mul_sub, abs_mul, abs_of_pos (show 0 < 2 * toReal (c.gap d) by linarith)]
    at hoffset
  refine le_of_mul_le_mul_left (hoffset.trans ?_) (show 0 < 2 * toReal (c.gap d) by linarith)
  norm_num at hlow ⊢
  linarith

-- Where the square of half the chord is lost to rounding, the chord is where the circles are.
theorem flat_near (h : c.Meets d) (hflat : c.heightSquared d ≤ 0.0)
    (hinside : ¬c.TouchesInside d)
    (hsum : toReal (c.gap d) ≤ toReal c.radius + toReal d.radius) :
    |(|toReal (c.chordOffset d)| - toReal c.radius)| ≤ 9 / 10 ^ 4 ∧
      |(|toReal (c.chordOffset d) - toReal (c.gap d)| - toReal d.radius)| ≤ 9 / 10 ^ 4 := by
  obtain ⟨a, hchord, hoff⟩ := h.exists_chord
  obtain ⟨-, hoffset⟩ := h.estimates_chordOffset
  have hlow := h.le_gap
  have hgap := (le_abs_self _).trans h.bounded_gap.abs_le
  have hradii := (le_abs_self _).trans h.sum_le
  have hheight := h.estimates_heightSquared
  have hdifference : |toReal c.radius - toReal d.radius| ≤
      toReal (c.gap d) + 2 ^ (-41 : ℤ) := by
    have hle := (not_or.mp hinside).1
    rw [lt_iff_toReal h.isFinite_gap h.estimates_difference.finite, not_lt] at hle
    have hnear := (abs_le.mp h.estimates_difference.near).1
    linarith
  have hfirst := hchord.within (t := 2 ^ (-41 : ℤ)) (k := 21 * 10 ^ 7) (by positivity) hsum
    hdifference (by norm_num at hlow ⊢; linarith)
  have hsecond := hchord.swap.within (t := 2 ^ (-41 : ℤ)) (k := 21 * 10 ^ 7) (by positivity)
    (by linarith) (by rwa [abs_sub_comm]) (by norm_num at hlow ⊢; linarith)
  rw [le_iff_toReal hheight.finite rfl, toReal_zero] at hflat
  have hsquare := (abs_le.mp hheight.near).1
  have hnumerator := abs_le.mp hoffset
  have hfirst' : toReal c.radius ≤ |toReal (c.chordOffset d)| + 2 / 10 ^ 4 := by
    refine le_abs_add_of_sq (by norm_num) ?_
    norm_num at hsquare ⊢
    linarith
  have hsecond' : toReal d.radius ≤
      |toReal (c.chordOffset d) - toReal (c.gap d)| + 2 / 10 ^ 4 := by
    refine le_abs_add_of_sq (by norm_num) ?_
    norm_num at hsquare hnumerator ⊢
    linarith
  have hout := (abs_sub_abs_le_abs_sub (toReal (c.chordOffset d)) a).trans hoff
  have hback := abs_sub_abs_le_abs_sub (toReal (c.chordOffset d) - toReal (c.gap d))
    (a - toReal (c.gap d))
  rw [sub_sub_sub_cancel_right, abs_sub_comm a] at hback
  rw [abs_le, abs_le]
  norm_num at hfirst hsecond ⊢
  refine ⟨⟨?_, ?_⟩, ?_, ?_⟩ <;> linarith

-- Where the circles are taken for touching.
theorem base_near (h : c.Meets d) (htouching : c.Touching d)
    (hround : c.TouchesInside d → c.misfit d * min (toReal c.radius) (toReal d.radius) ≤
      55 / 10 ^ 5 * toReal (c.gap d)) :
    |(|toReal (c.chordOffset d)| - toReal c.radius)| ≤ 9 / 10 ^ 4 ∧
      |(|toReal (c.chordOffset d) - toReal (c.gap d)| - toReal d.radius)| ≤ 9 / 10 ^ 4 := by
  obtain ⟨a, hchord, hoff⟩ := h.exists_chord
  have hlow := h.le_gap
  have hcoarse : 11 / 10 ^ 6 ≤ 2 * toReal (c.gap d) := by
    norm_num at hlow ⊢
    linarith
  have hnear (hfirst : |(|a| - toReal c.radius)| ≤ 6 / 10 ^ 4)
      (hsecond : |(|toReal (c.gap d) - a| - toReal d.radius)| ≤ 6 / 10 ^ 4) :
      |(|toReal (c.chordOffset d)| - toReal c.radius)| ≤ 9 / 10 ^ 4 ∧
        |(|toReal (c.chordOffset d) - toReal (c.gap d)| - toReal d.radius)| ≤ 9 / 10 ^ 4 := by
    rw [abs_sub_comm _ a] at hsecond
    exact ⟨abs_near hoff hfirst, abs_near (by rwa [sub_sub_sub_cancel_right]) hsecond⟩
  have houtside (hsum : |toReal (c.gap d) - (toReal c.radius + toReal d.radius)| ≤ 11 / 10 ^ 6) :=
    hnear ((hchord.outside hcoarse hsum).trans (by norm_num))
      ((hchord.swap.outside hcoarse (by rwa [add_comm])).trans (by norm_num))
  have hinside (hin : c.TouchesInside d) :=
    have hdifference := h.misfit_le hin
    hnear ((hchord.inside hcoarse hdifference (hround hin)).trans (by norm_num))
      ((hchord.swap.inside hcoarse (by rwa [abs_sub_comm (toReal d.radius)])
        (by rw [min_comm, abs_sub_comm (toReal d.radius)]; exact hround hin)).trans (by norm_num))
  by_cases hin : c.TouchesInside d
  · exact hinside hin
  rcases le_total (toReal (c.gap d)) (toReal c.radius + toReal d.radius) with hle | hge
  · obtain hlt | hlt | hflat := htouching
    · exact houtside (abs_sub_le_of_lt_tolerance h.bounded_gap h.estimates_sumRadii h.sum_le hlt)
    · exact absurd (.inr hlt) hin
    · exact h.flat_near hflat hin hle
  · refine houtside ?_
    rw [abs_of_nonneg (sub_nonneg.mpr hge)]
    linarith [h.gap_le]

-- Where they are not.
theorem roots_near (h : c.Meets d) (htouching : ¬c.Touching d) {s : Float}
    (hs : s = Scalar.sqrt (c.heightSquared d) ∨ s = -Scalar.sqrt (c.heightSquared d)) :
    Bounded s 1002 ∧
    |√(toReal (c.chordOffset d) ^ 2 + toReal s ^ 2) - toReal c.radius| ≤ 9 / 10 ^ 4 ∧
      |√((toReal (c.chordOffset d) - toReal (c.gap d)) ^ 2 + toReal s ^ 2) - toReal d.radius| ≤
        9 / 10 ^ 4 := by
  have hheight := h.estimates_heightSquared
  obtain ⟨-, hoffset⟩ := h.estimates_chordOffset
  have hradius := (le_abs_self _).trans h.first.radius.sq_le
  have hgap := (le_abs_self _).trans h.bounded_gap.abs_le
  have hnear := abs_le.mp hheight.near
  have hpos := (not_or.mp (not_or.mp htouching).2).2
  rw [le_iff_toReal hheight.finite rfl, not_le, toReal_zero] at hpos
  obtain ⟨hroot, hsquare⟩ := sqrt_estimate hheight.finite hpos.le (by
    have hle := hnear.2
    norm_num at hradius hle ⊢
    linarith [sq_nonneg (toReal (c.chordOffset d))])
  have hsame : Bounded s 1002 ∧ toReal s ^ 2 = toReal (c.heightSquared d).sqrt ^ 2 := by
    obtain rfl | rfl := hs
    · exact ⟨hroot, rfl⟩
    · refine ⟨hroot.neg, ?_⟩
      rw [toReal_neg, neg_sq]
      rfl
  have hsquare := abs_le.mp hsquare
  rw [← hsame.2] at hsquare
  have hnumerator := abs_le.mp hoffset
  refine ⟨hsame.1, abs_sub_le_of_sq (Real.sqrt_nonneg _) h.first.nonneg (by norm_num) ?_,
    abs_sub_le_of_sq (Real.sqrt_nonneg _) h.second.nonneg (by norm_num) ?_⟩
  · rw [Real.sq_sqrt (by positivity), abs_le]
    norm_num at hnear hsquare ⊢
    constructor <;> linarith
  · rw [Real.sq_sqrt (by positivity), abs_le]
    norm_num at hnear hsquare hnumerator ⊢
    constructor <;> linarith

end Meets

end Circle

-- Where two circles meet is on both of them up to a thousandth, however they lie to each other,
-- unless they are taken for touching from inside and do not. The window for that is on the gap
-- between the centers, while how far the chord moves when the gap is a little off depends on the
-- radii as well, and on how small the gap is beside them.
theorem meetCircle_near {c d : Circle Float} (hc : c.Within 1000) (hd : d.Within 1000)
    (hround : c.TouchesInside d → c.misfit d * min (toReal c.radius) (toReal d.radius) ≤
      55 / 10 ^ 5 * toReal (c.gap d))
    {p : Point Float} (hp : p ∈ c.meetCircle d) :
    p.IsFinite ∧ c.miss p ≤ 1 / 1000 ∧ d.miss p ≤ 1 / 1000 := by
  rw [Circle.meetCircle_eq] at hp
  split at hp
  · cases hp
  rename_i hapart
  split at hp
  · cases hp
  rename_i hclose
  split at hp
  · cases hp
  rename_i hwide
  have h : c.Meets d := ⟨hc, hd, hapart, hclose, hwide⟩
  have hmiss {v w r : ℝ} (hdist : |v - w| ≤ 1 / 10 ^ 9) (hw : |w - r| ≤ 9 / 10 ^ 4) :
      |v - r| ≤ 1 / 1000 := by
    have htriangle := abs_sub_le v w r
    norm_num at hdist hw ⊢
    linarith
  split at hp
  · rename_i htouching
    rw [List.mem_singleton] at hp
    subst hp
    obtain ⟨hfinite, hfirst, hsecond⟩ := h.chordBase_near
    obtain ⟨hfirst', hsecond'⟩ := h.base_near htouching hround
    exact ⟨hfinite, hmiss hfirst hfirst', hmiss hsecond hsecond'⟩
  · rename_i htouching
    have hroot {s : Float}
        (hs : s = Scalar.sqrt (c.heightSquared d) ∨ s = -Scalar.sqrt (c.heightSquared d))
        (hp : p = c.across d (c.chordOffset d) s) :
        p.IsFinite ∧ c.miss p ≤ 1 / 1000 ∧ d.miss p ≤ 1 / 1000 := by
      obtain ⟨hbounded, hfirst', hsecond'⟩ := h.roots_near htouching hs
      obtain ⟨hfinite, hfirst, hsecond⟩ := h.across_near hbounded
      subst hp
      exact ⟨hfinite, hmiss hfirst hfirst', hmiss hsecond hsecond'⟩
    simp only [List.mem_cons, List.not_mem_nil, or_false] at hp
    exact hp.elim (hroot (.inl rfl)) (hroot (.inr rfl))

-- A circle of radius 999 that touches one of radius 1000 from inside.
theorem meetCircle_near_inscribed :
    Circle.TouchesInside ⟨⟨0.0, 0.0⟩, 1000.0⟩ ⟨⟨1.0, 0.0⟩, 999.0⟩ ∧
      (⟨1000.0, 0.0⟩ : Point Float) ∈
        Circle.meetCircle ⟨⟨0.0, 0.0⟩, 1000.0⟩ ⟨⟨1.0, 0.0⟩, 999.0⟩ ∧
      Circle.miss ⟨⟨0.0, 0.0⟩, 1000.0⟩ ⟨1000.0, 0.0⟩ ≤ 1 / 1000 ∧
      Circle.miss ⟨⟨1.0, 0.0⟩, 999.0⟩ ⟨1000.0, 0.0⟩ ≤ 1 / 1000 := by
  have hmem : (⟨1000.0, 0.0⟩ : Point Float) ∈
      Circle.meetCircle ⟨⟨0.0, 0.0⟩, 1000.0⟩ ⟨⟨1.0, 0.0⟩, 999.0⟩ := by decide +kernel
  have hgap : Circle.gap ⟨⟨0.0, 0.0⟩, 1000.0⟩ ⟨⟨1.0, 0.0⟩, 999.0⟩ = (1.0 : Float) := by
    decide +kernel
  have hradius : toReal 999.0 = 999 := by
    have hunpack : (999.0 : Float).toModel.unpack =
        .finite .positive 8787296929185792 (-43) (by decide) := by rfl
    rw [toReal, hunpack, value_finite, unit]
    norm_num
  refine ⟨by decide +kernel, hmem, (meetCircle_near ?_ ?_ (fun _ => ?_) hmem).2⟩
  · exact Circle.within_of_le (Point.within_of_le (by decide +kernel) (by decide +kernel))
      (by decide +kernel) (by decide +kernel)
  · exact Circle.within_of_le (Point.within_of_le (by decide +kernel) (by decide +kernel))
      (by decide +kernel) (by decide +kernel)
  · rw [Circle.misfit, hgap, hradius, toReal_thousand, toReal_one]
    norm_num

-- Two circles of radius about a thousand with their centers hardly apart cross near (600, -800) and
-- (600, 800), and are taken for touching between these two.
theorem meetCircle_between :
    Circle.Within ⟨⟨0.0, 0.0⟩, 1000.0⟩ 1000 ∧ Circle.Within ⟨⟨1.5e-5, 0.0⟩, 999.999991⟩ 1000 ∧
      (⟨600.0000052154064, 0.0⟩ : Point Float) ∈
        Circle.meetCircle ⟨⟨0.0, 0.0⟩, 1000.0⟩ ⟨⟨1.5e-5, 0.0⟩, 999.999991⟩ ∧
      1 / 1000 < Circle.miss ⟨⟨0.0, 0.0⟩, 1000.0⟩ ⟨600.0000052154064, 0.0⟩ := by
  refine ⟨Circle.within_of_le (Point.within_of_le (by decide +kernel) (by decide +kernel))
      (by decide +kernel) (by decide +kernel),
    Circle.within_of_le (Point.within_of_le (by decide +kernel) (by decide +kernel))
      (by decide +kernel) (by decide +kernel), by decide +kernel, ?_⟩
  have hbase : (600.0000052154064 : Float).toModel.unpack =
      .finite .positive 5277655859200000 (-43) (by decide) := by rfl
  rw [Circle.miss, Point.dist_eq]
  simp only [Point.real, toReal_zero, sub_self, sub_zero, ne_eq, OfNat.ofNat_ne_zero,
    not_false_eq_true, zero_pow, add_zero, Real.sqrt_sq_eq_abs, toReal_thousand]
  rw [toReal, hbase, value_finite, unit]
  norm_num [abs_of_pos, abs_of_neg]

end PlaneSketch

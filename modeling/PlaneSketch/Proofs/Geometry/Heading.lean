import Mathlib.Analysis.Complex.Norm
import PlaneSketch.Proofs.Binary.Estimate
import PlaneSketch.Proofs.Geometry.Crossing
import PlaneSketch.Proofs.Geometry.Exact
import PlaneSketch.Proofs.Geometry.Helper

namespace PlaneSketch

open Binary

namespace Point

-- The position that the coordinates stand for.
noncomputable def real (p : Point Float) : Point ℝ := ⟨toReal p.x, toReal p.y⟩

structure Within (p : Point Float) (bound : ℝ) : Prop where
  x : Bounded p.x bound
  y : Bounded p.y bound

theorem Within.isFinite {p : Point Float} {bound : ℝ} (h : p.Within bound) : p.IsFinite :=
  ⟨h.x.finite, h.y.finite⟩

theorem within_of_le {p : Point Float} (hx : p.x.isFinite = true ∧ p.x.abs ≤ 1000.0)
    (hy : p.y.isFinite = true ∧ p.y.abs ≤ 1000.0) : p.Within 1000 :=
  ⟨bounded_of_le hx, bounded_of_le hy⟩

end Point

-- The length of a vector changes by no more than its coordinates do.
theorem abs_root_sub_root_le (x y u v : ℝ) :
    |√(x ^ 2 + y ^ 2) - √(u ^ 2 + v ^ 2)| ≤ |x - u| + |y - v| := by
  have htriangle := abs_norm_sub_norm_le (⟨x, y⟩ : ℂ) ⟨u, v⟩
  rw [Complex.norm_eq_sqrt_sq_add_sq, Complex.norm_eq_sqrt_sq_add_sq] at htriangle
  exact htriangle.trans (Complex.norm_le_abs_re_add_abs_im _)

theorem abs_root_le (x y : ℝ) : |√(x ^ 2 + y ^ 2)| ≤ |x| + |y| := by
  have hlength := abs_root_sub_root_le x y 0 0
  simpa using hlength

section Coordinates

variable {g k v w x f : ℝ}

-- The least double is nothing beside a length that counts, or a product of such lengths.
theorem least_le (hg : 2 ^ (-60 : ℤ) ≤ g) : (2 : ℝ) ^ (-1074 : ℤ) ≤ 2 ^ (-80 : ℤ) * g :=
  calc (2 : ℝ) ^ (-1074 : ℤ) ≤ 2 ^ (-140 : ℤ) := zpow_le_zpow_right₀ one_le_two (by norm_num)
    _ = 2 ^ (-80 : ℤ) * 2 ^ (-60 : ℤ) := by norm_num
    _ ≤ 2 ^ (-80 : ℤ) * g := by gcongr

theorem length_estimate (hg : 2 ^ (-17 : ℤ) ≤ g) (hw : 0 ≤ w) (hnear : Near g w) :
    |g - w| ≤ 2 ^ (-52 : ℤ) * 1.01 * g ∧ w ≤ 1.0001 * g := by
  have hpos : 0 < g := lt_of_lt_of_le (by positivity) hg
  have hleast := least_le (le_trans (by norm_num) hg)
  rw [Near, abs_of_nonneg hw] at hnear
  have hlow := neg_le_of_abs_le hnear
  generalize (2 : ℝ) ^ (-1074 : ℤ) = least at *
  norm_num at hnear hlow hleast ⊢
  constructor <;> linarith

-- A coordinate that was computed as a difference, in a vector hardly longer than g.
theorem difference_estimate (hg : 2 ^ (-17 : ℤ) ≤ g) (hw : |w| ≤ 1.0001 * g) (hnear : Near w x) :
    |w - x| ≤ 2 ^ (-52 : ℤ) * 1.01 * g ∧ |x| ≤ 1.001 * g := by
  have hpos : 0 < g := lt_of_lt_of_le (by positivity) hg
  have htriangle := abs_sub_abs_le_abs_sub x w
  have hleast := least_le (le_trans (by norm_num) hg)
  rw [abs_sub_comm] at htriangle
  rw [Near] at hnear
  generalize (2 : ℝ) ^ (-1074 : ℤ) = least at *
  norm_num at hnear hleast ⊢
  constructor <;> linarith

-- The same coordinate divided by the length of the vector.
theorem quotient_estimate (hg : 2 ^ (-17 : ℤ) ≤ g) (hw : |w| ≤ 1.0001 * g)
    (hnear : Near f (w / g)) : |f * g - w| ≤ 2 ^ (-52 : ℤ) * 1.01 * g := by
  have hpos : 0 < g := lt_of_lt_of_le (by positivity) hg
  have hshort : |w / g| ≤ 1.0001 := by rwa [abs_div, abs_of_pos hpos, div_le_iff₀ hpos]
  have hleast : (2 : ℝ) ^ (-1074 : ℤ) ≤ 2 ^ (-80 : ℤ) :=
    zpow_le_zpow_right₀ one_le_two (by norm_num)
  have hscaled : f * g - w = (f - w / g) * g := by field_simp
  rw [Near] at hnear
  generalize (2 : ℝ) ^ (-1074 : ℤ) = least at *
  rw [hscaled, abs_mul, abs_of_pos hpos]
  gcongr
  norm_num at hnear hleast ⊢
  linarith

end Coordinates

-- A unit vector that was computed for the way between two positions, with the length of that way:
-- how far rounding lets both be off.
structure Heading (f : Point Float) (gap X Y : ℝ) : Prop where
  finite : f.IsFinite
  long : 2 ^ (-17 : ℤ) ≤ gap
  along_x : |toReal f.x * gap - X| ≤ 2 ^ (-50 : ℤ) * gap
  along_y : |toReal f.y * gap - Y| ≤ 2 ^ (-50 : ℤ) * gap
  square : |X ^ 2 + Y ^ 2 - gap ^ 2| ≤ 2 ^ (-49 : ℤ) * gap ^ 2

namespace Heading

variable {f : Point Float} {gap X Y : ℝ}

theorem pos (h : Heading f gap X Y) : 0 < gap := lt_of_lt_of_le (by positivity) h.long

theorem swap (h : Heading f gap X Y) : Heading ⟨f.y, f.x⟩ gap Y X where
  finite := ⟨h.finite.y, h.finite.x⟩
  long := h.long
  along_x := h.along_y
  along_y := h.along_x
  square := by
    rw [add_comm]
    exact h.square

theorem abs_x_le (h : Heading f gap X Y) : |X| ≤ 1.001 * gap := by
  have hpos := h.pos
  refine abs_le_of_sq_le_sq ?_ (by positivity)
  have hsquare := (le_abs_self _).trans h.square
  norm_num at hsquare ⊢
  nlinarith [sq_nonneg Y, sq_nonneg gap]

theorem abs_sq_sub_le (h : Heading f gap X Y) :
    |(toReal f.x * gap) ^ 2 - X ^ 2| ≤ 2 ^ (-50 : ℤ) * 2.01 * gap ^ 2 := by
  refine (abs_sq_sub_sq_le (a := 2.01 * gap) ?_ h.along_x).trans_eq (by ring)
  have hx := h.abs_x_le
  have halong := h.along_x
  have hpos := h.pos
  rw [abs_le] at hx halong ⊢
  norm_num at hx halong ⊢
  constructor <;> linarith

-- The vector is about one long.
theorem unit (h : Heading f gap X Y) :
    |toReal f.x ^ 2 + toReal f.y ^ 2 - 1| ≤ 2 ^ (-47 : ℤ) := by
  have hsquare : 0 < gap ^ 2 := pow_pos h.pos 2
  have hx := h.abs_sq_sub_le
  have hy : |(toReal f.y * gap) ^ 2 - Y ^ 2| ≤ _ := h.swap.abs_sq_sub_le
  have hgap := h.square
  refine le_of_mul_le_mul_right ?_ hsquare
  rw [← abs_of_pos hsquare, ← abs_mul, abs_of_pos hsquare]
  rw [abs_le] at hx hy hgap ⊢
  norm_num at hx hy hgap ⊢
  constructor <;> linarith

theorem short_x (h : Heading f gap X Y) : |toReal f.x| ≤ 1.01 := by
  have hunit := (le_abs_self _).trans h.unit
  refine abs_le_of_sq_le_sq ?_ (by norm_num)
  norm_num at hunit ⊢
  nlinarith [sq_nonneg (toReal f.y)]

theorem short_y (h : Heading f gap X Y) : |toReal f.y| ≤ 1.01 := h.swap.short_x

end Heading

-- One coordinate of a direction: a difference that was computed and divided by the length.
theorem coordinate_estimate {x g : Float} {X : ℝ} (hx : x.isFinite = true)
    (hg : g.isFinite = true) (hlow : 2 ^ (-17 : ℤ) ≤ toReal g) (hnear : Near (toReal x) X)
    (hshort : |toReal x| ≤ 1.0001 * toReal g) : (x / g).isFinite = true ∧
      |toReal (x / g) * toReal g - X| ≤ 2 ^ (-50 : ℤ) * toReal g ∧
      |X ^ 2 - toReal x ^ 2| ≤ 2 ^ (-52 : ℤ) * 2.04 * toReal g ^ 2 := by
  have hpos : 0 < toReal g := lt_of_lt_of_le (by positivity) hlow
  have happroximates := approximates_div hx hg hpos.ne'
  have hdirection : |toReal x / toReal g| ≤ 1.0001 := by
    rwa [abs_div, abs_of_pos hpos, div_le_iff₀ hpos]
  have hfinite := happroximates.isFinite (hdirection.trans (by norm_num))
  have hback := quotient_estimate hlow hshort (happroximates.near hfinite)
  obtain ⟨hexact, hlong⟩ := difference_estimate hlow hshort hnear
  refine ⟨hfinite, ?_, ?_⟩
  · rw [abs_le] at hback hexact ⊢
    norm_num at hback hexact ⊢
    constructor <;> linarith
  · have hsum : |X + toReal x| ≤ 2.01 * toReal g := by
      rw [abs_le] at hlong hshort ⊢
      norm_num at hlong hshort ⊢
      constructor <;> linarith
    rw [abs_sub_comm] at hexact
    refine (abs_sq_sub_sq_le hsum hexact).trans ?_
    norm_num
    linarith [sq_nonneg (toReal g)]

-- The direction from one position to another, unless they are too close for one.
theorem heading_normalize {p q : Point Float} {bound : ℝ} (hp : p.Within bound)
    (hq : q.Within bound) (hbound : bound ≤ 2 ^ 128) (hlong : ¬p.dist q < Scalar.tolerance) :
    (p.dist q).isFinite = true ∧ Heading (q - p).normalize (toReal (p.dist q))
      (toReal q.x - toReal p.x) (toReal q.y - toReal p.y) := by
  have hx : Bounded (q - p).x _ := hq.x.sub hp.x (by linarith)
  have hy : Bounded (q - p).y _ := hq.y.sub hp.y (by linarith)
  have hnearX := (approximates_sub hq.x.finite hp.x.finite).near hx.finite
  have hnearY := (approximates_sub hq.y.finite hp.y.finite).near hy.finite
  have hnorm : (q - p).norm = p.dist q := Point.dist_swap q p
  have hlength : Approximates (p.dist q) √(toReal (q - p).x ^ 2 + toReal (q - p).y ^ 2) :=
    hnorm ▸ approximates_hypot hx.finite hy.finite
  have hshort := abs_root_le (toReal (q - p).x) (toReal (q - p).y)
  have hfinite := hlength.isFinite (by linarith [hx.abs_le, hy.abs_le])
  have hlow : 2 ^ (-17 : ℤ) ≤ toReal (p.dist q) := by
    rw [lt_iff_toReal hfinite isFinite_tolerance, not_lt] at hlong
    exact le_toReal_tolerance.trans hlong
  obtain ⟨hgap, hclose⟩ := length_estimate hlow (Real.sqrt_nonneg _) (hlength.near hfinite)
  obtain ⟨hfiniteX, halongX, hsquareX⟩ := coordinate_estimate hx.finite hfinite hlow hnearX
    ((Real.abs_le_sqrt (le_add_of_nonneg_right (sq_nonneg _))).trans hclose)
  obtain ⟨hfiniteY, halongY, hsquareY⟩ := coordinate_estimate hy.finite hfinite hlow hnearY
    ((Real.abs_le_sqrt (le_add_of_nonneg_left (sq_nonneg _))).trans hclose)
  have hsum : |toReal (p.dist q) + √(toReal (q - p).x ^ 2 + toReal (q - p).y ^ 2)| ≤
      2.01 * toReal (p.dist q) := by
    have hpos : 0 < toReal (p.dist q) := lt_of_lt_of_le (by positivity) hlow
    rw [abs_of_nonneg (by positivity)]
    norm_num at hclose ⊢
    linarith
  have hsquare := abs_sq_sub_sq_le hsum hgap
  have hnormalize : (q - p).normalize = ⟨(q - p).x / p.dist q, (q - p).y / p.dist q⟩ := by
    rw [Point.normalize, hnorm]
    exact if_neg hlong
  rw [hnormalize]
  refine ⟨hfinite, ⟨hfiniteX, hfiniteY⟩, hlow, halongX, halongY, ?_⟩
  rw [Real.sq_sqrt (by positivity)] at hsquare
  rw [abs_le] at hsquareX hsquareY hsquare ⊢
  norm_num at hsquareX hsquareY hsquare ⊢
  constructor <;> linarith

end PlaneSketch

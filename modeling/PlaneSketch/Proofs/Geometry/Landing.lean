import PlaneSketch.Proofs.Geometry.Secant
import PlaneSketch.Proofs.Geometry.Reach
import PlaneSketch.Proofs.Geometry.Clipping
import PlaneSketch.Proofs.Geometry.Box

namespace PlaneSketch

open Binary

noncomputable def Line.real (l : Line Float) : Line ℝ := ⟨l.a.real, l.b.real⟩

noncomputable def Box.real (box : Box Float) : Box ℝ := ⟨box.a.real, box.b.real⟩

-- A position that was computed for a place, each coordinate up to an error.
structure Point.Marks (p : Point Float) (place : Point ℝ) (error : ℝ) : Prop where
  x : Estimates p.x place.x error
  y : Estimates p.y place.y error

-- Positions near the origin are in the range in which rounding leaves enough of them.
theorem Point.inRange_of_le {p : Point Float} (hx : p.x.isFinite = true ∧ p.x.abs ≤ 1000.0)
    (hy : p.y.isFinite = true ∧ p.y.abs ≤ 1000.0) : p.Within (10 ^ 7) :=
  (Point.within_of_le hx hy).weaken (by norm_num)

section Coordinates

variable {a b t : Float} {s gap X : ℝ}

-- A coordinate on the way from one end of a segment to the other.
theorem abs_moved_le {A B : ℝ} (ha : |A| ≤ 10 ^ 7) (hb : |B| ≤ 10 ^ 7) (hs : 0 ≤ s ∧ s ≤ 1) :
    |A + (B - A) * s| ≤ 10 ^ 7 := by
  have hstart : A + (B - A) * 0 ∈ Set.Icc (-10 ^ 7) (10 ^ 7) := by simpa using abs_le.mp ha
  have hfinish : A + (B - A) * 1 ∈ Set.Icc (-10 ^ 7) (10 ^ 7) := by simpa using abs_le.mp hb
  exact abs_le.mpr (moving_mem hstart hfinish (Set.Icc_subset_uIcc hs))

theorem estimates_moved (ha : Bounded a (10 ^ 7)) (hb : Bounded b (10 ^ 7))
    (ht : Estimates t s (2 ^ (-48 : ℤ))) (hs : 0 ≤ s ∧ s ≤ 1) :
    Estimates (a + (b - a) * t) (toReal a + (toReal b - toReal a) * s) (1 / 10 ^ 7) := by
  have hlong : |toReal b - toReal a| ≤ 2 * 10 ^ 7 := by
    linarith [abs_sub (toReal b) (toReal a), ha.abs_le, hb.abs_le]
  have hdelta := hb.estimates_sub ha (by norm_num)
  have hdelta' : Bounded (b - a) (2 * 10 ^ 7 + 1) := hdelta.bounded (by
    norm_num at hlong ⊢
    linarith)
  have ht' : Bounded t 1.01 := ht.bounded (by
    rw [abs_of_nonneg hs.1]
    norm_num
    linarith)
  have hproduct := estimates_add_mul ha hdelta' ht' (by norm_num) (by norm_num)
  have hscaled := abs_mul_le_mul hdelta.near ht'.abs_le
  have hmoved := abs_mul_le_mul hlong ht.near
  have hsplit : toReal (a + (b - a) * t) - (toReal a + (toReal b - toReal a) * s) =
      (toReal (a + (b - a) * t) - (toReal a + toReal (b - a) * toReal t)) +
        (toReal (b - a) - (toReal b - toReal a)) * toReal t +
        (toReal b - toReal a) * (toReal t - s) := by ring
  refine ⟨hproduct.finite, ?_⟩
  rw [hsplit]
  refine (abs_add_three _ _ _).trans ((add_le_add_three hproduct.near hscaled hmoved).trans ?_)
  norm_num

-- A way as long as a share of a segment leads from its start to that share of it.
theorem abs_way_sub_le {f w : ℝ} (hf : |f| ≤ 1.01) (hgap : 0 < gap ∧ gap ≤ 3 * 10 ^ 7)
    (halong : |f * gap - X| ≤ 2 ^ (-50 : ℤ) * gap) (hs : 0 ≤ s ∧ s ≤ 1)
    (hw : |w - s * gap| ≤ 5 / 10 ^ 7) : |f * w - X * s| ≤ 6 / 10 ^ 7 := by
  have hway := abs_mul_le_mul hf hw
  have hshare : |(f * gap - X) * s| ≤ 2 ^ (-50 : ℤ) * (3 * 10 ^ 7) * 1 := by
    refine abs_mul_le_mul (halong.trans ?_) (by rw [abs_of_nonneg hs.1]; exact hs.2)
    gcongr
    exact hgap.2
  have hsplit : f * w - X * s = f * (w - s * gap) + (f * gap - X) * s := by ring
  rw [hsplit]
  refine (abs_add_le _ _).trans ((add_le_add hway hshare).trans ?_)
  norm_num

end Coordinates

-- Positions computed for one place are not farther apart than the tolerance.
theorem Point.not_far {c z : Point Float} {w : Point ℝ} (hc : c.Marks w (1 / 10 ^ 7))
    (hz : z.Marks w (1 / 10 ^ 6)) (hx : |w.x| ≤ 10 ^ 7) (hy : |w.y| ≤ 10 ^ 7) :
    ¬Scalar.tolerance < c.dist z := by
  have hgap {u v : Float} {r : ℝ} (hu : Estimates u r (1 / 10 ^ 7))
      (hv : Estimates v r (1 / 10 ^ 6)) (hr : |r| ≤ 10 ^ 7) : Bounded (u - v) (2 / 10 ^ 6) := by
    have hsub := hu.sub hv (a := 2 * 10 ^ 7) (b := 2 * 10 ^ 7) (by linarith) (by linarith)
      (by norm_num)
    rw [sub_self] at hsub
    refine hsub.bounded ?_
    norm_num
  have hgapX := hgap hc.x hz.x hx
  have hgapY := hgap hc.y hz.y hy
  have hlength : |√(toReal (c.x - z.x) ^ 2 + toReal (c.y - z.y) ^ 2)| ≤ 4 / 10 ^ 6 := by
    linarith [abs_root_le (toReal (c.x - z.x)) (toReal (c.y - z.y)), hgapX.abs_le, hgapY.abs_le]
  have hdist : Estimates (c.dist z) _ _ :=
    (approximates_hypot hgapX.finite hgapY.finite).estimates hlength (by norm_num)
  rw [lt_iff_toReal isFinite_tolerance hdist.finite, not_lt]
  refine le_trans ?_ toReal_tolerance.1
  have hnear := (abs_le.mp hdist.near).2
  have hroot := (le_abs_self _).trans hlength
  norm_num at hnear hroot ⊢
  linarith

-- The way between the two positions, along the direction from one to the other.
theorem Heading.along {f : Point Float} {gap X Y : ℝ} (h : Heading f gap X Y) :
    |X * toReal f.x + Y * toReal f.y - gap| ≤ 2 ^ (-48 : ℤ) * 1.01 * gap := by
  have hpos := h.pos
  have hx := abs_mul_le_mul h.abs_x_le h.along_x
  have hy := abs_mul_le_mul h.swap.abs_x_le h.along_y
  have hsplit : (X * toReal f.x + Y * toReal f.y - gap) * gap =
      X * (toReal f.x * gap - X) + Y * (toReal f.y * gap - Y) + (X ^ 2 + Y ^ 2 - gap ^ 2) := by
    ring
  refine le_of_mul_le_mul_right ?_ hpos
  rw [← abs_of_pos hpos, ← abs_mul, abs_of_pos hpos, hsplit]
  refine (abs_add_three _ _ _).trans ((add_le_add_three hx hy h.square).trans ?_)
  norm_num
  nlinarith

namespace Line

variable {l : Line Float} {c : Point Float} {t : Float} {s : ℝ}

-- A segment in range that is long enough to have a direction.
structure Plain (l : Line Float) : Prop where
  start : l.a.Within (10 ^ 7)
  finish : l.b.Within (10 ^ 7)
  apart : ¬l.length < Scalar.tolerance

namespace Plain

theorem heading (h : l.Plain) : Heading l.direction (toReal l.length)
    (toReal l.b.x - toReal l.a.x) (toReal l.b.y - toReal l.a.y) :=
  (heading_normalize h.start h.finish (by norm_num) h.apart).2

theorem isFinite_length (h : l.Plain) : l.length.isFinite = true :=
  (heading_normalize h.start h.finish (by norm_num) h.apart).1

theorem marks_pointAt (h : l.Plain) (ht : Estimates t s (2 ^ (-48 : ℤ))) (hs : 0 ≤ s ∧ s ≤ 1) :
    (l.pointAt t).Marks (l.real.pointAt s) (1 / 10 ^ 7) :=
  ⟨estimates_moved h.start.x h.finish.x ht hs, estimates_moved h.start.y h.finish.y ht hs⟩

theorem abs_pointAt_le (h : l.Plain) (hs : 0 ≤ s ∧ s ≤ 1) :
    |(l.real.pointAt s).x| ≤ 10 ^ 7 ∧ |(l.real.pointAt s).y| ≤ 10 ^ 7 :=
  ⟨abs_moved_le h.start.x.abs_le h.finish.x.abs_le hs,
    abs_moved_le h.start.y.abs_le h.finish.y.abs_le hs⟩

theorem length_le (h : l.Plain) : toReal l.length ≤ 3 * 10 ^ 7 := by
  have hspan {v w : ℝ} (hv : |v| ≤ 10 ^ 7) (hw : |w| ≤ 10 ^ 7) : (w - v) ^ 2 ≤ 4 * 10 ^ 14 := by
    rw [← sq_abs]
    nlinarith [abs_sub w v, abs_nonneg (w - v)]
  have hx := hspan h.start.x.abs_le h.finish.x.abs_le
  have hy := hspan h.start.y.abs_le h.finish.y.abs_le
  have hsquare := (abs_le.mp h.heading.square).1
  refine le_of_sq_le_sq ?_ (by norm_num)
  norm_num at hsquare ⊢
  linarith

theorem within_direction (h : l.Plain) : l.direction.Within 1.01 :=
  ⟨⟨h.heading.finite.x, h.heading.short_x⟩, ⟨h.heading.finite.y, h.heading.short_y⟩⟩

-- The way to a place on the segment, along its direction.
theorem estimates_along (h : l.Plain) (hs : 0 ≤ s ∧ s ≤ 1)
    (hc : c.Marks (l.real.pointAt s) (1 / 10 ^ 7)) :
    Estimates ((c - l.a).dot l.direction) (s * toReal l.length) (5 / 10 ^ 7) := by
  have hoffset {v a : Float} {X : ℝ} (ha : Bounded a (10 ^ 7))
      (hmoved : |toReal a + X * s| ≤ 10 ^ 7)
      (hv : Estimates v (toReal a + X * s) (1 / 10 ^ 7)) :
      Estimates (v - a) (X * s) (11 / 10 ^ 8) ∧ Bounded (v - a) (2 * 10 ^ 7 + 1) := by
    have hsub := hv.sub ha.estimates (a := 10 ^ 7 + 1) (b := 10 ^ 7) (by linarith)
      (by linarith [ha.abs_le]) (by norm_num)
    rw [add_sub_cancel_left] at hsub
    have hshort : |X * s| ≤ 2 * 10 ^ 7 := by
      have htriangle := abs_sub (toReal a + X * s) (toReal a)
      rw [add_sub_cancel_left] at htriangle
      linarith [ha.abs_le]
    exact ⟨hsub.weaken (by norm_num), hsub.bounded (by norm_num at hshort ⊢; linarith)⟩
  obtain ⟨hmovedX, hmovedY⟩ := h.abs_pointAt_le hs
  obtain ⟨hx, hboundX⟩ := hoffset (X := toReal l.b.x - toReal l.a.x) h.start.x hmovedX hc.x
  obtain ⟨hy, hboundY⟩ := hoffset (X := toReal l.b.y - toReal l.a.y) h.start.y hmovedY hc.y
  have hdirection := h.within_direction
  have hdot := Point.estimates_dot (p := c - l.a) ⟨hboundX, hboundY⟩ hdirection (by norm_num)
  have hshareX := abs_mul_le_mul hx.near hdirection.x.abs_le
  have hshareY := abs_mul_le_mul hy.near hdirection.y.abs_le
  have hlength : |s * ((toReal l.b.x - toReal l.a.x) * toReal l.direction.x +
      (toReal l.b.y - toReal l.a.y) * toReal l.direction.y - toReal l.length)| ≤
      1 * (2 ^ (-48 : ℤ) * 1.01 * (3 * 10 ^ 7)) := by
    refine abs_mul_le_mul (by rw [abs_of_nonneg hs.1]; exact hs.2) (h.heading.along.trans ?_)
    gcongr
    exact h.length_le
  have hnear : |toReal ((c - l.a).dot l.direction) - (toReal (c.x - l.a.x) * toReal l.direction.x +
      toReal (c.y - l.a.y) * toReal l.direction.y)| ≤ _ := hdot.near
  refine ⟨hdot.finite, ?_⟩
  rw [abs_le] at hnear hshareX hshareY hlength ⊢
  norm_num at hnear hshareX hshareY hlength ⊢
  constructor <;> linarith

theorem marks_foot (h : l.Plain) (hs : 0 ≤ s ∧ s ≤ 1)
    (hc : c.Marks (l.real.pointAt s) (1 / 10 ^ 7)) :
    (l.a + l.direction.scale ((c - l.a).dot l.direction)).Marks (l.real.pointAt s)
      (1 / 10 ^ 6) := by
  have hway := h.estimates_along hs hc
  have hheading := h.heading
  have hdirection := h.within_direction
  have hgap : 0 < toReal l.length ∧ toReal l.length ≤ 3 * 10 ^ 7 := ⟨hheading.pos, h.length_le⟩
  have hshort : |s * toReal l.length| ≤ 1 * (3 * 10 ^ 7) := by
    refine abs_mul_le_mul (by rw [abs_of_nonneg hs.1]; exact hs.2) ?_
    rw [abs_of_pos hgap.1]
    exact hgap.2
  generalize (c - l.a).dot l.direction = along at *
  have hway' : Bounded along (3 * 10 ^ 7 + 1) := hway.bounded (by norm_num at hshort ⊢; linarith)
  have hcoordinate {a f : Float} {X : ℝ} (ha : Bounded a (10 ^ 7)) (hf : Bounded f 1.01)
      (halong : |toReal f * toReal l.length - X| ≤ 2 ^ (-50 : ℤ) * toReal l.length) :
      Estimates (a + f * along) (toReal a + X * s) (1 / 10 ^ 6) := by
    have hproduct := estimates_add_mul ha hf hway' (by norm_num) (by norm_num)
    have hmoved := abs_way_sub_le hf.abs_le hgap halong hs hway.near
    refine ⟨hproduct.finite, (abs_sub_le _ (toReal a + toReal f * toReal along) _).trans ?_⟩
    rw [add_sub_add_left_eq_sub]
    refine (add_le_add hproduct.near hmoved).trans ?_
    norm_num
  exact ⟨hcoordinate h.start.x hdirection.x hheading.along_x,
    hcoordinate h.start.y hdirection.y hheading.along_y⟩

-- Near an end of the segment that end marks the place.
theorem marks_start (h : l.Plain) (hs : 0 ≤ s) (hnear : s * toReal l.length ≤ 6 / 10 ^ 7) :
    l.a.Marks (l.real.pointAt s) (1 / 10 ^ 6) := by
  have hheading := h.heading
  have hcoordinate {a : Float} {X : ℝ} (ha : Bounded a (10 ^ 7))
      (hX : |X| ≤ 1.001 * toReal l.length) :
      Estimates a (toReal a + X * s) (1 / 10 ^ 6) := by
    refine ⟨ha.finite, ?_⟩
    rw [sub_add_cancel_left, abs_neg, abs_mul, abs_of_nonneg hs]
    calc |X| * s ≤ 1.001 * toReal l.length * s := by gcongr
      _ = 1.001 * (s * toReal l.length) := by ring
      _ ≤ 1.001 * (6 / 10 ^ 7) := by gcongr
      _ ≤ 1 / 10 ^ 6 := by norm_num
  exact ⟨hcoordinate h.start.x hheading.abs_x_le, hcoordinate h.start.y hheading.swap.abs_x_le⟩

theorem marks_finish (h : l.Plain) (hs : s ≤ 1)
    (hnear : (1 - s) * toReal l.length ≤ 6 / 10 ^ 7) :
    l.b.Marks (l.real.pointAt s) (1 / 10 ^ 6) := by
  have hheading := h.heading
  have hcoordinate {a : ℝ} {b : Float} (hb : Bounded b (10 ^ 7))
      (hX : |toReal b - a| ≤ 1.001 * toReal l.length) :
      Estimates b (a + (toReal b - a) * s) (1 / 10 ^ 6) := by
    refine ⟨hb.finite, ?_⟩
    have hback : toReal b - (a + (toReal b - a) * s) = (toReal b - a) * (1 - s) := by ring
    rw [hback, abs_mul, abs_of_nonneg (sub_nonneg.mpr hs)]
    calc |toReal b - a| * (1 - s) ≤ 1.001 * toReal l.length * (1 - s) := by gcongr
      _ = 1.001 * ((1 - s) * toReal l.length) := by ring
      _ ≤ 1.001 * (6 / 10 ^ 7) := by gcongr
      _ ≤ 1 / 10 ^ 6 := by norm_num
  exact ⟨hcoordinate h.finish.x hheading.abs_x_le, hcoordinate h.finish.y hheading.swap.abs_x_le⟩

-- The parameter of the foot, as far as it decides on which side of an end the foot is.
theorem estimates_share (h : l.Plain) (hs : 0 ≤ s ∧ s ≤ 1) {along : Float}
    (hway : Estimates along (s * toReal l.length) (5 / 10 ^ 7)) :
    Estimates (along / l.length) (toReal along / toReal l.length) (2 ^ (-50 : ℤ)) := by
  have hlong := h.heading.long
  have hpos := h.heading.pos
  have hshort : |toReal along / toReal l.length| ≤ 2 := by
    rw [abs_div, abs_of_pos hpos, div_le_iff₀ hpos]
    have hnear := hway.near
    have hshare : s * toReal l.length ≤ 1 * toReal l.length := by
      gcongr
      exact hs.2
    have hnonneg : 0 ≤ s * toReal l.length := mul_nonneg hs.1 hpos.le
    rw [abs_le] at hnear ⊢
    norm_num at hnear hlong ⊢
    constructor <;> linarith
  exact ((approximates_div hway.finite h.isFinite_length hpos.ne').estimates hshort
    (by norm_num)).weaken (by norm_num)

-- A position computed for a place on the segment is not farther from it than the tolerance.
theorem segmentDist_pointAt (h : l.Plain) (hs : 0 ≤ s ∧ s ≤ 1)
    (hc : c.Marks (l.real.pointAt s) (1 / 10 ^ 7)) : ¬Scalar.tolerance < l.segmentDist c := by
  obtain ⟨hx, hy⟩ := h.abs_pointAt_le hs
  have hway := h.estimates_along hs hc
  have hshare := h.estimates_share hs hway
  have hfoot := h.marks_foot hs hc
  have hlength := h.length_le
  have hpos := h.heading.pos
  have hproject : l.project c = ⟨l.a + l.direction.scale ((c - l.a).dot l.direction),
      (c - l.a).dot l.direction / l.length⟩ := if_neg h.apart
  rw [Line.segmentDist, if_neg h.apart, hproject]
  generalize (c - l.a).dot l.direction = along at *
  have hscaled : toReal along / toReal l.length * toReal l.length = toReal along :=
    div_mul_cancel₀ _ hpos.ne'
  have hnear := abs_le.mp hway.near
  have hparameter := abs_le.mp hshare.near
  dsimp only
  split
  · exact Point.not_far hc hfoot hx hy
  rename_i hbeside
  split
  · rename_i hbefore
    rw [lt_iff_toReal hshare.finite rfl, toReal_zero] at hbefore
    have hback : toReal along ≤ 2 ^ (-50 : ℤ) * toReal l.length := by
      rw [← hscaled]
      gcongr
      linarith
    refine Point.not_far hc (h.marks_start hs.1 ?_) hx hy
    norm_num at hback hnear ⊢
    linarith
  · rename_i hafter
    have hpast : 1 < toReal (along / l.length) := by
      rw [le_iff_toReal rfl hshare.finite, le_iff_toReal hshare.finite rfl, toReal_zero,
        toReal_one] at hbeside
      rw [lt_iff_toReal hshare.finite rfl, toReal_zero] at hafter
      exact not_le.mp fun hle => hbeside ⟨not_lt.mp hafter, hle⟩
    have hon : (1 - 2 ^ (-50 : ℤ)) * toReal l.length ≤ toReal along := by
      rw [← hscaled]
      gcongr
      linarith
    refine Point.not_far hc (h.marks_finish hs.2 ?_) hx hy
    norm_num at hon hnear ⊢
    linarith

end Plain

end Line

namespace Box

variable {box : Box Float} {p c : Point Float} {w : Point ℝ} {bound : ℝ}

structure Within (box : Box Float) (bound : ℝ) : Prop where
  a : box.a.Within bound
  b : box.b.Within bound

section Extremes

variable {x y : Float}

theorem bounded_least (hx : Bounded x bound) (hy : Bounded y bound) :
    Bounded (Scalar.least x y) bound ∧
      toReal (Scalar.least x y) = Scalar.least (toReal x) (toReal y) := by
  have hlt : y < x ↔ toReal y < toReal x := lt_iff_toReal hy.finite hx.finite
  unfold Scalar.least
  by_cases h : y < x
  · rw [if_pos h, if_pos (hlt.mp h)]
    exact ⟨hy, rfl⟩
  · rw [if_neg h, if_neg (mt hlt.mpr h)]
    exact ⟨hx, rfl⟩

theorem bounded_greatest (hx : Bounded x bound) (hy : Bounded y bound) :
    Bounded (Scalar.greatest x y) bound ∧
      toReal (Scalar.greatest x y) = Scalar.greatest (toReal x) (toReal y) := by
  have hlt : x < y ↔ toReal x < toReal y := lt_iff_toReal hx.finite hy.finite
  unfold Scalar.greatest
  by_cases h : x < y
  · rw [if_pos h, if_pos (hlt.mp h)]
    exact ⟨hy, rfl⟩
  · rw [if_neg h, if_neg (mt hlt.mpr h)]
    exact ⟨hx, rfl⟩

end Extremes

namespace Within

variable (h : box.Within bound)
include h

theorem low : box.low.Within bound :=
  ⟨(bounded_least h.a.x h.b.x).1, (bounded_least h.a.y h.b.y).1⟩

theorem high : box.high.Within bound :=
  ⟨(bounded_greatest h.a.x h.b.x).1, (bounded_greatest h.a.y h.b.y).1⟩

theorem real_low : box.real.low = box.low.real :=
  Point.ext (bounded_least h.a.x h.b.x).2.symm (bounded_least h.a.y h.b.y).2.symm

theorem real_high : box.real.high = box.high.real :=
  Point.ext (bounded_greatest h.a.x h.b.x).2.symm (bounded_greatest h.a.y h.b.y).2.symm

-- Without slack nothing is rounded.
theorem contains_real (hp : p.IsFinite) (hin : box.real.contains 0 p.real = true) :
    box.contains 0.0 p = true := by
  rw [contains_zero_iff, h.real_low, h.real_high] at hin
  have hlow := h.low
  have hhigh := h.high
  rw [contains, decide_eq_true_iff, sub_zero_double, sub_zero_double, le_add_zero_iff,
    le_add_zero_iff, le_iff_toReal hlow.x.finite hp.x, le_iff_toReal hp.x hhigh.x.finite,
    le_iff_toReal hlow.y.finite hp.y, le_iff_toReal hp.y hhigh.y.finite]
  exact ⟨hin.1.1, hin.1.2, hin.2.1, hin.2.2⟩

end Within

-- The slack is more than a position is off.
theorem between_of_estimates {low high x : Float} {v : ℝ} (hlow : Bounded low (10 ^ 7))
    (hhigh : Bounded high (10 ^ 7)) (hx : Estimates x v (1 / 10 ^ 7))
    (hv : v ∈ Set.Icc (toReal low) (toReal high)) :
    low - Scalar.tolerance ≤ x ∧ x ≤ high + Scalar.tolerance := by
  have hslack : Bounded Scalar.tolerance 1 := by
    refine ⟨isFinite_tolerance, abs_le.mpr ⟨?_, toReal_tolerance.2.trans (by norm_num)⟩⟩
    linarith [toReal_tolerance.1]
  have hbelow := hlow.estimates_sub hslack (by norm_num)
  have habove := hhigh.estimates_add hslack (by norm_num)
  have hnear := abs_le.mp hx.near
  have hlower := (abs_le.mp hbelow.near).2
  have hupper := (abs_le.mp habove.near).1
  have htolerance := toReal_tolerance.1
  obtain ⟨hge, hle⟩ := hv
  rw [le_iff_toReal hbelow.finite hx.finite, le_iff_toReal hx.finite habove.finite]
  norm_num at hnear hlower hupper htolerance
  constructor <;> linarith

theorem contains_of_marks (hbox : box.Within (10 ^ 7)) (hc : c.Marks w (1 / 10 ^ 7))
    (hw : box.real.contains 0 w = true) : box.contains Scalar.tolerance c = true := by
  rw [contains_zero_iff, hbox.real_low, hbox.real_high] at hw
  have hx := between_of_estimates hbox.low.x hbox.high.x hc.x hw.1
  have hy := between_of_estimates hbox.low.y hbox.high.y hc.y hw.2
  exact decide_eq_true ⟨hx.1, hx.2, hy.1, hy.2⟩

end Box

end PlaneSketch

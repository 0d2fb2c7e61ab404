import PlaneSketch.Proofs.Geometry.Common
import PlaneSketch.Proofs.Geometry.Heading

namespace PlaneSketch

open Binary

structure Circle.Within (c : Circle Float) (bound : ℝ) : Prop where
  center : c.center.Within bound
  radius : Bounded c.radius bound
  nonneg : 0 ≤ toReal c.radius

theorem Circle.within_of_le {c : Circle Float} (hcenter : c.center.Within 1000)
    (hradius : c.radius.isFinite = true ∧ c.radius.abs ≤ 1000.0) (hpos : 0.0 ≤ c.radius) :
    c.Within 1000 := by
  refine ⟨hcenter, bounded_of_le hradius, ?_⟩
  rwa [le_iff_toReal rfl hradius.1, toReal_zero] at hpos

-- How far a place is from the circle, by the numbers that the doubles stand for.
noncomputable def Circle.miss (c : Circle Float) (p : Point Float) : ℝ :=
  |p.real.dist c.center.real - toReal c.radius|

theorem toReal_tolerance : 1 / 10 ^ 5 ≤ toReal Scalar.tolerance ∧
    toReal Scalar.tolerance ≤ 1 / 10 ^ 5 + 1 / 10 ^ 12 := by
  have hunpack : (Scalar.tolerance : Float).toModel.unpack =
      .finite .positive 5902958103587057 (-69) (by decide) := rfl
  rw [toReal, hunpack, value_finite, unit]
  norm_num

section Distances

variable {d r m : ℝ}

-- Numbers whose squares are close are close themselves, by the root of the difference.
theorem abs_sub_le_of_sq (hd : 0 ≤ d) (hr : 0 ≤ r) (hm : 0 ≤ m) (h : |d ^ 2 - r ^ 2| ≤ m ^ 2) :
    |d - r| ≤ m := by
  refine abs_le_of_sq_le_sq (le_trans ?_ h) hm
  rw [sq_sub_sq, abs_mul, abs_of_nonneg (add_nonneg hd hr), ← sq_abs, sq]
  gcongr
  rw [abs_le]
  constructor <;> linarith

-- If the number is not small they are closer than that.
theorem abs_sub_le_of_sq_of_le (hd : 0 ≤ d) (hr : 0 ≤ r) (hm : 0 ≤ m)
    (h : |d ^ 2 - r ^ 2| ≤ m * (2 * r - m)) : |d - r| ≤ m := by
  rw [abs_le] at h ⊢
  constructor
  · have hlow := abs_le_of_sq_le_sq (show (r - m) ^ 2 ≤ d ^ 2 by linarith) hd
    linarith [le_abs_self (r - m)]
  · have hhigh := abs_le_of_sq_le_sq (show d ^ 2 ≤ (r + m) ^ 2 by nlinarith) (by linarith)
    linarith [le_abs_self d]

end Distances

section Products

variable {x y k : Float} {a b c : ℝ} {p q : Point Float}

theorem estimates_add_mul (hx : Bounded x a) (hy : Bounded y b) (hk : Bounded k c)
    (ha : a ≤ 2 ^ 50) (hbound : b * c ≤ 2 ^ 50) : Estimates (x + y * k)
      (toReal x + toReal y * toReal k) (2 ^ (-52 : ℤ) * (a + 2 * (b * c) + 3)) := by
  have hmul := hy.estimates_mul hk (by linarith)
  have hshort := abs_mul_le_mul hy.abs_le hk.abs_le
  have hsmall : 2 ^ (-52 : ℤ) * (b * c + 1) ≤ 1 := by
    norm_num at hbound ⊢
    linarith
  refine (hx.estimates.add hmul (a := a) (b := b * c + 1) ?_ ?_ ?_).weaken (le_of_eq (by ring))
  · linarith [hx.abs_le]
  · linarith
  · linarith

namespace Point

theorem abs_dot_le (hp : p.Within a) (hq : q.Within b) :
    |toReal p.x * toReal q.x + toReal p.y * toReal q.y| ≤ 2 * (a * b) := by
  have hx := abs_mul_le_mul hp.x.abs_le hq.x.abs_le
  have hy := abs_mul_le_mul hp.y.abs_le hq.y.abs_le
  linarith [abs_add_le (toReal p.x * toReal q.x) (toReal p.y * toReal q.y)]

theorem estimates_dot (hp : p.Within a) (hq : q.Within b) (hbound : a * b ≤ 2 ^ 50) :
    Estimates (p.dot q) (toReal p.x * toReal q.x + toReal p.y * toReal q.y)
      (2 ^ (-52 : ℤ) * (4 * (a * b) + 5)) := by
  have hx := abs_mul_le_mul hp.x.abs_le hq.x.abs_le
  have hy := abs_mul_le_mul hp.y.abs_le hq.y.abs_le
  have hsmall : 2 ^ (-52 : ℤ) * (a * b + 1) ≤ 1 := by
    norm_num at hbound ⊢
    linarith
  refine ((hp.x.estimates_mul hq.x (by linarith)).add (hp.y.estimates_mul hq.y (by linarith))
    (a := a * b + 1) (b := a * b + 1) ?_ ?_ ?_).weaken (le_of_eq (by ring))
  · linarith
  · linarith
  · linarith

end Point

end Products

-- A vector is no longer along a unit vector than it is, up to rounding.
theorem sq_dot_le {u v f g : ℝ} (hu : |u ^ 2| ≤ 2001 ^ 2) (hv : |v ^ 2| ≤ 2001 ^ 2)
    (hunit : |f ^ 2 + g ^ 2 - 1| ≤ 2 ^ (-47 : ℤ)) :
    (u * f + v * g) ^ 2 ≤ u ^ 2 + v ^ 2 + 2 * 2001 ^ 2 * 2 ^ (-47 : ℤ) := by
  have hlength : |u ^ 2 + v ^ 2| ≤ 2 * 2001 ^ 2 := by linarith [abs_add_le (u ^ 2) (v ^ 2)]
  have hslack := (le_abs_self _).trans (abs_mul_le_mul hlength hunit)
  calc (u * f + v * g) ^ 2 = (u ^ 2 + v ^ 2) * (f ^ 2 + g ^ 2) - (u * g - v * f) ^ 2 := by ring
    _ ≤ (u ^ 2 + v ^ 2) * (f ^ 2 + g ^ 2) := sub_le_self _ (sq_nonneg _)
    _ = u ^ 2 + v ^ 2 + (u ^ 2 + v ^ 2) * (f ^ 2 + g ^ 2 - 1) := by ring
    _ ≤ u ^ 2 + v ^ 2 + 2 * 2001 ^ 2 * 2 ^ (-47 : ℤ) := by gcongr

-- A place is reached from a first one along a vector that is about one long: the square of its
-- distance, up to rounding, completes the square of the way.
theorem abs_sq_dist_sub_le {x y u v f g t h : ℝ} (hu : |u| ≤ 2001) (hv : |v| ≤ 2001)
    (hf : |f| ≤ 1.01) (hg : |g| ≤ 1.01) (ht : |t| ≤ 5060)
    (hx : |x - (u + f * t)| ≤ 2 ^ (-36 : ℤ)) (hy : |y - (v + g * t)| ≤ 2 ^ (-36 : ℤ))
    (hunit : |f ^ 2 + g ^ 2 - 1| ≤ 2 ^ (-47 : ℤ)) (hh : |h - (u * f + v * g)| ≤ 2 ^ (-39 : ℤ)) :
    |x ^ 2 + y ^ 2 - ((t + h) ^ 2 - h ^ 2 + (u ^ 2 + v ^ 2))| ≤ 2 ^ (-20 : ℤ) := by
  have hsquare {x u f : ℝ} (hu : |u| ≤ 2001) (hf : |f| ≤ 1.01)
      (hx : |x - (u + f * t)| ≤ 2 ^ (-36 : ℤ)) :
      |x ^ 2 - (u + f * t) ^ 2| ≤ 14224 * 2 ^ (-36 : ℤ) := by
    refine abs_sq_sub_sq_le ?_ hx
    have hstep := abs_mul_le_mul hf ht
    rw [abs_le] at hu hx hstep ⊢
    norm_num at hu hx hstep ⊢
    constructor <;> linarith
  have hsquareX := hsquare hu hf hx
  have hsquareY := hsquare hv hg hy
  have hhalf := abs_mul_le_mul hh ht
  have hlength := abs_mul_le_mul hunit (abs_mul_le_mul ht ht)
  have hsplit : x ^ 2 + y ^ 2 - ((t + h) ^ 2 - h ^ 2 + (u ^ 2 + v ^ 2)) =
      (x ^ 2 - (u + f * t) ^ 2) + (y ^ 2 - (v + g * t) ^ 2) -
        2 * ((h - (u * f + v * g)) * t) + (f ^ 2 + g ^ 2 - 1) * (t * t) := by ring
  rw [hsplit]
  rw [abs_le] at hsquareX hsquareY hhalf hlength ⊢
  norm_num at hsquareX hsquareY hhalf hlength ⊢
  constructor <;> linarith

namespace Line

variable {l : Line Float} {c : Circle Float}

-- A line and a circle in range, and the line has a direction.
structure Meets (l : Line Float) (c : Circle Float) : Prop where
  start : l.a.Within 1000
  finish : l.b.Within 1000
  circle : c.Within 1000
  apart : ¬l.length < Scalar.tolerance

namespace Meets

theorem heading (h : l.Meets c) : Heading l.direction (toReal l.length)
    (toReal l.b.x - toReal l.a.x) (toReal l.b.y - toReal l.a.y) :=
  (heading_normalize h.start h.finish (by norm_num) h.apart).2

theorem within_direction (h : l.Meets c) : l.direction.Within 1.01 :=
  have heading := h.heading
  ⟨⟨heading.finite.x, heading.short_x⟩, ⟨heading.finite.y, heading.short_y⟩⟩

theorem estimates_offset (h : l.Meets c) :
    Estimates (l.a - c.center).x (toReal l.a.x - toReal c.center.x) (2 ^ (-41 : ℤ)) ∧
      Estimates (l.a - c.center).y (toReal l.a.y - toReal c.center.y) (2 ^ (-41 : ℤ)) :=
  ⟨(h.start.x.estimates_sub h.circle.center.x (by norm_num)).weaken (by norm_num),
    (h.start.y.estimates_sub h.circle.center.y (by norm_num)).weaken (by norm_num)⟩

theorem within_offset (h : l.Meets c) : (l.a - c.center).Within 2001 := by
  have hsmall : (2 : ℝ) ^ (-41 : ℤ) ≤ 1 := by norm_num
  obtain ⟨hx, hy⟩ := h.estimates_offset
  constructor
  · refine hx.bounded ?_
    linarith [abs_sub (toReal l.a.x) (toReal c.center.x), h.start.x.abs_le,
      h.circle.center.x.abs_le]
  · refine hy.bounded ?_
    linarith [abs_sub (toReal l.a.y) (toReal c.center.y), h.start.y.abs_le,
      h.circle.center.y.abs_le]

theorem estimates_halfLinear (h : l.Meets c) : Estimates (l.halfLinear c)
    (toReal (l.a - c.center).x * toReal l.direction.x +
      toReal (l.a - c.center).y * toReal l.direction.y) (2 ^ (-39 : ℤ)) :=
  (Point.estimates_dot h.within_offset h.within_direction
    (by norm_num)).weaken (by norm_num)

theorem bounded_halfLinear (h : l.Meets c) : Bounded (l.halfLinear c) 4043 := by
  have hshort := Point.abs_dot_le h.within_offset h.within_direction
  refine h.estimates_halfLinear.bounded ?_
  norm_num at hshort ⊢
  linarith

theorem estimates_discriminant (h : l.Meets c) : Estimates (l.discriminant c)
    (toReal (l.halfLinear c) ^ 2 - (toReal (l.a - c.center).x ^ 2 +
      toReal (l.a - c.center).y ^ 2 - toReal c.radius ^ 2)) (2 ^ (-25 : ℤ)) := by
  have hhalf := h.bounded_halfLinear
  have hoffset := h.within_offset
  simp only [sq]
  have hsquare := hhalf.estimates_mul hhalf (by norm_num)
  have hlength := Point.estimates_dot hoffset hoffset (by norm_num)
  have hradius := h.circle.radius.estimates_mul h.circle.radius (by norm_num)
  have hinner := hlength.sub hradius (a := 8008003) (b := 1000001) ?_ ?_ (by norm_num)
  · refine (hsquare.sub hinner (a := 16345850) (b := 9008005) ?_ ?_ (by norm_num)).weaken ?_
    · have hle := abs_mul_le_mul hhalf.abs_le hhalf.abs_le
      norm_num at hle ⊢
      linarith
    · have hle := Point.abs_dot_le hoffset hoffset
      have hle' := abs_mul_le_mul h.circle.radius.abs_le h.circle.radius.abs_le
      have htriangle := abs_sub (toReal (l.a - c.center).x * toReal (l.a - c.center).x +
        toReal (l.a - c.center).y * toReal (l.a - c.center).y)
          (toReal c.radius * toReal c.radius)
      norm_num at hle hle' htriangle ⊢
      linarith
    · norm_num
  · have hle := Point.abs_dot_le hoffset hoffset
    norm_num at hle ⊢
    linarith
  · have hle := abs_mul_le_mul h.circle.radius.abs_le h.circle.radius.abs_le
    norm_num at hle ⊢
    linarith

-- The part of the line inside the circle is no longer than the circle is wide.
theorem discriminant_le (h : l.Meets c) : toReal (l.discriminant c) ≤ 1000001 := by
  have hoffset := h.within_offset
  have hdot := Point.abs_dot_le hoffset h.within_direction
  have hproduct := sq_dot_le hoffset.x.sq_le hoffset.y.sq_le h.heading.unit
  have hhalf := (le_abs_self _).trans (abs_sq_sub_sq_le (a := 9000) (by
    norm_num at hdot
    linarith [abs_add_le (toReal (l.halfLinear c)) (toReal (l.a - c.center).x *
      toReal l.direction.x + toReal (l.a - c.center).y * toReal l.direction.y),
      h.bounded_halfLinear.abs_le]) h.estimates_halfLinear.near)
  have hradius := (le_abs_self _).trans h.circle.radius.sq_le
  have hestimate := (abs_le.mp h.estimates_discriminant.near).2
  norm_num at hproduct hhalf hradius hestimate
  linarith

-- A place on the line: how far from the center it is, by the way to it.
theorem place_estimate (h : l.Meets c) {t : Float} (ht : Bounded t 5060) :
    (l.a + l.direction.scale t).IsFinite ∧
      |(l.a + l.direction.scale t).real.dist c.center.real ^ 2 -
        ((toReal t + toReal (l.halfLinear c)) ^ 2 - toReal (l.halfLinear c) ^ 2 +
          (toReal (l.a - c.center).x ^ 2 + toReal (l.a - c.center).y ^ 2))| ≤ 2 ^ (-20 : ℤ) := by
  have hdirection := h.within_direction
  have hoffset := h.within_offset
  have hx := (estimates_add_mul h.start.x hdirection.x ht (by norm_num) (by norm_num)).weaken
    (e := 2 ^ (-37 : ℤ)) (by norm_num)
  have hy := (estimates_add_mul h.start.y hdirection.y ht (by norm_num) (by norm_num)).weaken
    (e := 2 ^ (-37 : ℤ)) (by norm_num)
  obtain ⟨hstartX, hstartY⟩ := h.estimates_offset
  refine ⟨⟨hx.finite, hy.finite⟩, ?_⟩
  rw [Point.sq_dist]
  refine abs_sq_dist_sub_le hoffset.x.abs_le hoffset.y.abs_le hdirection.x.abs_le
    hdirection.y.abs_le ht.abs_le ?_ ?_ h.heading.unit
    h.estimates_halfLinear.near
  · have hnear : |toReal (l.a + l.direction.scale t).x - _| ≤ _ := hx.near
    have hstart := hstartX.near
    change |toReal (l.a + l.direction.scale t).x - toReal c.center.x - _| ≤ _
    rw [abs_le] at hnear hstart ⊢
    norm_num at hnear hstart ⊢
    constructor <;> linarith
  · have hnear : |toReal (l.a + l.direction.scale t).y - _| ≤ _ := hy.near
    have hstart := hstartY.near
    change |toReal (l.a + l.direction.scale t).y - toReal c.center.y - _| ≤ _
    rw [abs_le] at hnear hstart ⊢
    norm_num at hnear hstart ⊢
    constructor <;> linarith

-- So how far from the circle it is depends on how well the way to it solves the quadratic.
theorem place_solves (h : l.Meets c) {t : Float} (ht : Bounded t 5060) {e : ℝ}
    (hroot : |(toReal t + toReal (l.halfLinear c)) ^ 2 - toReal (l.discriminant c)| ≤ e) :
    (l.a + l.direction.scale t).IsFinite ∧
      |(l.a + l.direction.scale t).real.dist c.center.real ^ 2 - toReal c.radius ^ 2| ≤
        e + 99 / 10 ^ 8 := by
  obtain ⟨hfinite, hplace⟩ := h.place_estimate ht
  have hdiscriminant := h.estimates_discriminant.near
  refine ⟨hfinite, ?_⟩
  rw [abs_le] at hroot hplace hdiscriminant ⊢
  norm_num at hroot hplace hdiscriminant ⊢
  constructor <;> linarith

-- Either way that the root of the discriminant gives solves the quadratic.
theorem way_solves (h : l.Meets c) {t : Float} {root : ℝ} (hroot : |root| ≤ 1002)
    (hsquare : |root ^ 2 - toReal (l.discriminant c)| ≤ 2 ^ (-30 : ℤ))
    (ht : Estimates t (-toReal (l.halfLinear c) + root) (2 ^ (-39 : ℤ))) :
    Bounded t 5060 ∧
      |(toReal t + toReal (l.halfLinear c)) ^ 2 - toReal (l.discriminant c)| ≤ 1 / 10 ^ 8 := by
  have hhalf := h.bounded_halfLinear.abs_le
  have hnear := ht.near
  constructor
  · refine ht.bounded ?_
    have htriangle := abs_add_le (-toReal (l.halfLinear c)) root
    rw [abs_neg] at htriangle
    norm_num
    linarith
  · have hgap : |(toReal t + toReal (l.halfLinear c)) ^ 2 - root ^ 2| ≤ 2005 * 2 ^ (-39 : ℤ) := by
      refine abs_sq_sub_sq_le ?_ ?_
      · rw [abs_le] at hnear hroot ⊢
        norm_num at hnear hroot ⊢
        constructor <;> linarith
      · convert hnear using 2
        ring
    rw [abs_le] at hgap hsquare ⊢
    norm_num at hgap hsquare ⊢
    constructor <;> linarith

theorem way_near (h : l.Meets c) {t : Float} {root : ℝ} (hroot : |root| ≤ 1002)
    (hsquare : |root ^ 2 - toReal (l.discriminant c)| ≤ 2 ^ (-30 : ℤ))
    (ht : Estimates t (-toReal (l.halfLinear c) + root) (2 ^ (-39 : ℤ))) :
    (l.a + l.direction.scale t).IsFinite ∧ c.miss (l.a + l.direction.scale t) ≤ 1 / 1000 := by
  obtain ⟨hbounded, hsolves⟩ := h.way_solves hroot hsquare ht
  obtain ⟨hfinite, hplace⟩ := h.place_solves hbounded hsolves
  refine ⟨hfinite, abs_sub_le_of_sq (Point.dist_nonneg _ _) h.circle.nonneg (by norm_num) ?_⟩
  exact hplace.trans (by norm_num)

-- Where the line is not taken for tangent.
theorem secant_near (h : l.Meets c) {p : Point Float} (hpos : ¬l.discriminant c < 0.0)
    (hp : p ∈ [l.a + l.direction.scale (-l.halfLinear c - Scalar.sqrt (l.discriminant c)),
      l.a + l.direction.scale (-l.halfLinear c + Scalar.sqrt (l.discriminant c))]) :
    p.IsFinite ∧ c.miss p ≤ 1 / 1000 := by
  have hhalf := h.bounded_halfLinear.neg
  have hfinite := h.estimates_discriminant.finite
  rw [lt_iff_toReal hfinite rfl, not_lt, toReal_zero] at hpos
  obtain ⟨hroot, hsquare⟩ := sqrt_estimate hfinite hpos h.discriminant_le
  have hback := (hhalf.estimates_sub hroot (by norm_num)).weaken (e := 2 ^ (-39 : ℤ)) (by norm_num)
  have hon := (hhalf.estimates_add hroot (by norm_num)).weaken (e := 2 ^ (-39 : ℤ)) (by norm_num)
  rw [toReal_neg, sub_eq_add_neg] at hback
  rw [toReal_neg] at hon
  simp only [List.mem_cons, List.not_mem_nil, or_false] at hp
  obtain rfl | rfl := hp
  · refine h.way_near ?_ ?_ hback
    · rw [abs_neg]
      exact hroot.abs_le
    · rwa [neg_sq]
  · exact h.way_near hroot.abs_le hsquare hon

-- Where the line is taken for tangent, the discriminant is what the square of the distance is off.
theorem tangent_near (h : l.Meets c) (htangent : Scalar.abs (l.discriminant c) < Scalar.tolerance) :
    (l.a + l.direction.scale (-l.halfLinear c)).IsFinite ∧
      c.miss (l.a + l.direction.scale (-l.halfLinear c)) ≤ 1 / 300 ∧
      (6 / 1000 ≤ toReal c.radius →
        c.miss (l.a + l.direction.scale (-l.halfLinear c)) ≤ 1 / 1000) := by
  have hhalf := h.bounded_halfLinear.neg
  have hfinite := h.estimates_discriminant.finite
  have hsmall : |toReal (l.discriminant c)| ≤ 1 / 10 ^ 5 + 1 / 10 ^ 12 := by
    change Float.abs (l.discriminant c) < _ at htangent
    rw [lt_iff_toReal ((isFinite_abs _).trans hfinite) isFinite_tolerance, toReal_abs] at htangent
    exact htangent.le.trans toReal_tolerance.2
  obtain ⟨hplace, hsquare⟩ := h.place_solves (e := 1 / 10 ^ 5 + 1 / 10 ^ 12)
    ⟨hhalf.finite, hhalf.abs_le.trans (by norm_num)⟩ (by
      rwa [toReal_neg, neg_add_cancel, zero_pow two_ne_zero, zero_sub, abs_neg])
  refine ⟨hplace, abs_sub_le_of_sq (Point.dist_nonneg _ _) h.circle.nonneg (by norm_num) ?_,
    fun hwide => abs_sub_le_of_sq_of_le (Point.dist_nonneg _ _) h.circle.nonneg (by norm_num) ?_⟩
  · exact hsquare.trans (by norm_num)
  · refine hsquare.trans ?_
    norm_num
    linarith

end Meets

end Line

-- Where a line and a circle meet is on the circle up to a thousandth, however they lie to each
-- other, unless the circle is tiny and the line is taken for tangent to it. The window for that is
-- on the discriminant, the square of a length: a line that passes a tiny circle by a third of a
-- hundredth is in it.
theorem meetCircle_line_near {l : Line Float} {c : Circle Float} (ha : l.a.Within 1000)
    (hb : l.b.Within 1000) (hc : c.Within 1000) {p : Point Float} (hp : p ∈ l.meetCircle c) :
    p.IsFinite ∧ c.miss p ≤ 1 / 300 ∧
      ((Scalar.abs (l.discriminant c) < Scalar.tolerance → 6 / 1000 ≤ toReal c.radius) →
        c.miss p ≤ 1 / 1000) := by
  unfold Line.meetCircle at hp
  split at hp
  · cases hp
  rename_i hlong
  have h : l.Meets c := ⟨ha, hb, hc, hlong⟩
  simp only at hp
  split at hp
  · rename_i htangent
    rw [List.mem_singleton] at hp
    subst hp
    obtain ⟨hfinite, hnear, hwide⟩ := h.tangent_near htangent
    exact ⟨hfinite, hnear, fun hradius => hwide (hradius htangent)⟩
  split at hp
  · cases hp
  · rename_i hpos
    obtain ⟨hfinite, hnear⟩ := h.secant_near hpos hp
    exact ⟨hfinite, hnear.trans (by norm_num), fun _ => hnear⟩

theorem meetCircle_line_near_level : (⟨4.0, 3.0⟩ : Point Float) ∈
      Line.meetCircle ⟨⟨-5.0, 3.0⟩, ⟨5.0, 3.0⟩⟩ ⟨⟨0.0, 0.0⟩, 5.0⟩ ∧
    Circle.miss ⟨⟨0.0, 0.0⟩, 5.0⟩ ⟨4.0, 3.0⟩ ≤ 1 / 1000 := by
  have hmem : (⟨4.0, 3.0⟩ : Point Float) ∈
      Line.meetCircle ⟨⟨-5.0, 3.0⟩, ⟨5.0, 3.0⟩⟩ ⟨⟨0.0, 0.0⟩, 5.0⟩ := by decide +kernel
  have hclear : ¬Scalar.abs (Line.discriminant ⟨⟨-5.0, 3.0⟩, ⟨5.0, 3.0⟩⟩ ⟨⟨0.0, 0.0⟩, 5.0⟩) <
      (Scalar.tolerance : Float) := by decide +kernel
  refine ⟨hmem, (meetCircle_line_near ?_ ?_ ?_ hmem).2.2 fun h => absurd h hclear⟩
  · exact Point.within_of_le (by decide +kernel) (by decide +kernel)
  · exact Point.within_of_le (by decide +kernel) (by decide +kernel)
  · exact Circle.within_of_le (Point.within_of_le (by decide +kernel) (by decide +kernel))
      (by decide +kernel) (by decide +kernel)

-- A level line passes a circle of radius 0.001 at a height of 0.003 and is taken for tangent to it.
theorem meetCircle_line_passes :
    Point.Within ⟨-1.0, 0.003⟩ 1000 ∧ Point.Within ⟨1.0, 0.003⟩ 1000 ∧
      Circle.Within ⟨⟨0.0, 0.0⟩, 0.001⟩ 1000 ∧
      ¬(⟨-1.0, 0.003⟩ : Point Float).dist ⟨1.0, 0.003⟩ < Scalar.tolerance ∧
      (⟨0.0, 0.003⟩ : Point Float) ∈
        Line.meetCircle ⟨⟨-1.0, 0.003⟩, ⟨1.0, 0.003⟩⟩ ⟨⟨0.0, 0.0⟩, 0.001⟩ ∧
      1 / 1000 < Circle.miss ⟨⟨0.0, 0.0⟩, 0.001⟩ ⟨0.0, 0.003⟩ := by
  refine ⟨Point.within_of_le (by decide +kernel) (by decide +kernel),
    Point.within_of_le (by decide +kernel) (by decide +kernel),
    Circle.within_of_le (Point.within_of_le (by decide +kernel) (by decide +kernel))
      (by decide +kernel) (by decide +kernel), by decide +kernel, by decide +kernel, ?_⟩
  have hheight : (0.003 : Float).toModel.unpack =
      .finite .positive 6917529027641082 (-61) (by decide) := rfl
  have hradius : (0.001 : Float).toModel.unpack =
      .finite .positive 4611686018427388 (-62) (by decide) := rfl
  rw [Circle.miss, Point.dist_eq]
  simp only [Point.real, toReal_zero, sub_self, sub_zero, ne_eq, OfNat.ofNat_ne_zero,
    not_false_eq_true, zero_pow, zero_add, Real.sqrt_sq_eq_abs]
  rw [toReal, toReal, hheight, hradius, value_finite, value_finite, unit]
  norm_num [abs_of_pos]

end PlaneSketch

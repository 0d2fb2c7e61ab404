import PlaneSketch.Proofs.Geometry.Landing

namespace PlaneSketch

open Binary

section Products

variable {x y z h left right num den : Float} {X N D v scale T : ℝ}

-- One rounding of a number no larger than a scale.
theorem estimates_of_scale (hx : Approximates x v) (hv : |v| ≤ 1.01 * T) (hlow : 2 ^ (-60 : ℤ) ≤ T)
    (hhigh : T ≤ 10 ^ 20) : Estimates x v (2 ^ (-52 : ℤ) * 1.02 * T) := by
  have hfinite := hx.isFinite (hv.trans (by linarith))
  have hnear := hx.near hfinite
  have hleast := least_le hlow
  have hpos : 0 < T := lt_of_lt_of_le (by positivity) hlow
  refine ⟨hfinite, ?_⟩
  rw [Near] at hnear
  generalize (2 : ℝ) ^ (-1074 : ℤ) = least at *
  norm_num at hnear hleast hv ⊢
  linarith

theorem toReal_sub_self (hx : x.isFinite = true) : toReal (x - x) = 0 := by
  rw [toReal, unpack_sub_self hx, value_zero]

theorem estimates_product (hx : Estimates x X (2 ^ (-52 : ℤ) * 1.02 * scale)) (hX : |X| ≤ scale)
    (hh : h.isFinite = true) (hT : scale * |toReal h| = T) (hlow : 2 ^ (-60 : ℤ) ≤ T)
    (hhigh : T ≤ 10 ^ 20) :
    |X * toReal h| ≤ T ∧ Estimates (x * h) (X * toReal h) (2 ^ (-52 : ℤ) * 2.04 * T) := by
  have hshort : |X * toReal h| ≤ T := hT ▸ abs_mul_le_mul hX le_rfl
  have hmoved : |(toReal x - X) * toReal h| ≤ 2 ^ (-52 : ℤ) * 1.02 * T := by
    rw [← hT, ← mul_assoc]
    exact abs_mul_le_mul hx.near le_rfl
  have hpos : 0 < T := lt_of_lt_of_le (by positivity) hlow
  have hsplit : toReal x * toReal h = X * toReal h + (toReal x - X) * toReal h := by ring
  have hmul : Estimates (x * h) (toReal x * toReal h) _ :=
    estimates_of_scale (approximates_mul hx.finite hh) (by
      rw [hsplit]
      refine (abs_add_le _ _).trans ((add_le_add hshort hmoved).trans ?_)
      norm_num
      linarith) hlow hhigh
  refine ⟨hshort, hmul.finite, (abs_sub_le _ (toReal x * toReal h) _).trans ?_⟩
  rw [← sub_mul]
  refine (add_le_add hmul.near hmoved).trans (le_of_eq ?_)
  ring

-- A product with zero is zero, up to the least double.
theorem estimates_nothing (hy : y.isFinite = true) (hz : z.isFinite = true) (hzero : toReal z = 0)
    (hlow : 2 ^ (-60 : ℤ) ≤ T) : Estimates (y * z) 0 (2 ^ (-80 : ℤ) * T) := by
  have hmul := approximates_mul hy hz
  rw [hzero, mul_zero] at hmul
  have hfinite := hmul.isFinite (by rw [abs_zero]; positivity)
  have hnear := hmul.near hfinite
  rw [Near, abs_zero, mul_zero, zero_add] at hnear
  exact ⟨hfinite, hnear.trans (least_le hlow)⟩

-- Of the two products in a cross product with an upright or level vector only one counts.
theorem estimates_cross (hleft : Estimates left v (2 ^ (-52 : ℤ) * 2.04 * T)) (hv : |v| ≤ T)
    (hright : Estimates right 0 (2 ^ (-80 : ℤ) * T)) (hlow : 2 ^ (-60 : ℤ) ≤ T)
    (hhigh : T ≤ 10 ^ 20) : Estimates (left - right) v (2 ^ (-50 : ℤ) * T) ∧
      Estimates (right - left) (-v) (2 ^ (-50 : ℤ) * T) := by
  have hpos : 0 < T := lt_of_lt_of_le (by positivity) hlow
  have hnear := abs_le.mp hleft.near
  have hnothing := abs_le.mp hright.near
  have hshort : |toReal left - toReal right| ≤ 1.01 * T := by
    rw [abs_le] at hv ⊢
    norm_num at hnear hnothing ⊢
    constructor <;> linarith
  have hforth := estimates_of_scale (approximates_sub hleft.finite hright.finite) hshort hlow hhigh
  have hback := estimates_of_scale (approximates_sub hright.finite hleft.finite)
    (by rwa [abs_sub_comm]) hlow hhigh
  refine ⟨⟨hforth.finite, ?_⟩, ⟨hback.finite, ?_⟩⟩
  · have hrounded := abs_le.mp hforth.near
    rw [abs_le]
    norm_num at hnear hnothing hrounded ⊢
    constructor <;> linarith
  · have hrounded := abs_le.mp hback.near
    rw [abs_le]
    norm_num at hnear hnothing hrounded ⊢
    constructor <;> linarith

-- The quotient of two such products.
theorem estimates_quotient (hnum : Estimates num N (2 ^ (-50 : ℤ) * T))
    (hden : Estimates den D (2 ^ (-50 : ℤ) * T)) (hN : |N| ≤ T) (hD : |D| = T)
    (hlow : 2 ^ (-60 : ℤ) ≤ T) : Estimates (num / den) (N / D) (2 ^ (-48 : ℤ)) := by
  have hpos : 0 < T := lt_of_lt_of_le (by positivity) hlow
  have hlarge : (1 - 2 ^ (-50 : ℤ)) * T ≤ |toReal den| := by
    have htriangle := abs_sub_abs_le_abs_sub D (toReal den)
    rw [abs_sub_comm D] at htriangle
    linarith [hden.near]
  have hden0 : 0 < |toReal den| := lt_of_lt_of_le (mul_pos (by norm_num) hpos) hlarge
  have hD0 : D ≠ 0 := abs_pos.mp (hD ▸ hpos)
  have hcross : |(toReal num - N) * D + N * (D - toReal den)| ≤ 2 ^ (-49 : ℤ) * T * T := by
    have hfirst := abs_mul_le_mul hnum.near hD.le
    have hsecond := abs_mul_le_mul hN (abs_sub_comm D _ ▸ hden.near)
    refine (abs_add_le _ _).trans ((add_le_add hfirst hsecond).trans (le_of_eq ?_))
    norm_num
    ring
  have hgap : |toReal num / toReal den - N / D| ≤ 2 ^ (-49 : ℤ) * 1.01 := by
    have hsame : toReal num / toReal den - N / D =
        ((toReal num - N) * D + N * (D - toReal den)) / (toReal den * D) := by
      rw [div_sub_div _ _ (abs_pos.mp hden0) hD0]
      congr 1
      ring
    rw [hsame, abs_div, abs_mul, hD, div_le_iff₀ (mul_pos hden0 hpos)]
    have hscale : T ≤ 1.01 * |toReal den| := by
      norm_num at hlarge ⊢
      linarith
    calc _ ≤ 2 ^ (-49 : ℤ) * T * T := hcross
      _ ≤ 2 ^ (-49 : ℤ) * (1.01 * |toReal den|) * T := by gcongr
      _ = 2 ^ (-49 : ℤ) * 1.01 * (|toReal den| * T) := by ring
  have hshort : |N / D| ≤ 1 := by
    rw [abs_div, hD, div_le_one hpos]
    exact hN
  have hquotient : |toReal num / toReal den| ≤ 1.01 := by
    have htriangle := abs_sub_abs_le_abs_sub (toReal num / toReal den) (N / D)
    norm_num at hgap ⊢
    linarith
  have hrounded := (approximates_div hnum.finite hden.finite (abs_pos.mp hden0)).estimates
    hquotient (by norm_num)
  refine ⟨hrounded.finite, (abs_sub_le _ (toReal num / toReal den) _).trans
    ((add_le_add hrounded.near hgap).trans ?_)⟩
  norm_num

-- What a segment moves along one coordinate, times the length of a side along the other.
theorem scale_bounds (hmoves : 2 ^ (-34 : ℤ) ≤ |D|) (hrange : |D| ≤ 2 * 10 ^ 7)
    (hh : Bounded h (10 ^ 8)) (hlong : 2 ^ (-18 : ℤ) ≤ |toReal h|) :
    2 ^ (-60 : ℤ) ≤ |D * toReal h| ∧ |D * toReal h| ≤ 10 ^ 20 := by
  constructor
  · rw [abs_mul]
    calc (2 : ℝ) ^ (-60 : ℤ) ≤ 2 ^ (-34 : ℤ) * 2 ^ (-18 : ℤ) := by norm_num
      _ ≤ |D| * |toReal h| := by gcongr
  · exact (abs_mul_le_mul hrange hh.abs_le).trans (by norm_num)

-- A cross product with a side, whichever coordinate the side is along.
theorem estimates_side (hx : Approximates x X) (hX : |X| ≤ |D|) (hmoves : 2 ^ (-34 : ℤ) ≤ |D|)
    (hrange : |D| ≤ 2 * 10 ^ 7) (hh : Bounded h (10 ^ 8)) (hlong : 2 ^ (-18 : ℤ) ≤ |toReal h|)
    (hy : y.isFinite = true) (hz : z.isFinite = true) (hzero : toReal z = 0) :
    |X * toReal h| ≤ |D * toReal h| ∧
      Estimates (x * h - y * z) (X * toReal h) (2 ^ (-50 : ℤ) * |D * toReal h|) ∧
      Estimates (y * z - x * h) (-(X * toReal h)) (2 ^ (-50 : ℤ) * |D * toReal h|) := by
  obtain ⟨hlow, hhigh⟩ := scale_bounds hmoves hrange hh hlong
  have hdifference := estimates_of_scale hx (by linarith [abs_nonneg D])
    (le_trans (by norm_num) hmoves) (hrange.trans (by norm_num))
  obtain ⟨hshort, hproduct⟩ :=
    estimates_product hdifference hX hh.finite (abs_mul _ _).symm hlow hhigh
  exact ⟨hshort, estimates_cross hproduct hshort (estimates_nothing hy hz hzero hlow) hlow hhigh⟩

-- The parameter at which a coordinate on the way from a to b reaches c, as it is computed from
-- the cross products with a vector that has h along the other coordinate, and z along this one.
theorem estimates_parameter {a b c g d : Float} {s : ℝ} (ha : Bounded a (10 ^ 7))
    (hb : Bounded b (10 ^ 7)) (hc : c.isFinite = true) (hs : 0 ≤ s ∧ s ≤ 1)
    (hside : toReal a + (toReal b - toReal a) * s = toReal c)
    (hmoves : 2 ^ (-34 : ℤ) ≤ |toReal b - toReal a|) (hh : Bounded h (10 ^ 8))
    (hlong : 2 ^ (-18 : ℤ) ≤ |toReal h|) (hg : g.isFinite = true) (hd : d.isFinite = true)
    (hz : z.isFinite = true) (hzero : toReal z = 0) :
    Estimates (((c - a) * h - g * z) / ((b - a) * h - d * z)) s (2 ^ (-48 : ℤ)) ∧
      Estimates ((g * z - (c - a) * h) / (d * z - (b - a) * h)) s (2 ^ (-48 : ℤ)) := by
  have hway : toReal c - toReal a = (toReal b - toReal a) * s := by linarith
  have hrange : |toReal b - toReal a| ≤ 2 * 10 ^ 7 := by
    linarith [abs_sub (toReal b) (toReal a), ha.abs_le, hb.abs_le]
  have hdelta := approximates_sub hb.finite ha.finite
  have hgap := approximates_sub hc ha.finite
  rw [hway] at hgap
  generalize toReal b - toReal a = D at *
  have hshare : |D * s| ≤ |D| := by
    rw [abs_mul, abs_of_nonneg hs.1]
    exact mul_le_of_le_one_right (abs_nonneg _) hs.2
  obtain ⟨hshort, hnumForth, hnumBack⟩ :=
    estimates_side hgap hshare hmoves hrange hh hlong hg hz hzero
  obtain ⟨-, hdenForth, hdenBack⟩ :=
    estimates_side hdelta le_rfl hmoves hrange hh hlong hd hz hzero
  have hlow := (scale_bounds hmoves hrange hh hlong).1
  have hD : D ≠ 0 := abs_pos.mp (lt_of_lt_of_le (by positivity) hmoves)
  have hh0 : toReal h ≠ 0 := abs_pos.mp (lt_of_lt_of_le (by positivity) hlong)
  have hsame : D * s * toReal h / (D * toReal h) = s := by field_simp
  constructor
  · have hquotient := estimates_quotient hnumForth hdenForth hshort rfl hlow
    rwa [hsame] at hquotient
  · have hquotient := estimates_quotient hnumBack hdenBack (by rwa [abs_neg]) (abs_neg _) hlow
    rwa [neg_div_neg_eq, hsame] at hquotient

-- The length of a side, as it is computed.
theorem bounded_extent {a b : Float} {gap : ℝ} (ha : Bounded a (10 ^ 7)) (hb : Bounded b (10 ^ 7))
    (hgap : 2 ^ (-17 : ℤ) ≤ gap) (hlong : 0.99 * gap ≤ |toReal b - toReal a|) :
    Bounded (b - a) (10 ^ 8) ∧ 2 ^ (-18 : ℤ) ≤ |toReal (b - a)| := by
  have hsub := hb.estimates_sub ha (by norm_num)
  have hrange : |toReal b - toReal a| ≤ 2 * 10 ^ 7 := by
    linarith [abs_sub (toReal b) (toReal a), ha.abs_le, hb.abs_le]
  have htriangle := abs_sub_abs_le_abs_sub (toReal b - toReal a) (toReal (b - a))
  rw [abs_sub_comm _ (toReal (b - a))] at htriangle
  have hnear := hsub.near
  refine ⟨hsub.bounded (by norm_num at hrange ⊢; linarith), ?_⟩
  norm_num at hnear hgap ⊢
  linarith

end Products

namespace Heading

variable {f : Point Float} {gap X Y : ℝ}

-- A direction that is not as good as upright has a part along the level that counts.
theorem steep (h : Heading f gap X Y) (hle : |Y| ≤ 99999 * |X|) :
    gap ≤ 99999.1 * |X| ∧ 1.000005 / 10 ^ 5 ≤ |toReal f.x| := by
  have hpos := h.pos
  have hsquare := (abs_le.mp h.square).1
  have hlevel : Y ^ 2 ≤ 99999 ^ 2 * X ^ 2 := by
    rw [← sq_abs Y, ← sq_abs X, ← mul_pow]
    gcongr
  have hgap : gap ≤ 99999.1 * |X| := by
    refine le_of_sq_le_sq ?_ (by positivity)
    rw [mul_pow, sq_abs]
    norm_num at hsquare hlevel ⊢
    nlinarith [sq_nonneg X, sq_nonneg gap]
  refine ⟨hgap, ?_⟩
  have hback : |X| - 2 ^ (-50 : ℤ) * gap ≤ |toReal f.x| * gap := by
    rw [← abs_of_pos hpos, ← abs_mul, abs_of_pos hpos]
    linarith [abs_sub_abs_le_abs_sub X (toReal f.x * gap), abs_sub_comm X (toReal f.x * gap),
      h.along_x]
  refine le_of_mul_le_mul_right (le_trans ?_ hback) hpos
  norm_num at hgap ⊢
  linarith

theorem moves (h : Heading f gap X Y) (hle : |Y| ≤ 99999 * |X|) : 2 ^ (-34 : ℤ) ≤ |X| := by
  have hlong := h.long
  have hgap := (h.steep hle).1
  norm_num at hlong hgap ⊢
  linarith

-- An upright direction, up to rounding.
theorem upright (h : Heading f gap 0 Y) :
    |toReal f.x| ≤ 2 ^ (-50 : ℤ) ∧ 1 - 2 ^ (-46 : ℤ) ≤ |toReal f.y| := by
  have hpos := h.pos
  have hx : |toReal f.x| ≤ 2 ^ (-50 : ℤ) := by
    have halong := h.along_x
    rw [sub_zero, abs_mul, abs_of_pos hpos] at halong
    exact le_of_mul_le_mul_right halong hpos
  refine ⟨hx, ?_⟩
  have hunit := (abs_le.mp h.unit).1
  have hsquare : toReal f.x ^ 2 ≤ (2 ^ (-50 : ℤ)) ^ 2 := by
    rw [← sq_abs]
    gcongr
  refine le_of_sq_le_sq ?_ (abs_nonneg _)
  rw [sq_abs]
  norm_num at hunit hsquare ⊢
  linarith

theorem length_le (h : Heading f gap 0 Y) : 0.99 * gap ≤ |Y| := by
  have hpos := h.pos
  have hsquare := (abs_le.mp h.square).1
  refine le_of_sq_le_sq ?_ (abs_nonneg _)
  rw [sq_abs]
  norm_num at hsquare ⊢
  nlinarith [sq_nonneg gap]

-- The two span an area.
theorem cross_large {g : Point Float} {height Z : ℝ} (h : Heading f gap X Y)
    (hside : Heading g height 0 Z) (hle : |Y| ≤ 99999 * |X|) :
    1.000004 / 10 ^ 5 ≤ |toReal f.x * toReal g.y - toReal f.y * toReal g.x| := by
  obtain ⟨hnarrow, htall⟩ := hside.upright
  have hfirst : 1.000005 / 10 ^ 5 * (1 - 2 ^ (-46 : ℤ)) ≤ |toReal f.x * toReal g.y| := by
    rw [abs_mul]
    exact mul_le_mul (h.steep hle).2 htall (by norm_num) (abs_nonneg _)
  have hsecond := abs_mul_le_mul h.short_y hnarrow
  have htriangle := abs_sub_abs_le_abs_sub (toReal f.x * toReal g.y) (toReal f.y * toReal g.x)
  generalize toReal f.x * toReal g.y = first at *
  generalize toReal f.y * toReal g.x = second at *
  norm_num at hfirst hsecond ⊢
  linarith

end Heading

theorem Point.not_parallel {p q : Point Float} (hp : p.Within 1.01) (hq : q.Within 1.01)
    (hcross : 1.000004 / 10 ^ 5 ≤ |toReal p.x * toReal q.y - toReal p.y * toReal q.x|) :
    ¬Scalar.abs (p.cross q) < Scalar.tolerance := by
  have hleft := hp.x.estimates_mul hq.y (by norm_num)
  have hright := hp.y.estimates_mul hq.x (by norm_num)
  have hshortLeft := abs_mul_le_mul hp.x.abs_le hq.y.abs_le
  have hshortRight := abs_mul_le_mul hp.y.abs_le hq.x.abs_le
  have hsub : Estimates (p.cross q) _ _ := hleft.sub hright (a := 2) (b := 2)
    (by norm_num at hshortLeft ⊢; linarith) (by norm_num at hshortRight ⊢; linarith) (by norm_num)
  have htriangle := abs_sub_abs_le_abs_sub
    (toReal p.x * toReal q.y - toReal p.y * toReal q.x) (toReal (p.cross q))
  rw [abs_sub_comm _ (toReal (p.cross q))] at htriangle
  have hnear := hsub.near
  have htolerance := toReal_tolerance.2
  change ¬Float.abs (p.cross q) < _
  rw [lt_iff_toReal ((isFinite_abs _).trans hsub.finite) isFinite_tolerance, toReal_abs, not_lt]
  norm_num at hnear htolerance hcross
  linarith

namespace Line

variable {l k : Line Float} {s : ℝ}

theorem crossing_eq (hl : ¬l.length < Scalar.tolerance) (hk : ¬k.length < Scalar.tolerance)
    (hcross : ¬Scalar.abs (l.direction.cross k.direction) < Scalar.tolerance) :
    l.crossing k = some ((k.a - l.a).cross (k.b - k.a) / (l.b - l.a).cross (k.b - k.a),
      (k.a - l.a).cross (l.b - l.a) / (l.b - l.a).cross (k.b - k.a)) := by
  have hnorm (j : Line Float) : (j.b - j.a).norm = j.length := Point.dist_swap j.b j.a
  rw [crossing]
  simp only [hnorm]
  rw [if_neg (not_or.mpr ⟨hl, hk⟩)]
  exact if_neg hcross

namespace Plain

variable (hl : l.Plain) (hk : k.Plain) (hs : 0 ≤ s ∧ s ≤ 1)
include hl hk hs

-- Where a segment that is not as good as upright meets an upright line.
theorem exists_crossing_upright (hsame : k.a.x = k.b.x)
    (hsteep : |toReal l.b.y - toReal l.a.y| ≤ 99999 * |toReal l.b.x - toReal l.a.x|)
    (hside : (l.real.pointAt s).x = toReal k.a.x) :
    ∃ t u, l.crossing k = some (t, u) ∧ Estimates t s (2 ^ (-48 : ℤ)) := by
  have hheading := hk.heading
  have hzero : toReal (k.b.x - k.a.x) = 0 := by
    rw [hsame]
    exact toReal_sub_self hk.finish.x.finite
  rw [hsame, sub_self] at hheading
  obtain ⟨hextent, hlong⟩ :=
    bounded_extent hk.start.y hk.finish.y hheading.long hheading.length_le
  have hcross := Point.not_parallel hl.within_direction hk.within_direction
    (hl.heading.cross_large hheading hsteep)
  refine ⟨_, _, crossing_eq hl.apart hk.apart hcross, ?_⟩
  exact (estimates_parameter hl.start.x hl.finish.x hk.start.x.finite hs hside
    (hl.heading.moves hsteep) hextent hlong (hk.start.y.sub hl.start.y (by norm_num)).finite
    (hl.finish.y.sub hl.start.y (by norm_num)).finite
    (hk.finish.x.sub hk.start.x (by norm_num)).finite hzero).1

-- Where one that is not as good as level meets a level line.
theorem exists_crossing_level (hsame : k.a.y = k.b.y)
    (hsteep : |toReal l.b.x - toReal l.a.x| ≤ 99999 * |toReal l.b.y - toReal l.a.y|)
    (hside : (l.real.pointAt s).y = toReal k.a.y) :
    ∃ t u, l.crossing k = some (t, u) ∧ Estimates t s (2 ^ (-48 : ℤ)) := by
  have hheading := hk.heading.swap
  have hzero : toReal (k.b.y - k.a.y) = 0 := by
    rw [hsame]
    exact toReal_sub_self hk.finish.y.finite
  rw [hsame, sub_self] at hheading
  obtain ⟨hextent, hlong⟩ :=
    bounded_extent hk.start.x hk.finish.x hheading.long hheading.length_le
  have harea := hl.heading.swap.cross_large hheading hsteep
  dsimp only at harea
  rw [abs_sub_comm] at harea
  have hcross := Point.not_parallel hl.within_direction hk.within_direction harea
  refine ⟨_, _, crossing_eq hl.apart hk.apart hcross, ?_⟩
  exact (estimates_parameter hl.start.y hl.finish.y hk.start.y.finite hs hside
    (hl.heading.swap.moves hsteep) hextent hlong (hk.start.x.sub hl.start.x (by norm_num)).finite
    (hl.finish.x.sub hl.start.x (by norm_num)).finite
    (hk.finish.y.sub hk.start.y (by norm_num)).finite hzero).2

end Plain

end Line

-- A box in range whose sides are long enough to have a direction.
structure Box.Plain (box : Box Float) : Prop where
  range : box.Within (10 ^ 7)
  sides : ∀ side ∈ box.sides, ¬side.length < Scalar.tolerance

theorem Box.Plain.side {box : Box Float} (h : box.Plain) {side : Line Float}
    (hside : side ∈ box.sides) : side.Plain := by
  have hlong := h.sides side hside
  have hlow := h.range.low
  have hhigh := h.range.high
  simp only [Box.sides, List.mem_cons, List.not_mem_nil, or_false] at hside
  rcases hside with rfl | rfl | rfl | rfl
  · exact ⟨hlow, ⟨hlow.x, hhigh.y⟩, hlong⟩
  · exact ⟨⟨hlow.x, hhigh.y⟩, hhigh, hlong⟩
  · exact ⟨hhigh, ⟨hhigh.x, hlow.y⟩, hlong⟩
  · exact ⟨⟨hhigh.x, hlow.y⟩, hlow, hlong⟩

end PlaneSketch

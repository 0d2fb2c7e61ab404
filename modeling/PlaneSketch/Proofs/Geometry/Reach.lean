import PlaneSketch.Geometry.Angle
import PlaneSketch.Geometry.Placement
import PlaneSketch.Proofs.Binary.Order
import PlaneSketch.Proofs.Geometry.Heading

namespace PlaneSketch

open Binary Float.Model Float.Model.UnpackedFloat

section Division

variable {x y : Float}

theorem isFinite_of_div (h : (x / y).isFinite = true) : x.isFinite = true := by
  have hquotient := isFinite_of_unpack_pack _ h
  change x.toModel.unpack.isFinite = true
  generalize x.toModel.unpack = a at *
  generalize y.toModel.unpack = b at *
  cases a with
  | infinity s => cases b <;> cases hquotient
  | notANumber => cases b <;> cases hquotient
  | _ => rfl

-- What lies between two finite numbers is finite.
theorem isFinite_of_between {z : Float} (hx : x.isFinite = true) (hz : z.isFinite = true)
    (hxy : x ≤ y) (hyz : y ≤ z) : y.isFinite = true := by
  rw [le_iff_extended] at hxy hyz
  cases hy : y.isFinite with
  | true => rfl
  | false =>
      obtain ⟨s, hs⟩ := eq_infinity_of_not_isFinite hy hyz.1
      rw [hs, extended_of_isFinite hx] at hxy
      rw [hs, extended_of_isFinite hz] at hyz
      cases s with
      | negative => exact absurd hxy.2.2 (not_le.mpr (EReal.bot_lt_coe _))
      | positive => exact absurd hyz.2.2 (not_le.mpr (EReal.coe_lt_top _))

theorem isNaN_sub_of_isFinite_left (hx : x.isFinite = true) : (x - y).isNaN = y.isNaN := by
  cases hy : y.isFinite with
  | true => rw [isNaN_sub_of_isFinite hy, isNaN_of_isFinite hx, isNaN_of_isFinite hy]
  | false =>
      refine (isNaN_unpack_pack _).trans ?_
      change x.toModel.unpack.isFinite = true at hx
      change y.toModel.unpack.isFinite = false at hy
      change _ = y.toModel.unpack.isNaN
      generalize x.toModel.unpack = a at *
      generalize y.toModel.unpack = b at *
      cases a <;> cases b <;>
        simp_all [UnpackedFloat.sub, UnpackedFloat.isFinite, UnpackedFloat.isNaN]

end Division

namespace Point

variable {p q : Point Float} {k : Float} {a b : ℝ}

namespace Within

theorem weaken (hp : p.Within a) (hle : a ≤ b) : p.Within b :=
  ⟨hp.x.weaken hle, hp.y.weaken hle⟩

theorem add (hp : p.Within a) (hq : q.Within b) (hbound : a + b ≤ 2 ^ 200) :
    (p + q).Within (2 * (a + b) + 1) :=
  ⟨hp.x.add hq.x hbound, hp.y.add hq.y hbound⟩

theorem sub (hp : p.Within a) (hq : q.Within b) (hbound : a + b ≤ 2 ^ 200) :
    (p - q).Within (2 * (a + b) + 1) :=
  ⟨hp.x.sub hq.x hbound, hp.y.sub hq.y hbound⟩

theorem scale (hp : p.Within a) (hk : Bounded k b) (hbound : a * b ≤ 2 ^ 200) :
    (p.scale k).Within (2 * (a * b) + 1) :=
  ⟨hp.x.mul hk hbound, hp.y.mul hk hbound⟩

theorem rotate90 (hp : p.Within a) : p.rotate90.Within a := ⟨hp.y.neg, hp.x⟩

theorem normalize (hp : p.Within a) : p.normalize.Within 3 := by
  obtain ⟨t, hscaled⟩ := exists_scaled_normalize hp.isFinite
  exact ⟨⟨hscaled.finite.x, hscaled.abs_x_le⟩, ⟨hscaled.finite.y, hscaled.abs_y_le⟩⟩

theorem isFinite_dist (hp : p.Within a) (hq : q.Within a) (hbound : a ≤ 2 ^ 190) :
    (p.dist q).isFinite = true := by
  have hsub := hp.sub hq (by linarith)
  refine (approximates_hypot hsub.x.finite hsub.y.finite).isFinite ?_
  linarith [abs_root_le (toReal (p - q).x) (toReal (p - q).y), hsub.x.abs_le, hsub.y.abs_le]

end Within

theorem isNaN_dist_of_isNaN (hp : p.IsFinite) (hx : q.x.isNaN = false) (hy : q.y.isNaN = false) :
    (p.dist q).isNaN = false := by
  rw [isNaN_dist, isNaN_sub_of_isFinite_left hp.x, isNaN_sub_of_isFinite_left hp.y, hx, hy]
  rfl

end Point

namespace Line

variable {l : Line Float} {p : Point Float} {a : ℝ}

-- The foot on a segment can be beyond all numbers, but it has a place.
theorem isNaN_segmentDist (ha : l.a.IsFinite) (hb : l.b.IsFinite) (hp : p.IsFinite) :
    (l.segmentDist p).isNaN = false := by
  unfold segmentDist
  split
  · exact Point.isNaN_dist_of_isFinite hp ha
  rename_i hlong
  simp only
  split
  · rename_i hbetween
    have hfoot : l.project p = ⟨l.a + l.direction.scale ((p - l.a).dot l.direction),
        (p - l.a).dot l.direction / l.length⟩ := if_neg hlong
    rw [hfoot] at hbetween ⊢
    have halong := isFinite_of_div (isFinite_of_between rfl rfl hbetween.1 hbetween.2)
    obtain ⟨hx, hy⟩ := isFinite_of_add halong
    refine Point.isNaN_dist_of_isNaN hp ?_ ?_
    · exact (isNaN_add_of_isFinite ha.x).trans
        (isNaN_mul_of_isFinite (isFinite_of_mul hx).2 halong)
    · exact (isNaN_add_of_isFinite ha.y).trans
        (isNaN_mul_of_isFinite (isFinite_of_mul hy).2 halong)
  split
  · exact Point.isNaN_dist_of_isFinite hp ha
  · exact Point.isNaN_dist_of_isFinite hp hb

-- The foot of a point is not much further away than the point and the line.
theorem within_project (ha : l.a.Within a) (hb : l.b.Within a) (hp : p.Within a) (hlow : 1 ≤ a)
    (hhigh : a ≤ 2 ^ 100) : (l.project p).point.Within (2 ^ 11 * a) := by
  unfold project
  simp only
  split
  · exact ha.weaken (by linarith)
  have hdirection : l.direction.Within 3 := (hb.sub ha (by linarith)).normalize
  have hoffset := hp.sub ha (by linarith)
  have halong : Bounded ((p - l.a).dot l.direction) _ :=
    (hoffset.x.mul hdirection.x (by linarith)).add (hoffset.y.mul hdirection.y (by linarith))
      (by linarith)
  exact (ha.add (hdirection.scale halong (by linarith)) (by linarith)).weaken (by linarith)

end Line

-- A label is drawn at a place if the dimension is of ordinary size and so is its placement.
theorem Placement.isFinite_position {placement : Placement Float} {a b : Point Float} {bound : ℝ}
    (ha : a.Within bound) (hb : b.Within bound) (ht : Bounded placement.t (2 ^ 64))
    (hoffset : Bounded placement.offset (2 ^ 64)) (hbound : bound ≤ 2 ^ 100) :
    (placement.position a b).IsFinite := by
  have hdelta := hb.sub ha (by linarith)
  have halong := ha.add (hdelta.scale ht (by norm_num; linarith)) (by norm_num; linarith)
  have hacross := hdelta.rotate90.normalize.scale hoffset (by norm_num)
  exact (halong.add hacross (by norm_num; linarith)).isFinite

namespace Arc

variable {arc : Arc Float} {p : Point Float}

theorem within_midpoint {a b : Point Float} {bound : ℝ} (ha : a.Within bound) (hb : b.Within bound)
    (hlow : 1 ≤ bound) (hbound : bound ≤ 2 ^ 100) : (a.midpoint b).Within (2 ^ 4 * bound) := by
  have hhalf : Bounded 0.5 1 := by
    have hunpack : (0.5 : Float).toModel.unpack =
        .finite .positive 4503599627370496 (-53) (by decide) := by rfl
    refine ⟨rfl, ?_⟩
    rw [toReal, hunpack, value_finite, unit]
    norm_num [abs_of_pos]
  have hx := (ha.x.add hb.x (by linarith)).mul hhalf (by linarith)
  have hy := (ha.y.add hb.y (by linarith)).mul hhalf (by linarith)
  exact ⟨hx.weaken (by linarith), hy.weaken (by linarith)⟩

theorem within_adjustedCenter {bound : ℝ} (ha : arc.a.Within bound) (hb : arc.b.Within bound)
    (hcenter : arc.center.Within bound) (hlow : 1 ≤ bound) (hbound : bound ≤ 2 ^ 64) :
    arc.adjustedCenter.Within (2 ^ 18 * bound) := by
  have hlarge : (2 : ℝ) ^ 64 ≤ 2 ^ 90 := by norm_num
  unfold adjustedCenter
  split
  · exact hcenter.weaken (by linarith)
  have hmid := within_midpoint ha hb hlow (by linarith)
  have hend := hmid.add (hb.sub ha (by linarith)).rotate90 (by linarith)
  exact (Line.within_project (l := ⟨_, _⟩) (a := 2 ^ 7 * bound) (hmid.weaken (by linarith))
    (hend.weaken (by linarith)) (hcenter.weaken (by linarith)) (by linarith)
    (by linarith)).weaken (by linarith)

-- Whatever the angles say, the distance is to the circle or to one of the ends.
theorem dist_cases (arc : Arc Float) (p : Point Float) :
    arc.dist p = (p.dist arc.adjustedCenter - arc.adjustedCenter.dist arc.a).abs ∨
      arc.dist p = p.dist arc.a ∨ arc.dist p = p.dist arc.b := by
  have hwithin : ∃ within : Bool, arc.dist p =
      if within then (p.dist arc.adjustedCenter - arc.adjustedCenter.dist arc.a).abs
      else Scalar.least (p.dist arc.a) (p.dist arc.b) := ⟨_, rfl⟩
  obtain ⟨within, hdist⟩ := hwithin
  rw [hdist]
  cases within with
  | true => exact .inl rfl
  | false =>
      right
      change Scalar.least _ _ = _ ∨ Scalar.least _ _ = _
      unfold Scalar.least
      split
      · exact .inr rfl
      · exact .inl rfl

theorem isNaN_dist {bound : ℝ} (ha : arc.a.Within bound) (hb : arc.b.Within bound)
    (hcenter : arc.center.Within bound) (hlow : 1 ≤ bound) (hbound : bound ≤ 2 ^ 64)
    (hp : p.IsFinite) : (arc.dist p).isNaN = false := by
  have hadjusted := within_adjustedCenter ha hb hcenter hlow hbound
  have hlarge : (2 : ℝ) ^ 64 ≤ 2 ^ 90 := by norm_num
  have hradius := hadjusted.isFinite_dist (ha.weaken (by linarith)) (by linarith)
  rcases dist_cases arc p with hdist | hdist | hdist
  · rw [hdist, isNaN_abs, isNaN_sub_of_isFinite hradius]
    exact Point.isNaN_dist_of_isFinite hp hadjusted.isFinite
  · rw [hdist]
    exact Point.isNaN_dist_of_isFinite hp ha.isFinite
  · rw [hdist]
    exact Point.isNaN_dist_of_isFinite hp hb.isFinite

end Arc

end PlaneSketch

import PlaneSketch.Proofs.Geometry.Foot
import PlaneSketch.Geometry.Arc

namespace PlaneSketch

namespace Arc

section

variable {α : Type} [Scalar α]

-- Where the center of an arc belongs. The line is described by two positions as far apart as the
-- ends, so it has a direction whenever these can be told apart.
def bisector (arc : Arc α) : Line α :=
  ⟨arc.a.midpoint arc.b, arc.a.midpoint arc.b + (arc.b - arc.a).rotate90⟩

-- The arc with its center moved to where it belongs.
def centered (arc : Arc α) : Arc α := { arc with center := arc.adjustedCenter }

-- The arc drawn from its other end.
def flip (arc : Arc α) : Arc α := ⟨arc.b, arc.a, arc.center⟩

end

variable {arc : Arc ℝ} {p : Point ℝ}

theorem length_bisector (arc : Arc ℝ) : arc.bisector.length = arc.a.dist arc.b := by
  have hturned : arc.bisector.b - arc.bisector.a = (arc.b - arc.a).rotate90 := by
    ext <;> simp [bisector]
  rw [Line.length, ← Point.norm_sub, hturned, Point.norm_rotate90, Point.norm_sub]

theorem dist_eq_of_contains_bisector (h : arc.bisector.Contains p) :
    p.dist arc.a = p.dist arc.b := by
  obtain ⟨t, rfl⟩ := h
  rw [← sq_eq_sq₀ (Point.dist_nonneg _ _) (Point.dist_nonneg _ _), Point.sq_dist, Point.sq_dist]
  simp only [Line.pointAt_x, Line.pointAt_y, bisector, Point.add_x, Point.add_y, Point.midpoint_x,
    Point.midpoint_y, Point.rotate90_x, Point.rotate90_y, Point.sub_x, Point.sub_y]
  ring

section Long

variable (h : Scalar.tolerance ≤ arc.a.dist arc.b)
include h

theorem contains_bisector_iff : arc.bisector.Contains p ↔ p.dist arc.a = p.dist arc.b := by
  refine ⟨dist_eq_of_contains_bisector, fun hequal => ?_⟩
  have hpos : 0 < arc.b.dist arc.a :=
    Point.dist_comm arc.a arc.b ▸ Scalar.tolerance_pos.trans_le h
  have hbisector : arc.bisector = ⟨arc.b.midpoint arc.a,
      arc.b.midpoint arc.a + ⟨arc.a.y - arc.b.y, -(arc.a.x - arc.b.x)⟩⟩ := by
    have hmid : arc.b.midpoint arc.a = arc.a.midpoint arc.b := by ext <;> simp [add_comm]
    rw [hmid, bisector]
    congr 2
    ext <;> simp
  rw [hbisector]
  exact Line.contains_bisector hpos hequal.symm

theorem long_bisector : Scalar.tolerance ≤ arc.bisector.length := by
  rw [length_bisector]
  exact h

theorem adjustedCenter_eq : arc.adjustedCenter = (arc.bisector.project arc.center).point :=
  if_neg (not_lt.mpr h)

theorem dist_adjustedCenter : arc.adjustedCenter.dist arc.a = arc.adjustedCenter.dist arc.b := by
  rw [adjustedCenter_eq h]
  exact dist_eq_of_contains_bisector ⟨_, Line.project_point (long_bisector h) _⟩

-- No other place at equal distance from the ends is as near to the center.
theorem dist_adjustedCenter_lt (hp : p.dist arc.a = p.dist arc.b)
    (hne : p ≠ arc.adjustedCenter) :
    arc.center.dist arc.adjustedCenter < arc.center.dist p := by
  rw [adjustedCenter_eq h] at hne ⊢
  exact Line.dist_foot_lt (long_bisector h) ((contains_bisector_iff h).mpr hp) hne

theorem eq_adjustedCenter (hp : p.dist arc.a = p.dist arc.b)
    (hnear : arc.center.dist p ≤ arc.center.dist arc.adjustedCenter) : p = arc.adjustedCenter := by
  by_contra hne
  exact (dist_adjustedCenter_lt h hp hne).not_ge hnear

theorem adjustedCenter_eq_center (hcenter : arc.center.dist arc.a = arc.center.dist arc.b) :
    arc.adjustedCenter = arc.center := by
  refine (eq_adjustedCenter h hcenter ?_).symm
  rw [Point.dist_same]
  exact Point.dist_nonneg _ _

theorem adjustedCenter_centered : arc.centered.adjustedCenter = arc.adjustedCenter :=
  adjustedCenter_eq_center (show Scalar.tolerance ≤ arc.centered.a.dist arc.centered.b from h)
    (dist_adjustedCenter h)

-- Both moved centers are at equal distance from the ends, so neither is the farther one.
theorem adjustedCenter_flip : arc.flip.adjustedCenter = arc.adjustedCenter := by
  have hflip : Scalar.tolerance ≤ arc.flip.a.dist arc.flip.b := Point.dist_comm arc.a arc.b ▸ h
  have hequal := dist_adjustedCenter hflip
  refine eq_adjustedCenter h hequal.symm (le_of_not_gt fun hfarther => ?_)
  have hne : arc.adjustedCenter ≠ arc.flip.adjustedCenter := by
    intro heq
    rw [heq] at hfarther
    exact lt_irrefl _ hfarther
  have hnearer := dist_adjustedCenter_lt hflip (dist_adjustedCenter h).symm hne
  exact hfarther.not_gt hnearer

end Long

end Arc

-- In exact arithmetic the center of an arc is moved to the one place that is nearest to it among
-- those at equal distance from the ends. A center in its place stays there, moving it once is
-- enough, and the ends count alike.
theorem adjustedCenter_nearest (arc : Arc ℝ) (h : Scalar.tolerance ≤ arc.a.dist arc.b) :
    arc.adjustedCenter.dist arc.a = arc.adjustedCenter.dist arc.b ∧
      (∀ p, p.dist arc.a = p.dist arc.b → p ≠ arc.adjustedCenter →
        arc.center.dist arc.adjustedCenter < arc.center.dist p) ∧
      (arc.center.dist arc.a = arc.center.dist arc.b → arc.adjustedCenter = arc.center) ∧
      arc.centered.adjustedCenter = arc.adjustedCenter ∧
      arc.flip.adjustedCenter = arc.adjustedCenter :=
  ⟨Arc.dist_adjustedCenter h, fun _ hp hne => Arc.dist_adjustedCenter_lt h hp hne,
    Arc.adjustedCenter_eq_center h, Arc.adjustedCenter_centered h, Arc.adjustedCenter_flip h⟩

-- A vault whose center is drawn five beyond its place.
theorem adjustedCenter_nearest_vault :
    Scalar.tolerance ≤ (⟨0, 0⟩ : Point ℝ).dist ⟨6, 8⟩ ∧
      Arc.adjustedCenter ⟨⟨0, 0⟩, ⟨6, 8⟩, ⟨10, 5⟩⟩ = (⟨7, 1⟩ : Point ℝ) ∧
      Arc.adjustedCenter ⟨⟨0, 0⟩, ⟨6, 8⟩, ⟨7, 1⟩⟩ = (⟨7, 1⟩ : Point ℝ) ∧
      Arc.adjustedCenter ⟨⟨6, 8⟩, ⟨0, 0⟩, ⟨10, 5⟩⟩ = (⟨7, 1⟩ : Point ℝ) := by
  have hlength : (⟨0, 0⟩ : Point ℝ).dist ⟨6, 8⟩ = 10 := by
    rw [Point.dist_eq, Real.sqrt_eq_iff_mul_self_eq] <;> norm_num
  have hlong : Scalar.tolerance ≤ (⟨0, 0⟩ : Point ℝ).dist ⟨6, 8⟩ := by
    norm_num [hlength, Scalar.tolerance]
  have hplace : (⟨7, 1⟩ : Point ℝ).dist ⟨0, 0⟩ = (⟨7, 1⟩ : Point ℝ).dist ⟨6, 8⟩ := by
    rw [Point.dist_eq, Point.dist_eq]
    norm_num
  obtain ⟨hequal, hnearest, -, hcentered, hflip⟩ :=
    adjustedCenter_nearest ⟨⟨0, 0⟩, ⟨6, 8⟩, ⟨10, 5⟩⟩ hlong
  have hmoved : Arc.adjustedCenter ⟨⟨0, 0⟩, ⟨6, 8⟩, ⟨10, 5⟩⟩ = (⟨7, 1⟩ : Point ℝ) := by
    by_contra hne
    have hnearer := pow_lt_pow_left₀ (hnearest ⟨7, 1⟩ hplace (Ne.symm hne))
      (Point.dist_nonneg _ _) two_ne_zero
    have hmiddle := congrArg (· ^ 2) hequal
    simp only [Point.sq_dist] at hnearer hmiddle
    generalize (Arc.adjustedCenter ⟨⟨0, 0⟩, ⟨6, 8⟩, ⟨10, 5⟩⟩ : Point ℝ) = moved at hnearer hmiddle
    have hline : moved.y = (25 - 3 * moved.x) / 4 := by linarith
    rw [hline] at hnearer
    linarith [sq_nonneg (moved.x - 7)]
  simp only [Arc.centered, hmoved] at hcentered
  rw [hmoved] at hflip
  exact ⟨hlong, hmoved, hcentered, hflip⟩

end PlaneSketch

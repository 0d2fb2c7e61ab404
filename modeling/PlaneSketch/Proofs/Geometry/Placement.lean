import PlaneSketch.Proofs.Geometry.Foot
import PlaneSketch.Geometry.Placement

namespace PlaneSketch

-- A vector may be turned before it is brought to length one, or after.
theorem Point.normalize_rotate90 (v : Point ℝ) : v.rotate90.normalize = v.normalize.rotate90 := by
  rcases lt_or_ge v.norm Scalar.tolerance with hshort | hlong
  · have hturned : v.rotate90.norm < Scalar.tolerance := by rwa [norm_rotate90]
    have horigin : (origin : Point ℝ).rotate90 = origin := by norm_num [rotate90, origin]
    rw [normalize, normalize, if_pos hturned, if_pos hshort, horigin]
  · have hturned : Scalar.tolerance ≤ v.rotate90.norm := by rwa [norm_rotate90]
    rw [normalize_of_le hturned, normalize_of_le hlong, norm_rotate90]
    ext
    · exact neg_div _ _
    · rfl

attribute [ext] Placement

namespace Placement

section Long

variable {a b : Point ℝ} (h : Scalar.tolerance ≤ a.dist b)
include h

theorem normalize_sub :
    (b - a).normalize = ⟨(b.x - a.x) / a.dist b, (b.y - a.y) / a.dist b⟩ :=
  Line.direction_eq (l := ⟨a, b⟩) h

-- The parameter of a label is that of its foot on the dimension.
theorem t_ofPosition (label : Point ℝ) : (ofPosition a b label).t * a.dist b ^ 2 =
    (label.x - a.x) * (b.x - a.x) + (label.y - a.y) * (b.y - a.y) := by
  have hfoot : (ofPosition a b label).t = (Line.project ⟨a, b⟩ label).t := by
    have hdot : (b - a).normalize.dot (label - a) = (label - a).dot (b - a).normalize :=
      congrArg₂ (· + ·) (mul_comm _ _) (mul_comm _ _)
    rw [Line.project_eq (l := ⟨a, b⟩) h, ofPosition]
    simp only [if_pos h, hdot]
    rfl
  rw [hfoot]
  exact Line.project_t (l := ⟨a, b⟩) h label

-- The offset of a label is measured at a right angle to the dimension.
theorem offset_ofPosition (label : Point ℝ) : (ofPosition a b label).offset * a.dist b =
    (b.x - a.x) * (label.y - a.y) - (b.y - a.y) * (label.x - a.x) := by
  have hpos : 0 < a.dist b := Scalar.tolerance_pos.trans_le h
  have hdot (v w : Point ℝ) : v.dot w = v.x * w.x + v.y * w.y := rfl
  simp only [ofPosition, normalize_sub h, hdot, Point.rotate90_x, Point.rotate90_y, Point.sub_x,
    Point.sub_y]
  field_simp
  ring

theorem x_position (placement : Placement ℝ) :
    ((placement.position a b).x - a.x) * a.dist b =
      (b.x - a.x) * placement.t * a.dist b - (b.y - a.y) * placement.offset := by
  have hpos : 0 < a.dist b := Scalar.tolerance_pos.trans_le h
  simp only [position, Point.normalize_rotate90, normalize_sub h, Point.add_x, Point.scale_x,
    Point.sub_x, Point.rotate90_x]
  field_simp
  ring

theorem y_position (placement : Placement ℝ) :
    ((placement.position a b).y - a.y) * a.dist b =
      (b.y - a.y) * placement.t * a.dist b + (b.x - a.x) * placement.offset := by
  have hpos : 0 < a.dist b := Scalar.tolerance_pos.trans_le h
  simp only [position, Point.normalize_rotate90, normalize_sub h, Point.add_y, Point.scale_y,
    Point.sub_y, Point.rotate90_y]
  field_simp
  ring

-- A label is drawn where its placement was read off.
theorem position_ofPosition (label : Point ℝ) :
    (ofPosition a b label).position a b = label := by
  have hsquare : a.dist b ^ 2 ≠ 0 := pow_ne_zero 2 (Scalar.tolerance_pos.trans_le h).ne'
  have ht := t_ofPosition h label
  have hoffset := offset_ofPosition h label
  have hx := x_position h (ofPosition a b label)
  have hy := y_position h (ofPosition a b label)
  have hsq := Point.sq_dist a b
  ext
  · apply mul_right_cancel₀ hsquare
    linear_combination a.dist b * hx + (b.x - a.x) * ht - (b.y - a.y) * hoffset +
      (a.x - label.x) * hsq
  · apply mul_right_cancel₀ hsquare
    linear_combination a.dist b * hy + (b.y - a.y) * ht + (b.x - a.x) * hoffset +
      (a.y - label.y) * hsq

-- A placement is read off where it puts its label.
theorem ofPosition_position (placement : Placement ℝ) :
    ofPosition a b (placement.position a b) = placement := by
  have hlength : a.dist b ≠ 0 := (Scalar.tolerance_pos.trans_le h).ne'
  have ht := t_ofPosition h (placement.position a b)
  have hoffset := offset_ofPosition h (placement.position a b)
  have hx := x_position h placement
  have hy := y_position h placement
  have hsq := Point.sq_dist a b
  ext
  · apply mul_right_cancel₀ (pow_ne_zero 3 hlength)
    linear_combination a.dist b * ht + (b.x - a.x) * hx + (b.y - a.y) * hy -
      placement.t * a.dist b * hsq
  · apply mul_right_cancel₀ (pow_ne_zero 2 hlength)
    linear_combination a.dist b * hoffset + (b.x - a.x) * hy - (b.y - a.y) * hx -
      placement.offset * hsq

end Long

-- In exact arithmetic reading off the placement of a label and drawing a label undo each other,
-- for a dimension in any direction that is not too short to have one.
theorem position_inverse {a b : Point ℝ} (h : Scalar.tolerance ≤ a.dist b) :
    (∀ label, (ofPosition a b label).position a b = label) ∧
      ∀ placement : Placement ℝ, ofPosition a b (placement.position a b) = placement :=
  ⟨position_ofPosition h, ofPosition_position h⟩

-- A label five to the left of the middle of a ramp of length five.
theorem position_inverse_ramp :
    Scalar.tolerance ≤ (⟨0, 0⟩ : Point ℝ).dist ⟨4, 3⟩ ∧
      position ⟨1 / 2, 5⟩ ⟨0, 0⟩ ⟨4, 3⟩ = (⟨-1, 11 / 2⟩ : Point ℝ) ∧
      ofPosition ⟨0, 0⟩ ⟨4, 3⟩ ⟨-1, 11 / 2⟩ = (⟨1 / 2, 5⟩ : Placement ℝ) ∧
      (ofPosition ⟨0, 0⟩ ⟨4, 3⟩ ⟨-1, 11 / 2⟩).position ⟨0, 0⟩ ⟨4, 3⟩ =
        (⟨-1, 11 / 2⟩ : Point ℝ) := by
  have hlength : (⟨0, 0⟩ : Point ℝ).dist ⟨4, 3⟩ = 5 := by
    rw [Point.dist_eq, Real.sqrt_eq_iff_mul_self_eq] <;> norm_num
  have hlong : Scalar.tolerance ≤ (⟨0, 0⟩ : Point ℝ).dist ⟨4, 3⟩ := by
    norm_num [hlength, Scalar.tolerance]
  have hlabel : position ⟨1 / 2, 5⟩ ⟨0, 0⟩ ⟨4, 3⟩ = (⟨-1, 11 / 2⟩ : Point ℝ) := by
    have hx := x_position hlong ⟨1 / 2, 5⟩
    have hy := y_position hlong ⟨1 / 2, 5⟩
    rw [hlength] at hx hy
    ext
    · linarith
    · linarith
  obtain ⟨hdrawn, hread⟩ := position_inverse hlong
  exact ⟨hlong, hlabel, hlabel ▸ hread ⟨1 / 2, 5⟩, hdrawn ⟨-1, 11 / 2⟩⟩

end Placement

end PlaneSketch

import PlaneSketch.Proofs.Geometry.Common

namespace PlaneSketch

namespace Line

variable {l : Line ℝ} {p q : Point ℝ} {s t : ℝ}

theorem pointAt_zero (l : Line ℝ) : l.pointAt 0 = l.a := by
  ext
  · rw [pointAt_x, mul_zero, add_zero]
  · rw [pointAt_y, mul_zero, add_zero]

theorem pointAt_one (l : Line ℝ) : l.pointAt 1 = l.b := by
  ext
  · rw [pointAt_x, mul_one, add_sub_cancel]
  · rw [pointAt_y, mul_one, add_sub_cancel]

theorem sq_length (l : Line ℝ) :
    l.length ^ 2 = (l.b.x - l.a.x) ^ 2 + (l.b.y - l.a.y) ^ 2 := by
  rw [length, Point.dist_comm, Point.sq_dist]

section Long

variable (h : Scalar.tolerance ≤ l.length)
include h

theorem length_pos : 0 < l.length := Scalar.tolerance_pos.trans_le h

theorem direction_eq :
    l.direction = ⟨(l.b.x - l.a.x) / l.length, (l.b.y - l.a.y) / l.length⟩ := by
  have hnorm : (l.b - l.a).norm = l.length := Point.norm_sub l.a l.b
  rw [direction, Point.normalize_of_le (hnorm ▸ h), hnorm]
  rfl

theorem project_eq (p : Point ℝ) : l.project p =
    ⟨l.a + l.direction.scale ((p - l.a).dot l.direction), (p - l.a).dot l.direction / l.length⟩ :=
  if_neg (not_lt.mpr h)

-- The parameter of the foot, without the direction: the way from the first point of the line to
-- the given one, along the line.
theorem project_t (p : Point ℝ) : (l.project p).t * l.length ^ 2 =
    (p.x - l.a.x) * (l.b.x - l.a.x) + (p.y - l.a.y) * (l.b.y - l.a.y) := by
  have hpos := length_pos h
  have hdot : (p - l.a).dot l.direction =
      (p.x - l.a.x) * l.direction.x + (p.y - l.a.y) * l.direction.y := rfl
  rw [project_eq h, hdot, direction_eq h]
  field_simp

-- The foot is on the line, where its parameter says.
theorem project_point (p : Point ℝ) : (l.project p).point = l.pointAt (l.project p).t := by
  have hpos := length_pos h
  rw [project_eq h, direction_eq h]
  ext
  · simp only [pointAt_x, Point.add_x, Point.scale_x]
    field_simp
  · simp only [pointAt_y, Point.add_y, Point.scale_y]
    field_simp

-- The line meets the way to the foot at a right angle.
theorem sq_dist_pointAt (p : Point ℝ) (t : ℝ) : p.dist (l.pointAt t) ^ 2 =
    p.dist (l.project p).point ^ 2 + (t - (l.project p).t) ^ 2 * l.length ^ 2 := by
  have hfoot := project_t h p
  have hlength := sq_length l
  rw [project_point h, Point.sq_dist, Point.sq_dist]
  simp only [pointAt_x, pointAt_y]
  generalize (l.project p).t = foot at *
  linear_combination (t - foot) * (2 * hfoot - (t + foot) * hlength)

-- What is nearer to the foot is nearer to the point.
theorem dist_pointAt_le (hst : |s - (l.project p).t| ≤ |t - (l.project p).t|) :
    p.dist (l.pointAt s) ≤ p.dist (l.pointAt t) := by
  refine le_of_sq_le_sq ?_ (Point.dist_nonneg _ _)
  rw [sq_dist_pointAt h, sq_dist_pointAt h]
  have hsquare := sq_le_sq.mpr hst
  gcongr

-- No other point of the line is as near as the foot.
theorem dist_foot_lt (hq : l.Contains q) (hne : q ≠ (l.project p).point) :
    p.dist (l.project p).point < p.dist q := by
  obtain ⟨t, rfl⟩ := hq
  have haway : t - (l.project p).t ≠ 0 := by
    intro hzero
    exact hne (sub_eq_zero.mp hzero ▸ (project_point h p).symm)
  have hpos := length_pos h
  refine lt_of_pow_lt_pow_left₀ 2 (Point.dist_nonneg _ _) ?_
  rw [sq_dist_pointAt h p t]
  exact lt_add_of_pos_right _ (by positivity)

-- The distance to a segment is taken at the parameter of the foot, brought between those of the
-- ends.
theorem segmentDist_eq (p : Point ℝ) :
    l.segmentDist p = p.dist (l.pointAt (max 0 (min 1 (l.project p).t))) := by
  have hzero : (0.0 : ℝ) = 0 := by norm_num
  have hone : (1.0 : ℝ) = 1 := by norm_num
  rw [segmentDist, if_neg (not_lt.mpr h)]
  simp only [hzero, hone]
  by_cases hbefore : (l.project p).t < 0
  · have hclamped : max 0 (min 1 (l.project p).t) = 0 :=
      max_eq_left ((min_le_right _ _).trans hbefore.le)
    rw [if_neg fun hbetween => hbefore.not_ge hbetween.1, if_pos hbefore, hclamped, pointAt_zero]
  have hpast := not_lt.mp hbefore
  by_cases hbeyond : 1 < (l.project p).t
  · rw [if_neg fun hbetween => hbeyond.not_ge hbetween.2, if_neg hbefore,
      min_eq_left hbeyond.le, max_eq_right zero_le_one, pointAt_one]
  · have hbetween := And.intro hpast (not_lt.mp hbeyond)
    rw [if_pos hbetween, min_eq_right hbetween.2, max_eq_right hpast, project_point h]

end Long

end Line

-- Of the parameters from zero to one none is nearer to a given one than this brought in between.
theorem abs_clamp_sub_le {t u : ℝ} (h : 0 ≤ u ∧ u ≤ 1) : |max 0 (min 1 t) - t| ≤ |u - t| := by
  rcases le_total t 0 with hlow | hlow
  · rw [min_eq_right (hlow.trans zero_le_one), max_eq_left hlow, abs_of_nonneg (by linarith),
      abs_of_nonneg (by linarith)]
    linarith
  · rcases le_total t 1 with hhigh | hhigh
    · rw [min_eq_right hhigh, max_eq_right hlow, sub_self, abs_zero]
      exact abs_nonneg _
    · rw [min_eq_left hhigh, max_eq_right zero_le_one, abs_of_nonpos (by linarith),
        abs_of_nonpos (by linarith)]
      linarith

-- In exact arithmetic the distance to a segment is the least of the distances to its points, and a
-- point is projected to the one point of the infinite line that is nearest to it.
theorem segmentDist_least {l : Line ℝ} (h : Scalar.tolerance ≤ l.a.dist l.b) (p : Point ℝ) :
    IsLeast {d | ∃ t, (0 ≤ t ∧ t ≤ 1) ∧ d = p.dist (l.pointAt t)} (l.segmentDist p) ∧
      (l.project p).point = l.pointAt (l.project p).t ∧
      ∀ q, l.Contains q → q ≠ (l.project p).point →
        p.dist (l.project p).point < p.dist q := by
  refine ⟨⟨⟨max 0 (min 1 (l.project p).t), ?_, Line.segmentDist_eq h p⟩, ?_⟩,
    Line.project_point h p, fun q hq hne => Line.dist_foot_lt h hq hne⟩
  · exact ⟨le_max_left _ _, max_le zero_le_one (min_le_left _ _)⟩
  · rintro d ⟨t, hbetween, rfl⟩
    rw [Line.segmentDist_eq h]
    exact Line.dist_pointAt_le h (abs_clamp_sub_le hbetween)

-- A ramp of length five, and a place five above its middle.
theorem segmentDist_least_ramp :
    Scalar.tolerance ≤ (⟨0, 0⟩ : Point ℝ).dist ⟨4, 3⟩ ∧
      Line.segmentDist ⟨⟨0, 0⟩, ⟨4, 3⟩⟩ (⟨-1, 11 / 2⟩ : Point ℝ) = 5 ∧
      (Line.project ⟨⟨0, 0⟩, ⟨4, 3⟩⟩ (⟨-1, 11 / 2⟩ : Point ℝ)).point = ⟨2, 3 / 2⟩ := by
  have hlength : (⟨0, 0⟩ : Point ℝ).dist ⟨4, 3⟩ = 5 := by
    rw [Point.dist_eq, Real.sqrt_eq_iff_mul_self_eq] <;> norm_num
  have hlong : Scalar.tolerance ≤ (⟨0, 0⟩ : Point ℝ).dist ⟨4, 3⟩ := by
    norm_num [hlength, Scalar.tolerance]
  obtain ⟨hleast, hfoot, -⟩ := segmentDist_least (l := ⟨⟨0, 0⟩, ⟨4, 3⟩⟩) hlong ⟨-1, 11 / 2⟩
  have hsquare (t : ℝ) : (⟨-1, 11 / 2⟩ : Point ℝ).dist (Line.pointAt ⟨⟨0, 0⟩, ⟨4, 3⟩⟩ t) ^ 2 =
      5 ^ 2 + (5 * (t - 1 / 2)) ^ 2 := by
    rw [Point.sq_dist, Line.pointAt_x, Line.pointAt_y]
    ring
  have hmiddle : IsLeast {d | ∃ t, (0 ≤ t ∧ t ≤ 1) ∧
      d = (⟨-1, 11 / 2⟩ : Point ℝ).dist (Line.pointAt ⟨⟨0, 0⟩, ⟨4, 3⟩⟩ t)} 5 := by
    constructor
    · refine ⟨1 / 2, by norm_num, ?_⟩
      rw [← sq_eq_sq₀ (by norm_num) (Point.dist_nonneg _ _), hsquare]
      norm_num
    · rintro d ⟨t, -, rfl⟩
      refine le_of_sq_le_sq ?_ (Point.dist_nonneg _ _)
      rw [hsquare]
      exact le_add_of_nonneg_right (sq_nonneg _)
  have ht : (Line.project ⟨⟨0, 0⟩, ⟨4, 3⟩⟩ (⟨-1, 11 / 2⟩ : Point ℝ)).t = 1 / 2 := by
    have hsame := Line.project_t (l := ⟨⟨0, 0⟩, ⟨4, 3⟩⟩) hlong ⟨-1, 11 / 2⟩
    rw [Line.length, hlength] at hsame
    norm_num at hsame ⊢
    linarith
  refine ⟨hlong, hleast.unique hmiddle, ?_⟩
  rw [hfoot, ht]
  ext
  · rw [Line.pointAt_x]
    norm_num
  · rw [Line.pointAt_y]
    norm_num

end PlaneSketch

import Mathlib.Analysis.Real.Sqrt
import Mathlib.Tactic.FieldSimp
import Mathlib.Tactic.LinearCombination
import Mathlib.Tactic.Positivity
import PlaneSketch.Geometry.Line

namespace PlaneSketch

-- The geometry read over the real numbers, where every operation is exact.
noncomputable instance : Scalar ℝ where
  decLt := inferInstance
  decLe := inferInstance
  abs := fun x => |x|
  sqrt := Real.sqrt
  hypot := fun x y => √(x ^ 2 + y ^ 2)

theorem Scalar.tolerance_pos : (0 : ℝ) < Scalar.tolerance := by
  norm_num [Scalar.tolerance]

attribute [ext] Point

namespace Point

variable {p q : Point ℝ}

@[simp] theorem add_x (p q : Point ℝ) : (p + q).x = p.x + q.x := rfl

@[simp] theorem add_y (p q : Point ℝ) : (p + q).y = p.y + q.y := rfl

@[simp] theorem sub_x (p q : Point ℝ) : (p - q).x = p.x - q.x := rfl

@[simp] theorem sub_y (p q : Point ℝ) : (p - q).y = p.y - q.y := rfl

@[simp] theorem scale_x (p : Point ℝ) (k : ℝ) : (p.scale k).x = p.x * k := rfl

@[simp] theorem scale_y (p : Point ℝ) (k : ℝ) : (p.scale k).y = p.y * k := rfl

@[simp] theorem rotate90_x (p : Point ℝ) : p.rotate90.x = -p.y := rfl

@[simp] theorem rotate90_y (p : Point ℝ) : p.rotate90.y = p.x := rfl

theorem cross_eq (p q : Point ℝ) : p.cross q = p.x * q.y - p.y * q.x := rfl

@[simp] theorem midpoint_x (p q : Point ℝ) : (p.midpoint q).x = (p.x + q.x) / 2 := by
  norm_num [midpoint]
  ring

@[simp] theorem midpoint_y (p q : Point ℝ) : (p.midpoint q).y = (p.y + q.y) / 2 := by
  norm_num [midpoint]
  ring

theorem dist_eq (p q : Point ℝ) : p.dist q = √((p.x - q.x) ^ 2 + (p.y - q.y) ^ 2) := rfl

theorem sq_dist (p q : Point ℝ) : p.dist q ^ 2 = (p.x - q.x) ^ 2 + (p.y - q.y) ^ 2 :=
  Real.sq_sqrt (by positivity)

theorem dist_comm (p q : Point ℝ) : p.dist q = q.dist p := by
  rw [dist_eq, dist_eq, ← neg_sub q.x, ← neg_sub q.y, neg_sq, neg_sq]

@[simp] theorem dist_same (p : Point ℝ) : p.dist p = 0 := by
  simp [dist_eq]

theorem norm_sub (p q : Point ℝ) : (q - p).norm = p.dist q :=
  dist_comm q p

theorem norm_rotate90 (p : Point ℝ) : p.rotate90.norm = p.norm := by
  change √((-p.y) ^ 2 + p.x ^ 2) = √(p.x ^ 2 + p.y ^ 2)
  rw [neg_sq, add_comm]

-- A vector that is not too short keeps its direction.
theorem normalize_of_le (h : Scalar.tolerance ≤ p.norm) :
    p.normalize = ⟨p.x / p.norm, p.y / p.norm⟩ :=
  if_neg (not_lt.mpr h)

-- Vectors that are not nearly parallel span an area.
theorem cross_ne_zero {d e : Point ℝ} (hd : Scalar.tolerance ≤ d.norm)
    (he : Scalar.tolerance ≤ e.norm)
    (h : ¬Scalar.abs (d.normalize.cross e.normalize) < Scalar.tolerance) : d.cross e ≠ 0 := by
  intro hzero
  apply h
  have hparallel : d.normalize.cross e.normalize = 0 := by
    rw [normalize_of_le hd, normalize_of_le he, cross_eq]
    rw [cross_eq] at hzero
    have hscaled : d.x / d.norm * (e.y / e.norm) - d.y / d.norm * (e.x / e.norm) =
        (d.x * e.y - d.y * e.x) / (d.norm * e.norm) := by ring
    rw [hscaled, hzero, zero_div]
  rw [hparallel]
  change |(0 : ℝ)| < Scalar.tolerance
  rw [abs_zero]
  exact Scalar.tolerance_pos

end Point

namespace Line

variable {l k : Line ℝ} {a b p q : Point ℝ}

-- A point lies on the infinite line. A line without direction holds a single point.
def Contains (l : Line ℝ) (p : Point ℝ) : Prop := ∃ t, p = l.pointAt t

theorem pointAt_x (l : Line ℝ) (t : ℝ) : (l.pointAt t).x = l.a.x + (l.b.x - l.a.x) * t := rfl

theorem pointAt_y (l : Line ℝ) (t : ℝ) : (l.pointAt t).y = l.a.y + (l.b.y - l.a.y) * t := rfl

-- A line is told by any two of its points.
theorem contains_of_contains (ha : l.Contains a) (hb : l.Contains b) (hne : a ≠ b)
    (hp : l.Contains p) : Contains ⟨a, b⟩ p := by
  obtain ⟨t, rfl⟩ := ha
  obtain ⟨u, rfl⟩ := hb
  obtain ⟨v, rfl⟩ := hp
  have htu : u - t ≠ 0 := by
    intro h
    obtain rfl : u = t := sub_eq_zero.mp h
    exact hne rfl
  refine ⟨(v - t) / (u - t), Point.ext ?_ ?_⟩
  · simp only [pointAt_x]
    field_simp
    ring
  · simp only [pointAt_y]
    field_simp
    ring

-- The points at equal distance from two points form the perpendicular bisector.
theorem contains_bisector (hab : 0 < a.dist b) (h : p.dist a = p.dist b) :
    Contains ⟨a.midpoint b, a.midpoint b + ⟨b.y - a.y, -(b.x - a.x)⟩⟩ p := by
  have hsq : (p.x - a.x) ^ 2 + (p.y - a.y) ^ 2 = (p.x - b.x) ^ 2 + (p.y - b.y) ^ 2 := by
    rw [← Point.sq_dist, ← Point.sq_dist, h]
  have hpos : 0 < (a.x - b.x) ^ 2 + (a.y - b.y) ^ 2 := by
    rw [← Point.sq_dist]
    exact pow_pos hab 2
  refine ⟨((p.x - (a.x + b.x) / 2) * (b.y - a.y) - (p.y - (a.y + b.y) / 2) * (b.x - a.x)) /
    ((a.x - b.x) ^ 2 + (a.y - b.y) ^ 2), Point.ext ?_ ?_⟩
  · simp only [pointAt_x, Point.add_x, Point.midpoint_x]
    field_simp
    linear_combination 2 * (b.x - a.x) * hsq
  · simp only [pointAt_y, Point.add_y, Point.midpoint_y]
    field_simp
    linear_combination 2 * (b.y - a.y) * hsq

-- A point whose signed distance to the left of a line is known lies on the line moved there.
theorem contains_offset {value : ℝ} (hab : Scalar.tolerance ≤ a.dist b)
    (h : (b - a).cross (p - a) = value * a.dist b) :
    Contains ⟨a + (b - a).normalize.rotate90.scale value,
      b + (b - a).normalize.rotate90.scale value⟩ p := by
  have hnorm : (b - a).norm = a.dist b := Point.norm_sub a b
  have hpos : 0 < a.dist b := Scalar.tolerance_pos.trans_le hab
  have hsq := Point.sq_dist a b
  rw [Point.normalize_of_le (hnorm ▸ hab), hnorm]
  rw [Point.cross_eq] at h
  simp only [Point.sub_x, Point.sub_y] at h
  generalize a.dist b = length at *
  refine ⟨((p.x - a.x) * (b.x - a.x) + (p.y - a.y) * (b.y - a.y)) / length ^ 2,
    Point.ext ?_ ?_⟩
  · simp only [pointAt_x, Point.add_x, Point.scale_x, Point.rotate90, Point.sub_x, Point.sub_y]
    field_simp
    linear_combination length * (p.x - a.x) * hsq - length * (b.y - a.y) * h
  · simp only [pointAt_y, Point.add_y, Point.scale_y, Point.rotate90, Point.sub_x, Point.sub_y]
    field_simp
    linear_combination length * (p.y - a.y) * hsq + length * (b.x - a.x) * h

-- Lines that cross have no other point in common.
theorem eq_of_meetLine (hl : l.Contains p) (hk : k.Contains p) (h : l.meetLine k = some q) :
    p = q := by
  obtain ⟨t, hl⟩ := hl
  obtain ⟨u, hk⟩ := hk
  obtain ⟨⟨v, w⟩, hcrossing, rfl⟩ := Option.map_eq_some_iff.mp h
  simp only [crossing] at hcrossing
  split at hcrossing
  · cases hcrossing
  rename_i hlong
  split at hcrossing
  · cases hcrossing
  rename_i hparallel
  obtain ⟨hd, he⟩ := not_or.mp hlong
  have hcross := Point.cross_ne_zero (not_lt.mp hd) (not_lt.mp he) hparallel
  have hv : (k.a - l.a).cross (k.b - k.a) / (l.b - l.a).cross (k.b - k.a) = v :=
    congrArg Prod.fst (Option.some.inj hcrossing)
  have hx := congrArg Point.x (hl.symm.trans hk)
  have hy := congrArg Point.y (hl.symm.trans hk)
  simp only [pointAt_x, pointAt_y] at hx hy
  have ht : (k.a - l.a).cross (k.b - k.a) / (l.b - l.a).cross (k.b - k.a) = t := by
    rw [div_eq_iff hcross]
    simp only [Point.cross_eq, Point.sub_x, Point.sub_y]
    linear_combination (k.b.x - k.a.x) * hy - (k.b.y - k.a.y) * hx
  rw [hl, ← ht, hv]

end Line

end PlaneSketch

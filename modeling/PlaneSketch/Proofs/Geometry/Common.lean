import Mathlib.Tactic.Linarith
import PlaneSketch.Geometry.Circle
import PlaneSketch.Proofs.Geometry.Exact

namespace PlaneSketch

namespace Circle

variable {α : Type} [Scalar α] (c d : Circle α)

-- The distance between the centers.
def gap : α := c.center.dist d.center

-- How far the sum of the radii is from the gap, and how far their difference is.
def sumRadii : α := c.radius + d.radius

def difference : α := Scalar.abs (c.radius - d.radius)

-- The square of half the chord.
def heightSquared : α := c.radius * c.radius - c.chordOffset d * c.chordOffset d

def forward : Point α := (d.center - c.center).normalize

-- The place that is reached from the first center along the line of centers and then to its right.
def across (t s : α) : Point α :=
  c.center + (c.forward d).scale t + (⟨(c.forward d).y, -(c.forward d).x⟩ : Point α).scale s

-- The circles touch, from outside or from inside, or there is no chord.
def Touching : Prop :=
  Scalar.abs (c.gap d - c.sumRadii d) < Scalar.tolerance ∨
    Scalar.abs (c.gap d - c.difference d) < Scalar.tolerance ∨ c.heightSquared d ≤ 0.0

instance : Decidable (c.Touching d) := inferInstanceAs (Decidable (_ ∨ _ ∨ _))

theorem meetCircle_eq : c.meetCircle d =
    if c.gap d < Scalar.tolerance then []
    else if c.sumRadii d + Scalar.tolerance < c.gap d then []
    else if c.gap d < c.difference d - Scalar.tolerance then []
    else if c.Touching d then [c.chordBase d]
    else [c.across d (c.chordOffset d) (Scalar.sqrt (c.heightSquared d)),
      c.across d (c.chordOffset d) (-Scalar.sqrt (c.heightSquared d))] :=
  rfl

end Circle

variable {p q : Point ℝ} {l : Line ℝ} {c d : Circle ℝ} {t s : ℝ}

theorem Scalar.abs_eq (x : ℝ) : Scalar.abs x = |x| := rfl

theorem Point.dist_nonneg (p q : Point ℝ) : 0 ≤ p.dist q := Real.sqrt_nonneg _

namespace Circle

-- A point lies on the circle.
def Contains (c : Circle ℝ) (p : Point ℝ) : Prop := p.dist c.center = c.radius

theorem contains_iff (hc : 0 ≤ c.radius) :
    c.Contains p ↔ (p.x - c.center.x) ^ 2 + (p.y - c.center.y) ^ 2 = c.radius ^ 2 := by
  rw [Contains, ← Point.sq_dist, sq_eq_sq₀ (Point.dist_nonneg _ _) hc]

end Circle

theorem sq_eq_iff_root (ht : 0 ≤ t) : s ^ 2 = t ↔ s = √t ∨ s = -√t := by
  rw [← sq_eq_sq_iff_eq_or_eq_neg, Real.sq_sqrt ht]

-- The points are two different ones, or there are none.
def TwoOrNone (points : List (Point ℝ)) : Prop :=
  points = [] ∨ ∃ p q, p ≠ q ∧ points = [p, q]

namespace Line

theorem sq_direction (h : Scalar.tolerance ≤ l.length) :
    l.direction.x ^ 2 + l.direction.y ^ 2 = 1 := by
  have hnorm : (l.b - l.a).norm = l.length := Point.norm_sub l.a l.b
  have hpos : 0 < l.length := Scalar.tolerance_pos.trans_le h
  have hsq : l.length ^ 2 = _ := Point.sq_dist l.a l.b
  rw [direction, Point.normalize_of_le (hnorm ▸ h), hnorm]
  simp only [Point.sub_x, Point.sub_y]
  field_simp
  linear_combination -hsq

-- The points of a line by their distance from its first point.
theorem contains_iff_along (h : Scalar.tolerance ≤ l.length) :
    l.Contains p ↔ ∃ t, p = l.a + l.direction.scale t := by
  have hnorm : (l.b - l.a).norm = l.length := Point.norm_sub l.a l.b
  have hpos : 0 < l.length := Scalar.tolerance_pos.trans_le h
  have hdirection : l.direction = ⟨(l.b - l.a).x / l.length, (l.b - l.a).y / l.length⟩ := by
    rw [direction, Point.normalize_of_le (hnorm ▸ h), hnorm]
  rw [hdirection]
  constructor
  · rintro ⟨t, rfl⟩
    refine ⟨t * l.length, Point.ext ?_ ?_⟩
    · simp only [pointAt_x, Point.add_x, Point.scale_x, Point.sub_x]
      field_simp
    · simp only [pointAt_y, Point.add_y, Point.scale_y, Point.sub_y]
      field_simp
  · rintro ⟨t, rfl⟩
    refine ⟨t / l.length, Point.ext ?_ ?_⟩
    · simp only [pointAt_x, Point.add_x, Point.scale_x, Point.sub_x]
      field_simp
    · simp only [pointAt_y, Point.add_y, Point.scale_y, Point.sub_y]
      field_simp

theorem halfLinear_eq (l : Line ℝ) (c : Circle ℝ) : l.halfLinear c =
    (l.a.x - c.center.x) * l.direction.x + (l.a.y - c.center.y) * l.direction.y := rfl

theorem discriminant_eq (l : Line ℝ) (c : Circle ℝ) : l.discriminant c =
    l.halfLinear c * l.halfLinear c - ((l.a.x - c.center.x) * (l.a.x - c.center.x) +
      (l.a.y - c.center.y) * (l.a.y - c.center.y) - c.radius * c.radius) := rfl

-- A point of the line is on the circle where its place on the line is a root.
theorem circle_contains_along (h : Scalar.tolerance ≤ l.length) (hc : 0 ≤ c.radius) :
    c.Contains (l.a + l.direction.scale t) ↔ (t + l.halfLinear c) ^ 2 = l.discriminant c := by
  have hunit := sq_direction h
  rw [Circle.contains_iff hc, discriminant_eq]
  simp only [Point.add_x, Point.add_y, Point.scale_x, Point.scale_y]
  have hhalf := halfLinear_eq l c
  constructor
  · intro hsq
    linear_combination hsq - t ^ 2 * hunit + 2 * t * hhalf
  · intro hsq
    linear_combination hsq + t ^ 2 * hunit - 2 * t * hhalf

theorem along_injective (h : Scalar.tolerance ≤ l.length)
    (heq : l.a + l.direction.scale t = l.a + l.direction.scale s) : t = s := by
  have hunit := sq_direction h
  have hx := congrArg Point.x heq
  have hy := congrArg Point.y heq
  simp only [Point.add_x, Point.add_y, Point.scale_x, Point.scale_y] at hx hy
  linear_combination l.direction.x * hx + l.direction.y * hy - (t - s) * hunit

-- Away from tangency a line meets a circle in all points that the two have in common.
theorem meetCircle_clear (h : Scalar.tolerance ≤ l.length) (hc : 0 ≤ c.radius)
    (hclear : Scalar.tolerance ≤ |l.discriminant c|) :
    TwoOrNone (l.meetCircle c) ∧ ∀ p, p ∈ l.meetCircle c ↔ l.Contains p ∧ c.Contains p := by
  have hzero : (0.0 : ℝ) = 0 := by norm_num
  have hunfold : l.meetCircle c = if l.discriminant c < 0 then [] else
      [l.a + l.direction.scale (-l.halfLinear c - √(l.discriminant c)),
        l.a + l.direction.scale (-l.halfLinear c + √(l.discriminant c))] := by
    rw [meetCircle, if_neg (not_lt.mpr h)]
    simp only [Scalar.abs_eq, if_neg (not_lt.mpr hclear), hzero]
    rfl
  rw [hunfold]
  by_cases hneg : l.discriminant c < 0
  · rw [if_pos hneg]
    refine ⟨.inl rfl, fun p => iff_of_false List.not_mem_nil ?_⟩
    rintro ⟨hline, hcircle⟩
    obtain ⟨t, rfl⟩ := (contains_iff_along h).mp hline
    rw [circle_contains_along h hc] at hcircle
    exact absurd (hcircle ▸ sq_nonneg (t + l.halfLinear c)) (not_le.mpr hneg)
  · rw [if_neg hneg]
    have hpos : 0 < l.discriminant c := by
      rw [abs_of_nonneg (not_lt.mp hneg)] at hclear
      exact Scalar.tolerance_pos.trans_le hclear
    have hroot : 0 < √(l.discriminant c) := Real.sqrt_pos.mpr hpos
    refine ⟨.inr ⟨_, _, fun heq => ?_, rfl⟩, fun p => ?_⟩
    · have hsame := along_injective h heq
      linarith
    · rw [contains_iff_along h]
      simp only [List.mem_cons, List.not_mem_nil, or_false]
      have hsolves {t : ℝ} : c.Contains (l.a + l.direction.scale t) ↔
          t = -l.halfLinear c - √(l.discriminant c) ∨
            t = -l.halfLinear c + √(l.discriminant c) := by
        rw [circle_contains_along h hc, sq_eq_iff_root hpos.le, or_comm]
        exact or_congr (by constructor <;> intro <;> linarith)
          (by constructor <;> intro <;> linarith)
      constructor
      · rintro (rfl | rfl)
        · exact ⟨⟨_, rfl⟩, hsolves.mpr (.inl rfl)⟩
        · exact ⟨⟨_, rfl⟩, hsolves.mpr (.inr rfl)⟩
      · rintro ⟨⟨t, rfl⟩, hcircle⟩
        exact (hsolves.mp hcircle).imp (fun ht => by rw [ht]) fun ht => by rw [ht]

end Line

namespace Circle

theorem chordOffset_eq (c d : Circle ℝ) : c.chordOffset d =
    (c.gap d * c.gap d + c.radius * c.radius - d.radius * d.radius) / (2 * c.gap d) := by
  have htwo : (2.0 : ℝ) = 2 := by norm_num
  rw [chordOffset, htwo]
  rfl

-- The square of half the chord has the sign that the triangle inequality asks for.
theorem chord_height {gap r s : ℝ} (hgap : gap ≠ 0) :
    r * r - ((gap * gap + r * r - s * s) / (2 * gap)) * ((gap * gap + r * r - s * s) / (2 * gap)) =
      (r + s - gap) * (r + s + gap) * (gap ^ 2 - (r - s) ^ 2) / (4 * gap ^ 2) := by
  field_simp
  ring

section Apart

variable (h : Scalar.tolerance ≤ c.gap d)
include h

theorem gap_pos : 0 < c.gap d := Scalar.tolerance_pos.trans_le h

theorem forward_eq : c.forward d =
    ⟨(d.center.x - c.center.x) / c.gap d, (d.center.y - c.center.y) / c.gap d⟩ := by
  have hnorm : (d.center - c.center).norm = c.gap d := Point.norm_sub c.center d.center
  rw [forward, Point.normalize_of_le (hnorm ▸ h), hnorm]
  rfl

theorem sq_forward : (c.forward d).x ^ 2 + (c.forward d).y ^ 2 = 1 := by
  have hpos := gap_pos h
  have hsq : c.gap d ^ 2 = _ := Point.sq_dist c.center d.center
  rw [forward_eq h]
  field_simp
  linear_combination -hsq

-- Every place is reached in one way.
theorem exists_across (p : Point ℝ) : ∃ t s, p = c.across d t s := by
  have hunit := sq_forward h
  refine ⟨(p.x - c.center.x) * (c.forward d).x + (p.y - c.center.y) * (c.forward d).y,
    (p.x - c.center.x) * (c.forward d).y - (p.y - c.center.y) * (c.forward d).x,
    Point.ext ?_ ?_⟩
  · simp only [across, Point.add_x, Point.scale_x]
    linear_combination -(p.x - c.center.x) * hunit
  · simp only [across, Point.add_y, Point.scale_y]
    linear_combination -(p.y - c.center.y) * hunit

theorem across_injective {t' s' : ℝ} (heq : c.across d t s = c.across d t' s') :
    t = t' ∧ s = s' := by
  have hunit := sq_forward h
  have hx := congrArg Point.x heq
  have hy := congrArg Point.y heq
  simp only [across, Point.add_x, Point.add_y, Point.scale_x, Point.scale_y] at hx hy
  constructor
  · linear_combination (c.forward d).x * hx + (c.forward d).y * hy - (t - t') * hunit
  · linear_combination (c.forward d).y * hx - (c.forward d).x * hy - (s - s') * hunit

theorem contains_across (hc : 0 ≤ c.radius) :
    c.Contains (c.across d t s) ↔ t ^ 2 + s ^ 2 = c.radius ^ 2 := by
  have hunit := sq_forward h
  rw [contains_iff hc]
  simp only [across, Point.add_x, Point.add_y, Point.scale_x, Point.scale_y]
  constructor <;> intro hsq
  · linear_combination hsq - (t ^ 2 + s ^ 2) * hunit
  · linear_combination hsq + (t ^ 2 + s ^ 2) * hunit

theorem other_contains_across (hd : 0 ≤ d.radius) :
    d.Contains (c.across d t s) ↔ (t - c.gap d) ^ 2 + s ^ 2 = d.radius ^ 2 := by
  have hunit := sq_forward h
  have hpos := gap_pos h
  have hx : d.center.x = c.center.x + (c.forward d).x * c.gap d := by
    rw [forward_eq h]
    field_simp
    ring
  have hy : d.center.y = c.center.y + (c.forward d).y * c.gap d := by
    rw [forward_eq h]
    field_simp
    ring
  rw [contains_iff hd, hx, hy]
  simp only [across, Point.add_x, Point.add_y, Point.scale_x, Point.scale_y]
  constructor <;> intro hsq
  · linear_combination hsq - ((t - c.gap d) ^ 2 + s ^ 2) * hunit
  · linear_combination hsq + ((t - c.gap d) ^ 2 + s ^ 2) * hunit

-- What two circles have in common lies on their chord, at half its length to either side.
theorem common_iff (hc : 0 ≤ c.radius) (hd : 0 ≤ d.radius) :
    c.Contains (c.across d t s) ∧ d.Contains (c.across d t s) ↔
      t = c.chordOffset d ∧ s ^ 2 = c.heightSquared d := by
  have hpos := gap_pos h
  rw [contains_across h hc, other_contains_across h hd, heightSquared]
  constructor
  · rintro ⟨hfirst, hsecond⟩
    have ht : t = c.chordOffset d := by
      rw [chordOffset_eq, eq_div_iff (by positivity)]
      linear_combination hfirst - hsecond
    exact ⟨ht, by rw [← ht]; linear_combination hfirst⟩
  · rintro ⟨ht, hs⟩
    have hchord : c.chordOffset d * (2 * c.gap d) =
        c.gap d * c.gap d + c.radius * c.radius - d.radius * d.radius := by
      rw [chordOffset_eq, div_mul_cancel₀ _ (by positivity)]
    subst ht
    exact ⟨by linear_combination hs, by linear_combination hs - hchord⟩

theorem heightSquared_eq : c.heightSquared d =
    (c.radius + d.radius - c.gap d) * (c.radius + d.radius + c.gap d) *
      (c.gap d ^ 2 - (c.radius - d.radius) ^ 2) / (4 * c.gap d ^ 2) := by
  rw [heightSquared, chordOffset_eq]
  exact chord_height (gap_pos h).ne'

-- Circles have nothing in common where the triangle inequality fails.
theorem not_common (hc : 0 ≤ c.radius) (hd : 0 ≤ d.radius) (hneg : c.heightSquared d < 0)
    (p : Point ℝ) : ¬(c.Contains p ∧ d.Contains p) := by
  obtain ⟨t, s, rfl⟩ := exists_across h p
  rw [common_iff h hc hd]
  rintro ⟨-, hs⟩
  exact absurd (hs ▸ sq_nonneg s) (not_le.mpr hneg)

theorem heightSquared_neg_of_apart (hc : 0 ≤ c.radius) (hd : 0 ≤ d.radius)
    (hapart : c.sumRadii d < c.gap d) : c.heightSquared d < 0 := by
  have hpos := gap_pos h
  have hsum : c.radius + d.radius - c.gap d < 0 := sub_neg.mpr hapart
  have hsquare : 0 < c.gap d ^ 2 - (c.radius - d.radius) ^ 2 := by
    rw [sub_pos, sq_lt_sq, abs_of_pos hpos, abs_lt]
    constructor <;> linarith
  rw [heightSquared_eq h]
  refine div_neg_of_neg_of_pos (mul_neg_of_neg_of_pos ?_ hsquare) (by positivity)
  exact mul_neg_of_neg_of_pos hsum (by positivity)

theorem heightSquared_neg_of_nested (hc : 0 ≤ c.radius) (hd : 0 ≤ d.radius)
    (hnested : c.gap d < c.difference d) : c.heightSquared d < 0 := by
  have hpos := gap_pos h
  have hsquare : c.gap d ^ 2 - (c.radius - d.radius) ^ 2 < 0 := by
    rwa [sub_neg, sq_lt_sq, abs_of_pos hpos]
  have hsum : 0 < c.radius + d.radius - c.gap d := by
    have hle : c.difference d ≤ c.radius + d.radius := abs_sub_le_of_nonneg_of_le hc
      (le_add_of_nonneg_right hd) hd (le_add_of_nonneg_left hc)
    linarith
  rw [heightSquared_eq h]
  exact div_neg_of_neg_of_pos (mul_neg_of_pos_of_neg (by positivity) hsquare) (by positivity)

theorem heightSquared_pos (hsum : c.gap d < c.sumRadii d) (hdifference : c.difference d < c.gap d) :
    0 < c.heightSquared d := by
  have hpos := gap_pos h
  have hsum : 0 < c.radius + d.radius - c.gap d := sub_pos.mpr hsum
  have hsquare : 0 < c.gap d ^ 2 - (c.radius - d.radius) ^ 2 := by
    rwa [sub_pos, sq_lt_sq, abs_of_pos hpos]
  rw [heightSquared_eq h]
  have hother : 0 < c.radius + d.radius + c.gap d := by linarith
  positivity

-- Away from tangency two circles meet in all points that they have in common.
theorem meetCircle_clear (hc : 0 ≤ c.radius) (hd : 0 ≤ d.radius)
    (hsum : Scalar.tolerance < |c.gap d - c.sumRadii d|)
    (hdifference : Scalar.tolerance < |c.gap d - c.difference d|) :
    TwoOrNone (c.meetCircle d) ∧ ∀ p, p ∈ c.meetCircle d ↔ c.Contains p ∧ d.Contains p := by
  have hempty (hneg : c.heightSquared d < 0) :
      TwoOrNone [] ∧ ∀ p, p ∈ [] ↔ c.Contains p ∧ d.Contains p :=
    ⟨.inl rfl, fun p => iff_of_false List.not_mem_nil (not_common h hc hd hneg p)⟩
  rw [meetCircle_eq, if_neg (not_lt.mpr h)]
  split
  · rename_i hfar
    exact hempty (heightSquared_neg_of_apart h hc hd (by linarith [Scalar.tolerance_pos]))
  split
  · rename_i hnested
    exact hempty (heightSquared_neg_of_nested h hc hd (by linarith [Scalar.tolerance_pos]))
  rename_i hfar hnested
  have hclose : c.gap d < c.sumRadii d := by
    by_contra hle
    rw [abs_of_nonneg (sub_nonneg.mpr (not_lt.mp hle))] at hsum
    exact hfar (by linarith)
  have hwide : c.difference d < c.gap d := by
    by_contra hle
    rw [abs_of_nonpos (sub_nonpos.mpr (not_lt.mp hle))] at hdifference
    exact hnested (by linarith)
  have hheight := heightSquared_pos h hclose hwide
  have htouching : ¬c.Touching d := by
    have hzero : (0.0 : ℝ) = 0 := by norm_num
    rintro (hlt | hlt | hle)
    · exact hsum.not_gt hlt
    · exact hdifference.not_gt hlt
    · exact hheight.not_ge (hzero ▸ hle)
  have hroot : 0 < √(c.heightSquared d) := Real.sqrt_pos.mpr hheight
  rw [if_neg htouching]
  refine ⟨.inr ⟨_, _, fun heq => ?_, rfl⟩, fun p => ?_⟩
  · have hsame : √(c.heightSquared d) = -√(c.heightSquared d) := (across_injective h heq).2
    linarith
  · obtain ⟨t, s, rfl⟩ := exists_across h p
    rw [common_iff h hc hd, sq_eq_iff_root hheight.le]
    simp only [List.mem_cons, List.not_mem_nil, or_false]
    constructor
    · rintro (heq | heq)
      · exact (across_injective h heq).imp_right .inl
      · exact (across_injective h heq).imp_right .inr
    · rintro ⟨rfl, rfl | rfl⟩
      · exact .inl rfl
      · exact .inr rfl

end Apart

end Circle

-- Away from tangency both intersections are exact and complete: what they give are all common
-- points, two different ones or none.
theorem meetCircle_common :
    (∀ (l : Line ℝ) (c : Circle ℝ), 0 ≤ c.radius → Scalar.tolerance ≤ l.a.dist l.b →
      Scalar.tolerance ≤ |l.discriminant c| →
        TwoOrNone (l.meetCircle c) ∧ ∀ p, p ∈ l.meetCircle c ↔ l.Contains p ∧ c.Contains p) ∧
    ∀ c d : Circle ℝ, 0 ≤ c.radius → 0 ≤ d.radius → Scalar.tolerance ≤ c.center.dist d.center →
      Scalar.tolerance < |c.center.dist d.center - (c.radius + d.radius)| →
      Scalar.tolerance < |c.center.dist d.center - abs (c.radius - d.radius)| →
        TwoOrNone (c.meetCircle d) ∧ ∀ p, p ∈ c.meetCircle d ↔ c.Contains p ∧ d.Contains p :=
  ⟨fun _ _ hc hlong hclear => Line.meetCircle_clear hlong hc hclear,
    fun _ _ hc hd hgap hsum hdifference =>
      Circle.meetCircle_clear hgap hc hd hsum hdifference⟩

-- An upright through (3, 0) and a circle of radius five about the origin, with a second one of the
-- same size about (6, 0): (3, 4) is common to all of them.
theorem meetCircle_common_arch :
    (⟨3, 4⟩ : Point ℝ) ∈ Line.meetCircle ⟨⟨3, 0⟩, ⟨3, 1⟩⟩ ⟨⟨0, 0⟩, 5⟩ ∧
      (⟨3, 4⟩ : Point ℝ) ∈ Circle.meetCircle ⟨⟨0, 0⟩, 5⟩ ⟨⟨6, 0⟩, 5⟩ := by
  have hfirst : Circle.Contains ⟨⟨0, 0⟩, 5⟩ ⟨3, 4⟩ := by
    rw [Circle.contains_iff] <;> norm_num
  have hsecond : Circle.Contains ⟨⟨6, 0⟩, 5⟩ ⟨3, 4⟩ := by
    rw [Circle.contains_iff] <;> norm_num
  have hline : Line.Contains ⟨⟨3, 0⟩, ⟨3, 1⟩⟩ ⟨3, 4⟩ := by
    refine ⟨4, Point.ext ?_ ?_⟩
    · rw [Line.pointAt_x]
      norm_num
    · rw [Line.pointAt_y]
      norm_num
  have hlength : (⟨3, 0⟩ : Point ℝ).dist ⟨3, 1⟩ = 1 := by
    rw [Point.dist_eq]
    norm_num
  have hgap : (⟨0, 0⟩ : Point ℝ).dist ⟨6, 0⟩ = 6 := by
    rw [Point.dist_eq, Real.sqrt_eq_iff_mul_self_eq] <;> norm_num
  have hdiscriminant : Line.discriminant ⟨⟨3, 0⟩, ⟨3, 1⟩⟩ ⟨⟨0, 0⟩, (5 : ℝ)⟩ = 16 := by
    have hnorm : ((⟨3, 1⟩ : Point ℝ) - ⟨3, 0⟩).norm = 1 := by rw [Point.norm_sub, hlength]
    have hdirection : Line.direction (⟨⟨3, 0⟩, ⟨3, 1⟩⟩ : Line ℝ) = ⟨0, 1⟩ := by
      rw [Line.direction, Point.normalize_of_le (by norm_num [hnorm, Scalar.tolerance]), hnorm]
      norm_num
    rw [Line.discriminant_eq, Line.halfLinear_eq, hdirection]
    norm_num
  refine ⟨((meetCircle_common.1 _ _ ?_ ?_ ?_).2 _).mpr ⟨hline, hfirst⟩,
    ((meetCircle_common.2 _ _ ?_ ?_ ?_ ?_ ?_).2 _).mpr ⟨hfirst, hsecond⟩⟩
  · norm_num
  · norm_num [hlength, Scalar.tolerance]
  · norm_num [hdiscriminant, Scalar.tolerance]
  · norm_num
  · norm_num
  · norm_num [hgap, Scalar.tolerance]
  · norm_num [hgap, Scalar.tolerance]
  · norm_num [hgap, Scalar.tolerance]

end PlaneSketch

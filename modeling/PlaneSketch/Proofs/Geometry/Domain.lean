import PlaneSketch.Geometry.Arc
import PlaneSketch.Geometry.Circle
import PlaneSketch.Geometry.Placement
import PlaneSketch.Proofs.Geometry.Crossing

namespace PlaneSketch

open Binary

-- Doubles with another square root and another division.
@[reducible] def Scalar.replacing (root : Float → Float) (quotient : Float → Float → Float) :
    Scalar Float :=
  { (inferInstance : Scalar Float) with sqrt := root, div := quotient }

-- Operations that are only promised to be right where there is a result: the root of a number that
-- compares as negative may be anything, and so may a quotient by zero.
structure RightOnDomain (root : Float → Float) (quotient : Float → Float → Float) : Prop where
  root : ∀ x : Float, ¬x < 0.0 → root x = x.sqrt
  quotient : ∀ x y : Float, (y == 0.0) = false → quotient x y = x / y

section Guards

variable {x : Float}

theorem ne_zero_of_not_lt (h : ¬x < Scalar.tolerance) : (x == 0.0) = false := by
  rw [Bool.eq_false_iff]
  intro hzero
  obtain ⟨s, hs⟩ := unpack_of_beq_zero hzero
  refine h ?_
  rw [lt_iff, hs]
  rfl

theorem double_ne_zero_of_not_lt (h : ¬x < Scalar.tolerance) : (2.0 * x == 0.0) = false := by
  rw [Bool.eq_false_iff]
  intro hzero
  obtain ⟨s, hs⟩ := unpack_of_beq_zero hzero
  have hfinite : (2.0 * x).isFinite = true := congrArg Float.Model.UnpackedFloat.isFinite hs
  obtain ⟨htwo, hx⟩ := isFinite_of_mul hfinite
  have hvalue : toReal 2.0 = 2 := by
    have hunpack : (2.0 : Float).toModel.unpack =
        .finite .positive 4503599627370496 (-51) (by decide) := rfl
    rw [toReal, hunpack, value_finite, unit]
    norm_num
  have hproduct : toReal (2.0 * x) = 0 := by rw [toReal, hs, value_zero]
  have hgap := ((approximates_mul htwo hx).near hfinite).abs_sub_le le_rfl
  rw [hproduct, hvalue, zero_sub, abs_neg, abs_mul, abs_two] at hgap
  refine h ((lt_iff_toReal hx isFinite_tolerance).mpr (lt_of_lt_of_le ?_ le_toReal_tolerance))
  have hle := le_abs_self (toReal x)
  norm_num at hgap ⊢
  linarith

end Guards

section Replacing

variable {root : Float → Float} {quotient : Float → Float → Float}
  (h : RightOnDomain root quotient)

include h

theorem normalize_replacing (p : Point Float) :
    @Point.normalize Float (.replacing root quotient) p = p.normalize := by
  have hunfold : @Point.normalize Float (.replacing root quotient) p =
      if p.norm < Scalar.tolerance then .origin
      else ⟨quotient p.x p.norm, quotient p.y p.norm⟩ := rfl
  rw [hunfold, Point.normalize]
  by_cases hshort : p.norm < Scalar.tolerance
  · rw [if_pos hshort, if_pos hshort]
  · have hne := ne_zero_of_not_lt hshort
    rw [if_neg hshort, if_neg hshort, h.quotient _ _ hne, h.quotient _ _ hne]

theorem position_replacing (placement : Placement Float) (a b : Point Float) :
    @Placement.position Float (.replacing root quotient) placement a b =
      placement.position a b := by
  have hunfold : @Placement.position Float (.replacing root quotient) placement a b =
      a + (b - a).scale placement.t + (@Point.normalize Float (.replacing root quotient)
        (b - a).rotate90).scale placement.offset := rfl
  rw [hunfold, normalize_replacing h]
  rfl

theorem direction_replacing (l : Line Float) :
    @Line.direction Float (.replacing root quotient) l = l.direction :=
  normalize_replacing h (l.b - l.a)

theorem project_replacing (l : Line Float) (p : Point Float) :
    @Line.project Float (.replacing root quotient) l p = l.project p := by
  let direction := @Line.direction Float (.replacing root quotient) l
  have hunfold : @Line.project Float (.replacing root quotient) l p =
      if l.length < Scalar.tolerance then ⟨l.a, 0.0⟩
      else ⟨l.a + direction.scale ((p - l.a).dot direction),
        quotient ((p - l.a).dot direction) l.length⟩ := rfl
  have hdirection : direction = l.direction := direction_replacing h l
  rw [hunfold, hdirection, Line.project]
  by_cases hshort : l.length < Scalar.tolerance
  · rw [if_pos hshort, if_pos hshort]
  · rw [if_neg hshort, if_neg hshort, h.quotient _ _ (ne_zero_of_not_lt hshort)]

theorem segmentDist_replacing (l : Line Float) (p : Point Float) :
    @Line.segmentDist Float (.replacing root quotient) l p = l.segmentDist p := by
  let foot := @Line.project Float (.replacing root quotient) l p
  have hunfold : @Line.segmentDist Float (.replacing root quotient) l p =
      if l.length < Scalar.tolerance then p.dist l.a
      else if 0.0 ≤ foot.t ∧ foot.t ≤ 1.0 then p.dist foot.point
      else if foot.t < 0.0 then p.dist l.a
      else p.dist l.b := rfl
  have hfoot : foot = l.project p := project_replacing h l p
  rw [hunfold, hfoot]
  rfl

theorem adjustedCenter_replacing (arc : Arc Float) :
    @Arc.adjustedCenter Float (.replacing root quotient) arc = arc.adjustedCenter := by
  let mid := arc.a.midpoint arc.b
  have hunfold : @Arc.adjustedCenter Float (.replacing root quotient) arc =
      if arc.a.dist arc.b < Scalar.tolerance then arc.center
      else (@Line.project Float (.replacing root quotient) ⟨mid, mid + (arc.b - arc.a).rotate90⟩
        arc.center).point := rfl
  rw [hunfold, project_replacing h]
  rfl

-- The guard is on the unit directions, and what is divided by is computed from the vectors as they
-- are: it takes an estimate of the rounding to tell that it is not zero.
theorem crossing_replacing (l k : Line Float) :
    @Line.crossing Float (.replacing root quotient) l k = l.crossing k := by
  let d := l.b - l.a
  let e := k.b - k.a
  let gap := k.a - l.a
  have hunfold : @Line.crossing Float (.replacing root quotient) l k =
      if d.norm < Scalar.tolerance ∨ e.norm < Scalar.tolerance then none
      else if Scalar.abs ((@Point.normalize Float (.replacing root quotient) d).cross
        (@Point.normalize Float (.replacing root quotient) e)) < Scalar.tolerance then none
      else some (quotient (gap.cross e) (d.cross e), quotient (gap.cross d) (d.cross e)) := rfl
  have hself : l.crossing k =
      if d.norm < Scalar.tolerance ∨ e.norm < Scalar.tolerance then none
      else if Scalar.abs (d.normalize.cross e.normalize) < Scalar.tolerance then none
      else some (gap.cross e / d.cross e, gap.cross d / d.cross e) := rfl
  rw [hunfold, normalize_replacing h, normalize_replacing h, hself]
  by_cases hparallel : Scalar.abs (d.normalize.cross e.normalize) < Scalar.tolerance
  · simp only [hparallel, if_true]
  · have hne : (d.cross e == 0.0) = false :=
      Bool.eq_false_iff.mpr fun hzero => hparallel (Point.cross_normalize_lt hzero)
    rw [h.quotient _ _ hne, h.quotient _ _ hne]

theorem meetLine_replacing (l k : Line Float) :
    @Line.meetLine Float (.replacing root quotient) l k = l.meetLine k := by
  have hunfold : @Line.meetLine Float (.replacing root quotient) l k =
      (@Line.crossing Float (.replacing root quotient) l k).map fun t => l.pointAt t.1 := rfl
  rw [hunfold, crossing_replacing h]
  rfl

-- The discriminant was found not to be negative before its root is taken.
theorem meetCircle_replacing_line (l : Line Float) (c : Circle Float) :
    @Line.meetCircle Float (.replacing root quotient) l c = l.meetCircle c := by
  let direction := @Line.direction Float (.replacing root quotient) l
  let offset := l.a - c.center
  let half := offset.dot direction
  let discriminant := half * half - (offset.dot offset - c.radius * c.radius)
  have hunfold : @Line.meetCircle Float (.replacing root quotient) l c =
      if l.length < Scalar.tolerance then []
      else if Scalar.abs discriminant < Scalar.tolerance then [l.a + direction.scale (-half)]
      else if discriminant < 0.0 then []
      else [l.a + direction.scale (-half - root discriminant),
        l.a + direction.scale (-half + root discriminant)] := rfl
  have hdirection : direction = l.direction := direction_replacing h l
  have hself : l.meetCircle c =
      if l.length < Scalar.tolerance then []
      else if Scalar.abs discriminant < Scalar.tolerance then [l.a + direction.scale (-half)]
      else if discriminant < 0.0 then []
      else [l.a + direction.scale (-half - discriminant.sqrt),
        l.a + direction.scale (-half + discriminant.sqrt)] := by
    simp only [discriminant, half, hdirection]
    rfl
  rw [hunfold, hself]
  by_cases hnegative : discriminant < 0.0
  · simp only [hnegative, if_true]
  · rw [h.root _ hnegative]

theorem chordOffset_replacing {c d : Circle Float}
    (hgap : ¬c.center.dist d.center < Scalar.tolerance) :
    @Circle.chordOffset Float (.replacing root quotient) c d = c.chordOffset d :=
  h.quotient _ _ (double_ne_zero_of_not_lt hgap)

theorem chordBase_replacing {c d : Circle Float}
    (hgap : ¬c.center.dist d.center < Scalar.tolerance) :
    @Circle.chordBase Float (.replacing root quotient) c d = c.chordBase d := by
  have hunfold : @Circle.chordBase Float (.replacing root quotient) c d =
      c.center + (@Point.normalize Float (.replacing root quotient) (d.center - c.center)).scale
        (@Circle.chordOffset Float (.replacing root quotient) c d) := rfl
  rw [hunfold, normalize_replacing h, chordOffset_replacing h hgap]
  rfl

-- So was the square of the height.
theorem meetCircle_replacing (c d : Circle Float) :
    @Circle.meetCircle Float (.replacing root quotient) c d = c.meetCircle d := by
  let gap := c.center.dist d.center
  let sum := c.radius + d.radius
  let difference := Scalar.abs (c.radius - d.radius)
  let along := @Circle.chordOffset Float (.replacing root quotient) c d
  let base := @Circle.chordBase Float (.replacing root quotient) c d
  let forward := @Point.normalize Float (.replacing root quotient) (d.center - c.center)
  let right : Point Float := ⟨forward.y, -forward.x⟩
  let heightSquared := c.radius * c.radius - along * along
  let flat := Scalar.abs (gap - sum) < Scalar.tolerance ∨
    Scalar.abs (gap - difference) < Scalar.tolerance ∨ heightSquared ≤ 0.0
  have hunfold : @Circle.meetCircle Float (.replacing root quotient) c d =
      if gap < Scalar.tolerance then []
      else if sum + Scalar.tolerance < gap then []
      else if gap < difference - Scalar.tolerance then []
      else if flat then [base]
      else [base + right.scale (root heightSquared), base + right.scale (-root heightSquared)] :=
    rfl
  by_cases hgap : gap < Scalar.tolerance
  · rw [hunfold, if_pos hgap, Circle.meetCircle, if_pos hgap]
  have hself : c.meetCircle d =
      if gap < Scalar.tolerance then []
      else if sum + Scalar.tolerance < gap then []
      else if gap < difference - Scalar.tolerance then []
      else if flat then [base]
      else [base + right.scale heightSquared.sqrt, base + right.scale (-heightSquared.sqrt)] := by
    have halong : along = c.chordOffset d := chordOffset_replacing h hgap
    have hbase : base = c.chordBase d := chordBase_replacing h hgap
    have hforward : forward = (d.center - c.center).normalize := normalize_replacing h _
    simp only [flat, heightSquared, right, halong, hbase, hforward]
    rfl
  rw [hunfold, hself]
  by_cases hflat : flat
  · simp only [hflat, if_true]
  · have hheight : ¬heightSquared < 0.0 := fun hlt => hflat (.inr (.inr (Binary.le_of_lt hlt)))
    rw [h.root _ hheight]

end Replacing

end PlaneSketch

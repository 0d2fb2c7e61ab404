import PlaneSketch.Proofs.Binary.Identities
import PlaneSketch.Proofs.Geometry.Distance
import PlaneSketch.Sketch.Element

namespace PlaneSketch

open Binary

namespace Line

section

variable {α : Type} [Scalar α] {l l' k k' : Line α}

-- Two descriptions of one infinite line that no intersection tells apart: they start at the same
-- position in the same direction, and neither is too short where the other is not.
structure Alike (l l' : Line α) : Prop where
  start : l'.a = l.a
  direction : l'.direction = l.direction
  length : l'.length < Scalar.tolerance ↔ l.length < Scalar.tolerance
  norm : (l'.b - l'.a).norm < Scalar.tolerance ↔ (l.b - l.a).norm < Scalar.tolerance

theorem Alike.refl (l : Line α) : l.Alike l := ⟨rfl, rfl, .rfl, .rfl⟩

theorem Alike.meetCircle (h : l.Alike l') (c : Circle α) : l'.meetCircle c = l.meetCircle c := by
  have hhalf : l'.halfLinear c = l.halfLinear c := by
    rw [halfLinear, halfLinear, h.start, h.direction]
  have hdiscriminant : l'.discriminant c = l.discriminant c := by
    simp only [discriminant, hhalf, h.start]
  by_cases hshort : l.length < Scalar.tolerance
  · rw [Line.meetCircle, Line.meetCircle, if_pos hshort, if_pos (h.length.mpr hshort)]
  · rw [Line.meetCircle, Line.meetCircle, if_neg hshort, if_neg (mt h.length.mp hshort)]
    simp only [hhalf, hdiscriminant, h.start, h.direction]

-- Where two lines meet may be rounded differently, but not whether they do.
theorem Alike.isSome_meetLine (h : l.Alike l') (hk : k.Alike k') :
    (l'.meetLine k').isSome = (l.meetLine k).isSome := by
  have hdirection : (l'.b - l'.a).normalize = (l.b - l.a).normalize := h.direction
  have hother : (k'.b - k'.a).normalize = (k.b - k.a).normalize := hk.direction
  have hcrossing : (l'.crossing k').isSome = (l.crossing k).isSome := by
    simp only [crossing, h.norm, hk.norm, hdirection, hother]
    split
    · rfl
    · split <;> rfl
  rw [meetLine, meetLine, Option.isSome_map, Option.isSome_map, hcrossing]

end

end Line

-- Distances are the same in both directions.
theorem Point.dist_swap (p q : Point Float) : p.dist q = q.dist p :=
  congrArg (fun a => Float.ofModel (Float.Model.pack a))
    ((sameSize_unpack_sub p.x q.x).unpackedHypot (sameSize_unpack_sub p.y q.y))

-- A number that is not below the tolerance is positive.
theorem exists_unpack_of_le {x : Float} (hx : x.isFinite = true) (h : Scalar.tolerance ≤ x) :
    ∃ m e hm, x.toModel.unpack = .finite .positive m e hm := by
  obtain ⟨m, e, hm, htolerance⟩ : ∃ m e hm, (Scalar.tolerance : Float).toModel.unpack =
      .finite .positive m e hm := ⟨_, _, _, rfl⟩
  rw [le_iff, htolerance] at h
  change x.toModel.unpack.isFinite = true at hx
  cases hunpack : x.toModel.unpack with
  | finite s n f hn =>
      cases s with
      | positive => exact ⟨n, f, hn, rfl⟩
      | negative => simp [hunpack, Float.Model.UnpackedFloat.compare] at h
  | zero s => simp [hunpack, Float.Model.UnpackedFloat.compare] at h
  | _ => simp [hunpack, Float.Model.UnpackedFloat.isFinite] at hx

namespace Axis

-- The line along an axis through a position, described by a second position at a distance.
def helper : Axis → Point Float → Float → Line Float
  | horizontal, a, length => ⟨a, a + ⟨length, 0.0⟩⟩
  | vertical, a, length => ⟨a, a + ⟨0.0, length⟩⟩

def unit : Axis → Point Float
  | horizontal => ⟨1.0, 0.0⟩
  | vertical => ⟨0.0, 1.0⟩

-- How far the second position is from the first in the end: less than the distance, if this is
-- lost in a large coordinate.
def reach : Axis → Point Float → Float → Float
  | horizontal, a, length => a.x + length - a.x
  | vertical, a, length => a.y + length - a.y

-- The two positions can be told apart.
structure Reaches (axis : Axis) (a : Point Float) (length : Float) : Prop where
  position : a.IsFinite
  long : Scalar.tolerance ≤ axis.reach a length
  finite : (axis.reach a length).isFinite = true

variable {axis : Axis} {a : Point Float} {length length' : Float}

theorem start_helper (axis : Axis) (a : Point Float) (length : Float) :
    (axis.helper a length).a = a := by
  cases axis <;> rfl

theorem sub_helper (h : axis.Reaches a length) :
    (axis.helper a length).b - (axis.helper a length).a =
      match axis with
      | horizontal => ⟨axis.reach a length, 0.0⟩
      | vertical => ⟨0.0, axis.reach a length⟩ := by
  cases axis with
  | horizontal =>
      change Point.mk _ (a.y + 0.0 - a.y) = _
      rw [add_zero_sub_self h.position.y]
      rfl
  | vertical =>
      change Point.mk (a.x + 0.0 - a.x) _ = _
      rw [add_zero_sub_self h.position.x]
      rfl

theorem unpack_norm_helper (h : axis.Reaches a length) :
    ((axis.helper a length).b - (axis.helper a length).a).norm.toModel.unpack =
      (axis.reach a length).toModel.unpack := by
  obtain ⟨m, e, hm, hreach⟩ := exists_unpack_of_le h.finite h.long
  rw [sub_helper h]
  cases axis with
  | horizontal => exact (unpack_hypot_zero hreach).2
  | vertical => exact (unpack_hypot_zero hreach).1

theorem not_norm_helper_lt (h : axis.Reaches a length) :
    ¬((axis.helper a length).b - (axis.helper a length).a).norm < Scalar.tolerance := by
  intro hshort
  rw [lt_iff, unpack_norm_helper h, ← lt_iff] at hshort
  exact not_le_of_lt hshort h.long

theorem not_length_helper_lt (h : axis.Reaches a length) :
    ¬(axis.helper a length).length < Scalar.tolerance := by
  have hlength : (axis.helper a length).length =
      ((axis.helper a length).b - (axis.helper a length).a).norm :=
    Point.dist_swap _ _
  rw [hlength]
  exact not_norm_helper_lt h

theorem direction_helper (h : axis.Reaches a length) :
    (axis.helper a length).direction = axis.unit := by
  obtain ⟨m, e, hm, hreach⟩ := exists_unpack_of_le h.finite h.long
  have hnorm := (unpack_norm_helper h).trans hreach
  simp only [Line.direction, Point.normalize, not_norm_helper_lt h, if_false]
  generalize ((axis.helper a length).b - (axis.helper a length).a).norm = norm at hnorm
  rw [sub_helper h]
  cases axis with
  | horizontal =>
      change Point.mk (Axis.horizontal.reach a length / norm) (0.0 / norm) = _
      rw [div_of_unpack_eq hreach hnorm, zero_div_of_unpack hnorm]
      rfl
  | vertical =>
      change Point.mk (0.0 / norm) (Axis.vertical.reach a length / norm) = _
      rw [div_of_unpack_eq hreach hnorm, zero_div_of_unpack hnorm]
      rfl

-- Of lines along an axis the length plays no part, as long as both positions can be told apart.
theorem alike_helper (h : axis.Reaches a length) (h' : axis.Reaches a length') :
    (axis.helper a length).Alike (axis.helper a length') where
  start := by rw [start_helper, start_helper]
  direction := by rw [direction_helper h, direction_helper h']
  length := iff_of_false (not_length_helper_lt h') (not_length_helper_lt h)
  norm := iff_of_false (not_norm_helper_lt h') (not_norm_helper_lt h)

end Axis

end PlaneSketch

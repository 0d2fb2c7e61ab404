import Mathlib.Data.EReal.Basic
import PlaneSketch.Proofs.Binary.Accuracy

namespace PlaneSketch.Binary

open Float.Model Float.Model.UnpackedFloat

-- The place of an unpacked number among the numbers and the two infinities; a NaN has none of its
-- own.
noncomputable def extended : UnpackedFloat → EReal
  | .infinity .negative => ⊥
  | .infinity .positive => ⊤
  | a => (value a : EReal)

section Unpacked

variable {a b : UnpackedFloat}

theorem extended_of_isFinite (h : a.isFinite = true) : extended a = (value a : EReal) := by
  cases a with
  | infinity s => cases h
  | _ => rfl

theorem eq_infinity_of_not_isFinite (h : a.isFinite = false) (hnan : a.isNaN = false) :
    ∃ s, a = .infinity s := by
  cases a with
  | infinity s => exact ⟨s, rfl⟩
  | notANumber => cases hnan
  | _ => cases h

theorem compare_infinity_of_isFinite (hfinite : b.isFinite = true) :
    (UnpackedFloat.infinity .negative).compare b = some .lt ∧
      (UnpackedFloat.infinity .positive).compare b = some .gt := by
  cases b with
  | zero t => exact ⟨rfl, rfl⟩
  | finite t m e hm => exact ⟨rfl, rfl⟩
  | _ => cases hfinite

theorem compare_infinity_eq_lt_iff {s : Sign} (hnan : b.isNaN = false) :
    (UnpackedFloat.infinity s).compare b = some .lt ↔ extended (.infinity s) < extended b := by
  cases hfinite : b.isFinite with
  | false =>
      obtain ⟨t, rfl⟩ := eq_infinity_of_not_isFinite hfinite hnan
      cases s <;> cases t <;> simp [UnpackedFloat.compare, compare, extended]
  | true =>
      obtain ⟨hnegative, hpositive⟩ := compare_infinity_of_isFinite hfinite
      rw [extended_of_isFinite hfinite]
      cases s with
      | negative => simp [hnegative, extended, EReal.bot_lt_coe]
      | positive => simp [hpositive, extended]

theorem compare_eq_lt_iff_infinity {t : Sign} (hfinite : a.isFinite = true) :
    a.compare (.infinity t) = some .lt ↔ extended a < extended (.infinity t) := by
  obtain ⟨hnegative, hpositive⟩ := compare_infinity_of_isFinite hfinite
  rw [compare_swap, extended_of_isFinite hfinite]
  cases t with
  | negative => simp [hnegative, extended]
  | positive => simp [hpositive, extended, EReal.coe_lt_top]

-- Comparison of what is not a NaN is the comparison of places.
theorem compare_eq_lt_iff_extended (ha : Canonical a) (hb : Canonical b) (hna : a.isNaN = false)
    (hnb : b.isNaN = false) : a.compare b = some .lt ↔ extended a < extended b := by
  cases hfa : a.isFinite with
  | false =>
      obtain ⟨s, rfl⟩ := eq_infinity_of_not_isFinite hfa hna
      exact compare_infinity_eq_lt_iff hnb
  | true =>
      cases hfb : b.isFinite with
      | false =>
          obtain ⟨t, rfl⟩ := eq_infinity_of_not_isFinite hfb hnb
          exact compare_eq_lt_iff_infinity hfa
      | true =>
          rw [extended_of_isFinite hfa, extended_of_isFinite hfb, EReal.coe_lt_coe_iff]
          exact compare_eq_lt_iff ha hb hfa hfb

end Unpacked

section Doubles

variable {x y z : Float}

theorem isNaN_left_of_le (h : x ≤ y) : x.isNaN = false := by
  rw [le_iff] at h
  change x.toModel.unpack.isNaN = false
  cases hx : x.toModel.unpack with
  | notANumber => cases hy : y.toModel.unpack <;> simp [hx, hy, UnpackedFloat.compare] at h
  | _ => rfl

theorem isNaN_right_of_le (h : x ≤ y) : y.isNaN = false :=
  Bool.eq_false_iff.mpr fun hnan => not_le_of_isNaN hnan h

theorem lt_iff_extended_of (hx : x.isNaN = false) (hy : y.isNaN = false) :
    x < y ↔ extended x.toModel.unpack < extended y.toModel.unpack :=
  lt_iff.trans (compare_eq_lt_iff_extended (canonical_unpack _) (canonical_unpack _) hx hy)

theorem lt_iff_extended : x < y ↔ x.isNaN = false ∧ y.isNaN = false ∧
    extended x.toModel.unpack < extended y.toModel.unpack := by
  constructor
  · intro h
    have hx := isNaN_left_of_le (le_of_lt h)
    have hy := isNaN_of_lt h
    exact ⟨hx, hy, (lt_iff_extended_of hx hy).mp h⟩
  · rintro ⟨hx, hy, hlt⟩
    exact (lt_iff_extended_of hx hy).mpr hlt

theorem le_iff_extended : x ≤ y ↔ x.isNaN = false ∧ y.isNaN = false ∧
    extended x.toModel.unpack ≤ extended y.toModel.unpack := by
  have hplaces (hx : x.isNaN = false) (hy : y.isNaN = false) :
      x ≤ y ↔ extended x.toModel.unpack ≤ extended y.toModel.unpack := by
    rw [← not_lt_iff_le hy hx, lt_iff_extended_of hy hx, not_lt]
  constructor
  · intro h
    have hx := isNaN_left_of_le h
    have hy := isNaN_right_of_le h
    exact ⟨hx, hy, (hplaces hx hy).mp h⟩
  · rintro ⟨hx, hy, hle⟩
    exact (hplaces hx hy).mpr hle

theorem trans_lt_lt (hxy : x < y) (hyz : y < z) : x < z := by
  rw [lt_iff_extended] at hxy hyz ⊢
  exact ⟨hxy.1, hyz.2.1, hxy.2.2.trans hyz.2.2⟩

theorem trans_le_lt (hxy : x ≤ y) (hyz : y < z) : x < z := by
  rw [le_iff_extended] at hxy
  rw [lt_iff_extended] at hyz ⊢
  exact ⟨hxy.1, hyz.2.1, hxy.2.2.trans_lt hyz.2.2⟩

theorem trans_lt_le (hxy : x < y) (hyz : y ≤ z) : x < z := by
  rw [le_iff_extended] at hyz
  rw [lt_iff_extended] at hxy ⊢
  exact ⟨hxy.1, hyz.2.1, hxy.2.2.trans_le hyz.2.2⟩

end Doubles

end PlaneSketch.Binary

import Mathlib.Order.Interval.Set.UnorderedInterval
import PlaneSketch.Geometry.Box
import PlaneSketch.Proofs.Binary.Identities
import PlaneSketch.Proofs.Binary.Order

namespace PlaneSketch

namespace Binary

open Float.Model Float.Model.UnpackedFloat

section Zero

variable {a b : UnpackedFloat} {x y : Float}

theorem SameValue.extended_eq (h : SameValue a b) : extended a = extended b := by
  rcases h with rfl | ⟨s, t, rfl, rfl⟩
  · rfl
  · rfl

theorem SameValue.isNaN_eq (h : SameValue a b) : a.isNaN = b.isNaN := by
  rcases h with rfl | ⟨s, t, rfl, rfl⟩
  · rfl
  · rfl

theorem sub_zero_double (x : Float) : x - 0.0 = x := by
  have hzero : UnpackedFloat.sub Format.binary64 x.toModel.unpack (.zero .positive) =
      x.toModel.unpack := by
    cases x.toModel.unpack with
    | zero s => cases s <;> rfl
    | _ => rfl
  change Float.ofModel (Float.Model.pack (UnpackedFloat.sub Format.binary64 x.toModel.unpack
    (.zero .positive))) = x
  rw [hzero, pack_unpack]

-- Of the zeros only the sign may change.
theorem sameValue_add_zero (x : Float) :
    SameValue (x + 0.0 : Float).toModel.unpack x.toModel.unpack := by
  have hzero : SameValue (UnpackedFloat.add Format.binary64 x.toModel.unpack (.zero .positive))
      x.toModel.unpack := by
    cases x.toModel.unpack with
    | zero s => cases s <;> exact .inr ⟨_, _, rfl, rfl⟩
    | _ => exact .inl rfl
  have hpacked := hzero.unpack_pack
  rwa [unpack_pack_unpack] at hpacked

theorem le_add_zero_iff : y ≤ x + 0.0 ↔ y ≤ x := by
  have hnan : (x + 0.0 : Float).isNaN = x.isNaN := (sameValue_add_zero x).isNaN_eq
  rw [le_iff_extended, le_iff_extended, hnan, (sameValue_add_zero x).extended_eq]

end Zero

-- The place of a double on the line with its two ends.
noncomputable def place (x : Float) : EReal := extended x.toModel.unpack

section Places

variable {x y : Float}

theorem least_places (hx : x.isNaN = false) (hy : y.isNaN = false) :
    (Scalar.least x y).isNaN = false ∧ place (Scalar.least x y) = min (place x) (place y) := by
  have hlt : y < x ↔ place y < place x := lt_iff_extended_of hy hx
  unfold Scalar.least
  split
  · rename_i hbelow
    exact ⟨hy, (min_eq_right (hlt.mp hbelow).le).symm⟩
  · rename_i habove
    exact ⟨hx, (min_eq_left (not_lt.mp (mt hlt.mpr habove))).symm⟩

theorem greatest_places (hx : x.isNaN = false) (hy : y.isNaN = false) :
    (Scalar.greatest x y).isNaN = false ∧
      place (Scalar.greatest x y) = max (place x) (place y) := by
  have hlt : x < y ↔ place x < place y := lt_iff_extended_of hx hy
  unfold Scalar.greatest
  split
  · rename_i habove
    exact ⟨hy, (max_eq_right (hlt.mp habove).le).symm⟩
  · rename_i hbelow
    exact ⟨hx, (max_eq_left (not_lt.mp (mt hlt.mpr hbelow))).symm⟩

-- Between two numbers, whichever of them is the smaller.
theorem between_iff {z : Float} (hx : x.isNaN = false) (hy : y.isNaN = false) :
    Scalar.least x y ≤ z ∧ z ≤ Scalar.greatest x y ↔
      z.isNaN = false ∧ place z ∈ Set.uIcc (place x) (place y) := by
  obtain ⟨hleast, hlow⟩ := least_places hx hy
  obtain ⟨hgreatest, hhigh⟩ := greatest_places hx hy
  rw [le_iff_extended, le_iff_extended, Set.uIcc, Set.mem_Icc, ← hlow, ← hhigh]
  constructor
  · rintro ⟨⟨-, hz, hle⟩, -, -, hge⟩
    exact ⟨hz, hle, hge⟩
  · rintro ⟨hz, hle, hge⟩
    exact ⟨⟨hleast, hz, hle⟩, hz, hgreatest, hge⟩

end Places

end Binary

open Binary

-- Both coordinates are numbers, finite or not.
structure Point.IsNumber (p : Point Float) : Prop where
  x : p.x.isNaN = false
  y : p.y.isNaN = false

namespace Box

variable {box inner outer : Box Float} {p : Point Float}

structure IsNumber (box : Box Float) : Prop where
  a : box.a.IsNumber
  b : box.b.IsNumber

-- What lies in a box lies between its corners, whichever two opposite ones are given.
theorem contains_iff (h : box.IsNumber) : box.contains 0.0 p = true ↔
    p.IsNumber ∧ place p.x ∈ Set.uIcc (place box.a.x) (place box.b.x) ∧
      place p.y ∈ Set.uIcc (place box.a.y) (place box.b.y) := by
  have hx := between_iff (z := p.x) h.a.x h.b.x
  have hy := between_iff (z := p.y) h.a.y h.b.y
  rw [contains, decide_eq_true_iff, sub_zero_double, sub_zero_double, le_add_zero_iff,
    le_add_zero_iff, ← and_assoc]
  refine (and_congr hx hy).trans ?_
  constructor
  · rintro ⟨⟨hnumberX, hplaceX⟩, hnumberY, hplaceY⟩
    exact ⟨⟨hnumberX, hnumberY⟩, hplaceX, hplaceY⟩
  · rintro ⟨hnumber, hplaceX, hplaceY⟩
    exact ⟨⟨hnumber.x, hplaceX⟩, hnumber.y, hplaceY⟩

-- A box lies inside another one where its corners do.
structure Inside (inner outer : Box Float) : Prop where
  a : outer.contains 0.0 inner.a = true
  b : outer.contains 0.0 inner.b = true

theorem Inside.isNumber (h : inner.Inside outer) (houter : outer.IsNumber) : inner.IsNumber :=
  ⟨((contains_iff houter).mp h.a).1, ((contains_iff houter).mp h.b).1⟩

theorem Inside.contains (h : inner.Inside outer) (houter : outer.IsNumber)
    (hp : inner.contains 0.0 p = true) : outer.contains 0.0 p = true := by
  obtain ⟨hnumber, hx, hy⟩ := (contains_iff (h.isNumber houter)).mp hp
  obtain ⟨-, hax, hay⟩ := (contains_iff houter).mp h.a
  obtain ⟨-, hbx, hby⟩ := (contains_iff houter).mp h.b
  exact (contains_iff houter).mpr
    ⟨hnumber, Set.uIcc_subset_uIcc hax hbx hx, Set.uIcc_subset_uIcc hay hby hy⟩

-- The ways to give a box by two opposite corners.
def descriptions (box : Box Float) : List (Box Float) :=
  [box, ⟨box.b, box.a⟩, ⟨⟨box.a.x, box.b.y⟩, ⟨box.b.x, box.a.y⟩⟩,
    ⟨⟨box.b.x, box.a.y⟩, ⟨box.a.x, box.b.y⟩⟩]

theorem contains_congr {other : Box Float} (h : box.IsNumber) (hother : other.IsNumber)
    (hx : Set.uIcc (place other.a.x) (place other.b.x) =
      Set.uIcc (place box.a.x) (place box.b.x))
    (hy : Set.uIcc (place other.a.y) (place other.b.y) =
      Set.uIcc (place box.a.y) (place box.b.y)) :
    other.contains 0.0 = box.contains 0.0 := by
  funext p
  rw [Bool.eq_iff_iff, contains_iff h, contains_iff hother, hx, hy]

theorem contains_of_description (h : box.IsNumber) {other : Box Float}
    (hother : other ∈ box.descriptions) : other.contains 0.0 = box.contains 0.0 := by
  simp only [descriptions, List.mem_cons, List.not_mem_nil, or_false] at hother
  obtain rfl | rfl | rfl | rfl := hother
  · rfl
  · exact contains_congr h ⟨h.b, h.a⟩ (Set.uIcc_comm _ _) (Set.uIcc_comm _ _)
  · exact contains_congr h ⟨⟨h.a.x, h.b.y⟩, h.b.x, h.a.y⟩ rfl (Set.uIcc_comm _ _)
  · exact contains_congr h ⟨⟨h.b.x, h.a.y⟩, h.a.x, h.b.y⟩ (Set.uIcc_comm _ _) rfl

end Box

end PlaneSketch

import PlaneSketch.Proofs.Binary.Rounding

namespace PlaneSketch.Binary

open Float.Model Float.Model.UnpackedFloat

section Unpacked

variable (a b : UnpackedFloat)

theorem isFinite_roundWithAccuracy (s : Sign) (m : Nat) (e : Int) (accuracy : Accuracy) :
    (roundWithAccuracy Format.binary64 s m e accuracy).isFinite = true := by
  rcases roundWithAccuracy_eq s m e accuracy with ⟨h, -⟩ | ⟨n, f, hn, h, -⟩ <;>
    simp [h, UnpackedFloat.isFinite]

theorem isFinite_normalize (mantissa e : Int) (zeroSign : Sign) :
    (UnpackedFloat.normalize Format.binary64 mantissa e zeroSign).isFinite = true := by
  rcases normalize_eq mantissa e zeroSign with ⟨s, h, -⟩ | ⟨s, n, f, hn, h, -⟩ <;>
    simp [h, UnpackedFloat.isFinite]

theorem isNaN_eq_false_of_isFinite {a : UnpackedFloat} (h : a.isFinite = true) :
    a.isNaN = false := by
  cases a <;> simp_all [UnpackedFloat.isFinite, UnpackedFloat.isNaN]

-- Sums, differences and products of numbers are numbers, and nothing else makes one.
theorem isFinite_add :
    (UnpackedFloat.add Format.binary64 a b).isFinite = (a.isFinite && b.isFinite) := by
  cases a with
  | infinity s =>
      cases b with
      | infinity t => cases s <;> cases t <;> rfl
      | _ => rfl
  | notANumber => cases b <;> rfl
  | zero s =>
      cases b with
      | zero t => cases s <;> cases t <;> rfl
      | _ => rfl
  | finite s m e hm =>
      cases b with
      | finite t n f hn => exact isFinite_normalize _ _ _
      | _ => rfl

theorem isFinite_sub :
    (UnpackedFloat.sub Format.binary64 a b).isFinite = (a.isFinite && b.isFinite) := by
  cases a with
  | infinity s =>
      cases b with
      | infinity t => cases s <;> cases t <;> rfl
      | _ => rfl
  | notANumber => cases b <;> rfl
  | zero s =>
      cases b with
      | zero t => cases s <;> cases t <;> rfl
      | _ => rfl
  | finite s m e hm =>
      cases b with
      | finite t n f hn => exact isFinite_normalize _ _ _
      | _ => rfl

theorem isFinite_mul :
    (UnpackedFloat.mul Format.binary64 a b).isFinite = (a.isFinite && b.isFinite) := by
  cases a with
  | finite s m e hm =>
      cases b with
      | finite t n f hn => exact isFinite_roundWithAccuracy _ _ _ _
      | _ => rfl
  | _ => cases b <;> rfl

-- A finite operand leaves a NaN or an infinity what it is.
theorem isNaN_add (ha : a.isFinite = true) :
    (UnpackedFloat.add Format.binary64 a b).isNaN = b.isNaN := by
  cases hb : b.isFinite with
  | true =>
      rw [isNaN_eq_false_of_isFinite hb, isNaN_eq_false_of_isFinite]
      rw [isFinite_add, ha, hb]
      rfl
  | false => cases a <;> cases b <;> simp_all [UnpackedFloat.add, UnpackedFloat.isFinite]

theorem isNaN_sub (hb : b.isFinite = true) :
    (UnpackedFloat.sub Format.binary64 a b).isNaN = a.isNaN := by
  cases ha : a.isFinite with
  | true =>
      rw [isNaN_eq_false_of_isFinite ha, isNaN_eq_false_of_isFinite]
      rw [isFinite_sub, ha, hb]
      rfl
  | false => cases a <;> cases b <;> simp_all [UnpackedFloat.sub, UnpackedFloat.isFinite]

theorem isNaN_unpackedHypot :
    (unpackedHypot a b).isNaN = ((a.isNaN || b.isNaN) && !a.isInf && !b.isInf) := by
  cases a with
  | finite s m e hm =>
      cases b with
      | finite t n f hn =>
          exact isNaN_eq_false_of_isFinite (isFinite_roundWithAccuracy _ _ _ _)
      | _ => rfl
  | _ => cases b <;> rfl

-- Packing can turn a finite number into an infinity, and does not change the class of anything
-- else.
theorem isNaN_unpack_pack : (Float.Model.pack a).unpack.isNaN = a.isNaN := by
  cases a with
  | finite s m e hm =>
      rcases unpack_pack_finite s m e hm with h | ⟨h, -⟩ | ⟨n, f, hn, h⟩ <;> rw [h] <;> rfl
  | _ => simp

theorem isFinite_of_unpack_pack (h : (Float.Model.pack a).unpack.isFinite = true) :
    a.isFinite = true := by
  cases a with
  | finite s m e hm => rfl
  | _ => simpa using h

end Unpacked

section Doubles

variable {x y : Float}

theorem isFinite_of_add (h : (x + y).isFinite = true) : x.isFinite = true ∧ y.isFinite = true := by
  have hparts := (isFinite_add _ _).symm.trans (isFinite_of_unpack_pack _ h)
  exact Bool.and_eq_true_iff.mp hparts

theorem isFinite_of_mul (h : (x * y).isFinite = true) : x.isFinite = true ∧ y.isFinite = true := by
  have hparts := (isFinite_mul _ _).symm.trans (isFinite_of_unpack_pack _ h)
  exact Bool.and_eq_true_iff.mp hparts

theorem isNaN_of_isFinite (hx : x.isFinite = true) : x.isNaN = false :=
  isNaN_eq_false_of_isFinite hx

theorem isInf_of_isFinite (hx : x.isFinite = true) : x.isInf = false := by
  change x.toModel.unpack.isFinite = true at hx
  change x.toModel.unpack.isInf = false
  cases h : x.toModel.unpack <;> simp_all [UnpackedFloat.isFinite, UnpackedFloat.isInf]

theorem isNaN_add_of_isFinite (hx : x.isFinite = true) : (x + y).isNaN = y.isNaN :=
  (isNaN_unpack_pack _).trans (isNaN_add _ _ hx)

theorem isNaN_sub_of_isFinite (hy : y.isFinite = true) : (x - y).isNaN = x.isNaN :=
  (isNaN_unpack_pack _).trans (isNaN_sub _ _ hy)

theorem isNaN_mul_of_isFinite (hx : x.isFinite = true) (hy : y.isFinite = true) :
    (x * y).isNaN = false := by
  refine (isNaN_unpack_pack _).trans (isNaN_eq_false_of_isFinite ?_)
  rw [isFinite_mul]
  exact Bool.and_eq_true_iff.mpr ⟨hx, hy⟩

theorem isInf_sub_of_isFinite (hx : x.isFinite = false) (hy : y.isFinite = true) :
    (x - y).isInf = x.isInf := by
  change (Float.Model.pack (UnpackedFloat.sub Format.binary64 x.toModel.unpack
    y.toModel.unpack)).unpack.isInf = x.toModel.unpack.isInf
  change x.toModel.unpack.isFinite = false at hx
  change y.toModel.unpack.isFinite = true at hy
  generalize x.toModel.unpack = a at *
  generalize y.toModel.unpack = b at *
  cases a <;> cases b <;> simp_all [UnpackedFloat.sub, UnpackedFloat.isFinite]

theorem isNaN_hypot (x y : Float) :
    (hypot x y).isNaN = ((x.isNaN || y.isNaN) && !x.isInf && !y.isInf) :=
  (isNaN_unpack_pack _).trans (isNaN_unpackedHypot _ _)

end Doubles

end PlaneSketch.Binary

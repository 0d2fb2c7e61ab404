import PlaneSketch.Proofs.Binary.Accuracy

namespace PlaneSketch.Binary

open Float.Model Float.Model.UnpackedFloat

section Unpacked

variable {a b : UnpackedFloat}

-- The same number, or the one of the other sign.
def SameSize (a b : UnpackedFloat) : Prop := a = b ∨ a = b.neg

theorem neg_roundWithAccuracy (s : Sign) (m : Nat) (e : Int) (accuracy : Accuracy) :
    roundWithAccuracy Format.binary64 (-s) m e accuracy =
      (roundWithAccuracy Format.binary64 s m e accuracy).neg := by
  simp only [roundWithAccuracy]
  split <;> rfl

theorem neg_round (s : Sign) (m : Nat) (e : Int) :
    UnpackedFloat.round Format.binary64 (-s) m e =
      (UnpackedFloat.round Format.binary64 s m e).neg :=
  neg_roundWithAccuracy s _ _ _

theorem sameSize_normalize (mantissa e : Int) :
    SameSize (UnpackedFloat.normalize Format.binary64 (-mantissa) e .positive)
      (UnpackedFloat.normalize Format.binary64 mantissa e .positive) := by
  rcases lt_trichotomy mantissa 0 with hneg | rfl | hpos
  · have hback : 0 < -mantissa := by omega
    simp only [UnpackedFloat.normalize, Int.compare_eq_lt.mpr hneg, Int.compare_eq_gt.mpr hback]
    exact .inr (neg_round .negative _ e)
  · exact .inl rfl
  · have hback : -mantissa < 0 := by omega
    simp only [UnpackedFloat.normalize, Int.compare_eq_gt.mpr hpos, Int.compare_eq_lt.mpr hback,
      neg_neg]
    exact .inr (neg_round .positive _ e)

theorem sameSize_sub (a b : UnpackedFloat) :
    SameSize (UnpackedFloat.sub Format.binary64 a b) (UnpackedFloat.sub Format.binary64 b a) := by
  cases a with
  | finite s m e hm =>
      cases b with
      | finite t n f hn =>
          rw [sub_finite, sub_finite, min_comm f e, ← neg_sub]
          exact sameSize_normalize _ _
      | infinity t => cases t <;> exact .inr rfl
      | zero t => cases s <;> exact .inr rfl
      | notANumber => exact .inl rfl
  | infinity s =>
      cases b with
      | infinity t => cases s <;> cases t <;> exact .inr rfl
      | _ => cases s <;> exact .inr rfl
  | zero s =>
      cases b with
      | infinity t => cases t <;> exact .inr rfl
      | zero t => cases s <;> cases t <;> first | exact .inr rfl | exact .inl rfl
      | finite t n f hn => cases t <;> exact .inr rfl
      | notANumber => exact .inl rfl
  | notANumber => cases b <;> exact .inl rfl

theorem unpack_pack_unpack (x : Float.Model) : (Float.Model.pack x.unpack).unpack = x.unpack := by
  cases hx : x.unpack with
  | finite s m e hm =>
      obtain ⟨hbounds, hlarge⟩ := finite_range hx
      rcases unpack_pack_canonical s hm hbounds with h | ⟨hover, -⟩
      · exact h
      · omega
  | _ => simp

theorem pack_unpack (x : Float.Model) : Float.Model.pack x.unpack = x := by
  cases x with
  | mk bits valid => simp only [Float.Model.pack, Float.Model.unpack, pack_unpack_of_valid valid]

theorem unpack_pack_neg (ha : Canonical a) :
    (Float.Model.pack a.neg).unpack = (Float.Model.pack a).unpack.neg := by
  cases a with
  | finite s m e hm =>
      change (Float.Model.pack (.finite (-s) m e hm)).unpack = _
      rcases unpack_pack_canonical s hm ha with h | ⟨hlarge, h⟩ <;>
        rcases unpack_pack_canonical (-s) hm ha with hneg | ⟨hlarge', hneg⟩
      · rw [h, hneg]
        rfl
      · have hfits := (finite_range h).2
        omega
      · have hfits := (finite_range hneg).2
        omega
      · rw [h, hneg]
        rfl
  | zero s => cases s <;> rfl
  | infinity s => cases s <;> rfl
  | notANumber => rfl

theorem SameSize.unpack_pack (ha : Canonical b) (h : SameSize a b) :
    SameSize (Float.Model.pack a).unpack (Float.Model.pack b).unpack := by
  rcases h with rfl | rfl
  · exact .inl rfl
  · exact .inr (unpack_pack_neg ha)

-- A length does not depend on which way the coordinates point.
theorem SameSize.unpackedHypot {c d : UnpackedFloat} (hab : SameSize a b) (hcd : SameSize c d) :
    Binary.unpackedHypot a c = Binary.unpackedHypot b d := by
  rcases hab with rfl | rfl <;> rcases hcd with rfl | rfl
  · rfl
  · cases a <;> cases d <;> rfl
  · cases b <;> cases c <;> rfl
  · cases b <;> cases d <;> rfl

theorem canonical_sub (ha : Canonical a) (hb : Canonical b) :
    Canonical (UnpackedFloat.sub Format.binary64 a b) := by
  cases a with
  | finite s m e hm =>
      cases b with
      | finite t n f hn => exact (rounds_sub ha hb rfl rfl).canonical
      | zero t => exact ha
      | _ => trivial
  | infinity s =>
      cases b with
      | infinity t => cases s <;> cases t <;> trivial
      | _ => trivial
  | zero s =>
      cases b with
      | finite t n f hn => exact hb
      | zero t => cases s <;> cases t <;> trivial
      | _ => trivial
  | notANumber => cases b <;> trivial

theorem divCore_self {m : Nat} (e : Int) (hm : 0 < m) :
    divCore Format.binary64 m e m e = (2 ^ 53, -53, .exact) := by
  have htarget : min 0 (Format.binary64.targetExponent 0) = -53 := by decide
  have hquotient : m <<< 53 / m = 2 ^ 53 := by
    rw [Nat.shiftLeft_eq, Nat.mul_div_cancel_left _ hm]
  have hremainder : m <<< 53 % m = 0 := by
    rw [Nat.shiftLeft_eq, Nat.mul_mod_right]
  simp only [divCore, Int.sub_self, htarget]
  change (m <<< 53 / m, -53, accuracyOfFraction (m <<< 53 % m) m) = _
  rw [hquotient, hremainder]
  rfl

end Unpacked

section Doubles

variable {x y : Float}

theorem sameSize_unpack_sub (x y : Float) :
    SameSize (x - y).toModel.unpack (y - x).toModel.unpack :=
  (sameSize_sub _ _).unpack_pack (canonical_sub (canonical_unpack _) (canonical_unpack _))

theorem unpack_neg (x : Float) : (-x).toModel.unpack = x.toModel.unpack.neg := by
  change (Float.Model.pack x.toModel.unpack.neg).unpack = _
  rw [unpack_pack_neg (canonical_unpack _), unpack_pack_unpack]

theorem hypot_neg_left (x y : Float) : hypot (-x) y = hypot x y :=
  congrArg (fun a => Float.ofModel (Float.Model.pack a))
    (SameSize.unpackedHypot (.inr (unpack_neg x)) (.inl rfl))

theorem hypot_neg_right (x y : Float) : hypot x (-y) = hypot x y :=
  congrArg (fun a => Float.ofModel (Float.Model.pack a))
    (SameSize.unpackedHypot (.inl rfl) (.inr (unpack_neg y)))

-- Only the zero vector has no length.
theorem hypot_pos (h : ¬((x == 0.0) = true ∧ (y == 0.0) = true))
    (hnan : (hypot x y).isNaN = false) : 0.0 < hypot x y := by
  have hzero {z : Float} {s : Sign} (hz : z.toModel.unpack = .zero s) : (z == 0.0) = true := by
    change (z.toModel.unpack.compare (.zero .positive) == some .eq) = true
    rw [hz]
    rfl
  have hapart : (hypot x y).toModel.unpack ≠ .zero .positive := by
    intro hlength
    obtain ⟨s, hs⟩ := zero_of_unpack_pack
      (fits_unpackedHypot (fits_unpack x.toModel) (fits_unpack y.toModel)) hlength
    obtain ⟨⟨t, hx⟩, u, hy⟩ :=
      zero_of_unpackedHypot (fits_unpack x.toModel) (fits_unpack y.toModel) hs
    exact h ⟨hzero hx, hzero hy⟩
  exact lt_iff.mpr (zero_lt_of_nonNegative
    (nonNegative_unpack_pack (nonNegative_unpackedHypot _ _)) hnan hapart .positive)

-- Turning the sign twice gives the number back, a NaN included.
theorem neg_neg_double (x : Float) : -(-x) = x := by
  have hback : (Float.Model.pack x.toModel.unpack.neg).unpack.neg = x.toModel.unpack := by
    rw [unpack_pack_neg (canonical_unpack _), unpack_pack_unpack]
    cases x.toModel.unpack with
    | finite s m e hm => cases s <;> rfl
    | zero s => cases s <;> rfl
    | infinity s => cases s <;> rfl
    | notANumber => rfl
  change Float.ofModel (Float.Model.pack (Float.Model.pack x.toModel.unpack.neg).unpack.neg) = x
  rw [hback, pack_unpack]

-- Adding nothing to a finite number and taking the number away again leaves nothing.
theorem add_zero_sub_self (hx : x.isFinite = true) : x + 0.0 - x = 0.0 := by
  have hzero : (UnpackedFloat.sub Format.binary64 (x + 0.0 : Float).toModel.unpack
      x.toModel.unpack) = .zero .positive := by
    change (UnpackedFloat.sub Format.binary64 (Float.Model.pack (UnpackedFloat.add _
      x.toModel.unpack (0.0 : Float).toModel.unpack)).unpack x.toModel.unpack) = _
    change x.toModel.unpack.isFinite = true at hx
    cases h : x.toModel.unpack with
    | zero s => cases s <;> rfl
    | finite s m e hm =>
        have hsame : UnpackedFloat.add Format.binary64 (.finite s m e hm)
            (0.0 : Float).toModel.unpack = x.toModel.unpack := h.symm
        rw [hsame, unpack_pack_unpack, h]
        exact sub_self_of_isFinite rfl
    | _ =>
        rw [h] at hx
        cases hx
  change Float.ofModel (Float.Model.pack (UnpackedFloat.sub Format.binary64 _ _)) = _
  rw [hzero]
  rfl

-- Where one coordinate is zero the length is the other one.
theorem unpack_hypot_zero {m : Nat} {e : Int} {hm : 0 < m}
    (hx : x.toModel.unpack = .finite .positive m e hm) :
    (hypot 0.0 x).toModel.unpack = x.toModel.unpack ∧
      (hypot x 0.0).toModel.unpack = x.toModel.unpack := by
  have hforth : unpackedHypot (0.0 : Float).toModel.unpack x.toModel.unpack =
      x.toModel.unpack := by
    rw [hx]
    rfl
  have hback : unpackedHypot x.toModel.unpack (0.0 : Float).toModel.unpack =
      x.toModel.unpack := by
    rw [hx]
    rfl
  change (Float.Model.pack (unpackedHypot _ _)).unpack = _ ∧
    (Float.Model.pack (unpackedHypot _ _)).unpack = _
  rw [hforth, hback, unpack_pack_unpack]
  exact ⟨rfl, rfl⟩

-- A number over itself.
theorem div_of_unpack_eq {m : Nat} {e : Int} {hm : 0 < m}
    (hx : x.toModel.unpack = .finite .positive m e hm)
    (hy : y.toModel.unpack = .finite .positive m e hm) : x / y = 1.0 := by
  change Float.ofModel (Float.Model.pack (UnpackedFloat.div Format.binary64
    x.toModel.unpack y.toModel.unpack)) = _
  rw [hx, hy]
  change Float.ofModel (Float.Model.pack (roundWithAccuracy Format.binary64 .positive
    (divCore Format.binary64 m e m e).1 (divCore Format.binary64 m e m e).2.1
    (divCore Format.binary64 m e m e).2.2)) = _
  rw [divCore_self e hm]
  decide +kernel

-- Nothing over a positive number.
theorem zero_div_of_unpack {m : Nat} {e : Int} {hm : 0 < m}
    (hx : x.toModel.unpack = .finite .positive m e hm) : 0.0 / x = 0.0 := by
  change Float.ofModel (Float.Model.pack (UnpackedFloat.div Format.binary64
    (0.0 : Float).toModel.unpack x.toModel.unpack)) = _
  rw [hx]
  rfl

end Doubles

end PlaneSketch.Binary

import Mathlib.Data.Nat.Sqrt
import PlaneSketch.Proofs.Binary.Class

namespace PlaneSketch.Binary

open Float.Model Float.Model.UnpackedFloat

section Order

variable {x y : Float}

theorem lt_iff : x < y ↔ x.toModel.unpack.compare y.toModel.unpack = some .lt := by
  change decide (x.toModel.unpack.lt y.toModel.unpack = true) = true ↔ _
  rw [decide_eq_true_iff, UnpackedFloat.lt, beq_iff_eq]

theorem le_iff :
    x ≤ y ↔ (x.toModel.unpack.compare y.toModel.unpack).any (·.isLE) = true := by
  change decide (x.toModel.unpack.le y.toModel.unpack = true) = true ↔ _
  rw [decide_eq_true_iff, UnpackedFloat.le]

-- Only a NaN differs from itself.
theorem beq_self (x : Float) : (x == x) = !x.isNaN := by
  change (x.toModel.unpack.compare x.toModel.unpack == some .eq) = !x.toModel.unpack.isNaN
  cases x.toModel.unpack with
  | infinity s => cases s <;> rfl
  | finite s m e hm => cases s <;> simp [UnpackedFloat.compare, UnpackedFloat.isNaN]
  | _ => rfl

theorem not_lt_self (x : Float) : ¬x < x := by
  rw [lt_iff]
  cases x.toModel.unpack with
  | infinity s => cases s <;> simp [UnpackedFloat.compare, compare]
  | finite s m f hm => cases s <;> simp [UnpackedFloat.compare]
  | _ => simp [UnpackedFloat.compare]

theorem isNaN_of_lt (h : x < y) : y.isNaN = false := by
  rw [lt_iff] at h
  change y.toModel.unpack.isNaN = false
  cases hy : y.toModel.unpack with
  | notANumber =>
      rw [hy] at h
      cases hx : x.toModel.unpack <;> simp [hx, UnpackedFloat.compare] at h
  | _ => rfl

theorem compare_swap (a b : UnpackedFloat) : b.compare a = (a.compare b).map Ordering.swap := by
  cases a with
  | finite s m e hm =>
      cases b with
      | finite t n f hn =>
          cases s <;> cases t <;>
            simp [UnpackedFloat.compare, Ordering.swap_then, Int.compare_swap, Nat.compare_swap]
      | infinity t => cases s <;> cases t <;> rfl
      | zero t => cases s <;> rfl
      | notANumber => rfl
  | infinity s =>
      cases b with
      | infinity t => cases s <;> cases t <;> rfl
      | _ => cases s <;> rfl
  | zero s =>
      cases b with
      | infinity t => cases t <;> rfl
      | finite t n f hn => cases t <;> rfl
      | _ => rfl
  | notANumber => cases b <;> rfl

theorem not_le_of_lt (h : x < y) : ¬y ≤ x := by
  rw [lt_iff] at h
  rw [le_iff, compare_swap, h]
  simp

theorem le_of_lt (h : x < y) : x ≤ y := by
  rw [lt_iff] at h
  rw [le_iff, h]
  rfl

theorem isSome_compare {a b : UnpackedFloat} (ha : a.isNaN = false) (hb : b.isNaN = false) :
    (a.compare b).isSome = true := by
  unfold UnpackedFloat.compare
  split
  · cases ha
  · cases hb
  all_goals rfl

-- Of two numbers that are not NaN one is not above the other.
theorem not_lt_iff_le (hx : x.isNaN = false) (hy : y.isNaN = false) : ¬x < y ↔ y ≤ x := by
  obtain ⟨order, horder⟩ := Option.isSome_iff_exists.mp (isSome_compare hx hy)
  rw [lt_iff, le_iff, compare_swap x.toModel.unpack, horder]
  cases order <;> simp

theorem not_le_of_isNaN (h : y.isNaN = true) : ¬x ≤ y := by
  rw [le_iff]
  change y.toModel.unpack.isNaN = true at h
  cases hy : y.toModel.unpack with
  | notANumber => cases x.toModel.unpack <;> simp [UnpackedFloat.compare]
  | _ => simp [hy, UnpackedFloat.isNaN] at h

end Order

-- Neither negative nor minus zero; a NaN counts.
def nonNegative : UnpackedFloat → Bool
  | .infinity .negative => false
  | .zero .negative => false
  | .finite .negative .. => false
  | _ => true

section Unpacked

variable {a : UnpackedFloat}

theorem nonNegative_unpack_pack (h : nonNegative a = true) :
    nonNegative (Float.Model.pack a).unpack = true := by
  cases a with
  | finite s m e hm =>
      cases s with
      | negative => cases h
      | positive =>
          rcases unpack_pack_finite .positive m e hm with h | ⟨h, -⟩ | ⟨n, f, hn, h⟩ <;>
            rw [h] <;> rfl
  | _ => simpa using h

-- A length is zero, or a NaN, or positive.
theorem zero_lt_of_nonNegative (h : nonNegative a = true) (hnan : a.isNaN = false)
    (hzero : a ≠ .zero .positive) (s : Sign) : (UnpackedFloat.zero s).compare a = some .lt := by
  cases a with
  | infinity t => cases t <;> simp_all [nonNegative, UnpackedFloat.compare]
  | finite t m e hm => cases t <;> simp_all [nonNegative, UnpackedFloat.compare]
  | zero t => cases t <;> simp_all [nonNegative]
  | notANumber => cases hnan

-- The root is computed with all bits down to the exponent that is half of the given one.
theorem two_pow_le_sqrtCore {m : Nat} (hm : 0 < m) (low : Int) :
    2 ^ (low - (sqrtCore Format.binary64 m (2 * low)).2.1).toNat ≤
      (sqrtCore Format.binary64 m (2 * low)).1 := by
  have hle : (sqrtCore Format.binary64 m (2 * low)).2.1 ≤ low := by
    refine Int.le_trans (Int.min_le_left _ _) ?_
    change 2 * low / 2 ≤ low
    omega
  have hroot : (sqrtCore Format.binary64 m (2 * low)).1 =
      Nat.sqrt (m <<< (2 * low - 2 * (sqrtCore Format.binary64 m (2 * low)).2.1).toNat) := rfl
  generalize (sqrtCore Format.binary64 m (2 * low)).2.1 = target at *
  have hdouble : (2 * low - 2 * target).toNat = (low - target).toNat + (low - target).toNat := by
    omega
  rw [hroot, Nat.le_sqrt, ← Nat.pow_add, hdouble, Nat.shiftLeft_eq]
  exact Nat.le_mul_of_pos_left _ hm

theorem unpackedHypot_finite (s t : Sign) {m n : Nat} {e f : Int} (hm : 0 < m) (hn : 0 < n) :
    ∃ root target accuracy,
      unpackedHypot (.finite s m e hm) (.finite t n f hn) =
        roundWithAccuracy Format.binary64 .positive root target accuracy ∧
      2 ^ (min e f - target).toNat ≤ root :=
  ⟨_, _, _, rfl, two_pow_le_sqrtCore (sumOfSquares_pos m e n f hm) (min e f)⟩

theorem nonNegative_unpackedHypot (a b : UnpackedFloat) :
    nonNegative (unpackedHypot a b) = true := by
  cases a with
  | finite s m e hm =>
      cases b with
      | finite t n f hn =>
          obtain ⟨root, target, accuracy, h, -⟩ := unpackedHypot_finite s t hm hn
          rw [h]
          rcases roundWithAccuracy_eq .positive root target accuracy with
            ⟨h, -⟩ | ⟨n, f, hn, h, -⟩ <;> rw [h] <;> rfl
      | _ => rfl
  | _ => cases b <;> rfl

-- A number with the parts a double can have.
def Fits : UnpackedFloat → Prop
  | .finite _ m e _ => Rounded m e
  | _ => True

theorem fits_unpack (x : Float.Model) : Fits x.unpack := by
  cases h : x.unpack with
  | finite s m e hm => exact ⟨(finite_bounds h).1, (finite_bounds h).2.1⟩
  | _ => trivial

-- Of what fits, only a zero is packed into a zero.
theorem zero_of_unpack_pack (ha : Fits a) {t : Sign}
    (h : (Float.Model.pack a).unpack = .zero t) : ∃ s, a = .zero s := by
  cases a with
  | finite s m e hm =>
      rcases unpack_pack_finite s m e hm with hpack | ⟨-, hnot⟩ | ⟨n, f, hn, hpack⟩
      · simp [hpack] at h
      · exact absurd ha hnot
      · simp [hpack] at h
  | zero s => exact ⟨s, rfl⟩
  | _ => simp at h

theorem fits_unpackedHypot {b : UnpackedFloat} (ha : Fits a) (hb : Fits b) :
    Fits (unpackedHypot a b) := by
  cases a with
  | finite s m e hm =>
      cases b with
      | finite t n f hn =>
          obtain ⟨root, target, accuracy, h, -⟩ := unpackedHypot_finite s t hm hn
          rw [h]
          rcases roundWithAccuracy_eq .positive root target accuracy with
            ⟨h, -⟩ | ⟨n, f, hn, h, hbounds⟩ <;> rw [h]
          · trivial
          · exact hbounds
      | zero t => exact ha
      | _ => trivial
  | _ => cases b <;> trivial

-- Squares do not underflow: only the zero vector has length zero.
theorem zero_of_unpackedHypot {b : UnpackedFloat} (ha : Fits a) (hb : Fits b) {r : Sign}
    (h : unpackedHypot a b = .zero r) : (∃ s, a = .zero s) ∧ ∃ t, b = .zero t := by
  cases a with
  | finite s m e hm =>
      cases b with
      | finite t n f hn =>
          obtain ⟨root, target, accuracy, hround, hroot⟩ := unpackedHypot_finite s t hm hn
          rw [hround] at h
          have he : -1074 ≤ e := ha.2
          have hf : -1074 ≤ f := hb.2
          rcases roundWithAccuracy_eq .positive root target accuracy with
            ⟨-, hfine⟩ | ⟨n, f, hn, hfinite, -⟩
          · have hle : 2 ^ (-1074 - target).toNat ≤ 2 ^ (min e f - target).toNat :=
              Nat.pow_le_pow_right (by omega) (by omega)
            omega
          · rw [hfinite] at h
            cases h
      | _ => cases h
  | zero s =>
      cases b with
      | zero t => exact ⟨⟨s, rfl⟩, t, rfl⟩
      | _ => cases h
  | _ => cases b <;> cases h

-- Differences are computed over the smaller exponent.
theorem sub_finite (s t : Sign) {m n : Nat} {e f : Int} (hm : 0 < m) (hn : 0 < n) :
    UnpackedFloat.sub Format.binary64 (.finite s m e hm) (.finite t n f hn) =
      UnpackedFloat.normalize Format.binary64
        (s.apply (m <<< (e - min e f).toNat : Nat) - t.apply (n <<< (f - min e f).toNat : Nat))
        (min e f) .positive :=
  rfl

theorem fits_sub {b : UnpackedFloat} (ha : Fits a) (hb : Fits b) :
    Fits (UnpackedFloat.sub Format.binary64 a b) := by
  cases a with
  | finite s m e hm =>
      cases b with
      | finite t n f hn =>
          rw [sub_finite]
          rcases normalize_eq (s.apply _ - t.apply _) (min e f) .positive with
            ⟨s, h, -⟩ | ⟨s, n, f, hn, h, hbounds⟩
          · rw [h]
            trivial
          · rw [h]
            exact hbounds
      | zero t => exact ha
      | _ => trivial
  | infinity s =>
      cases b with
      | infinity t => cases s <;> cases t <;> trivial
      | _ => trivial
  | zero s =>
      cases b with
      | zero t => cases s <;> cases t <;> trivial
      | finite t n f hn => exact hb
      | _ => trivial
  | notANumber => cases b <;> trivial

theorem sub_self_of_isFinite (h : a.isFinite = true) :
    UnpackedFloat.sub Format.binary64 a a = .zero .positive := by
  cases a with
  | zero s => cases s <;> rfl
  | finite s m e hm => simp [UnpackedFloat.sub, UnpackedFloat.normalize]
  | _ => cases h

theorem unpack_sub_self {x : Float} (hx : x.isFinite = true) :
    (x - x : Float).toModel.unpack = .zero .positive := by
  change (Float.Model.pack (UnpackedFloat.sub _ x.toModel.unpack x.toModel.unpack)).unpack = _
  rw [sub_self_of_isFinite hx, unpack_pack_zero]

-- The same number: the same parts, or both zero.
def SameValue (a b : UnpackedFloat) : Prop := a = b ∨ ∃ s t, a = .zero s ∧ b = .zero t

-- With full mantissas the same number is only written with the same exponent.
theorem mantissa_unique {m n : Nat} {k : Nat} (hm : m < 2 ^ 53) (hn : k = 0 ∨ 2 ^ 52 ≤ n)
    (h : m = n * 2 ^ k) : k = 0 := by
  rcases hn with hk | hn
  · exact hk
  by_contra hk
  have htwo : 2 ^ 1 ≤ 2 ^ k := Nat.pow_le_pow_right (by omega) (by omega)
  have hle : 2 ^ 52 * 2 ^ 1 ≤ n * 2 ^ k := Nat.mul_le_mul hn htwo
  omega

theorem eq_of_sub_eq_zero {s t : Sign} {m n : Nat} {e f : Int} {hm : 0 < m} {hn : 0 < n}
    (hx : m < 2 ^ 53 ∧ -1074 ≤ e ∧ (e = -1074 ∨ 2 ^ 52 ≤ m))
    (hy : n < 2 ^ 53 ∧ -1074 ≤ f ∧ (f = -1074 ∨ 2 ^ 52 ≤ n))
    (h : s.apply (m <<< (e - min e f).toNat : Nat) -
      t.apply (n <<< (f - min e f).toNat : Nat) = 0) :
    UnpackedFloat.finite s m e hm = .finite t n f hn := by
  rw [Nat.shiftLeft_eq, Nat.shiftLeft_eq] at h
  have hmpos : 0 < m * 2 ^ (e - min e f).toNat := Nat.mul_pos hm (Nat.two_pow_pos _)
  have hnpos : 0 < n * 2 ^ (f - min e f).toNat := Nat.mul_pos hn (Nat.two_pow_pos _)
  have hsign : s = t := by
    cases s <;> cases t <;> simp only [Sign.apply] at h <;> first | rfl | omega
  have hvalue : m * 2 ^ (e - min e f).toNat = n * 2 ^ (f - min e f).toNat := by
    cases s <;> cases t <;> simp only [Sign.apply] at h <;> omega
  subst hsign
  obtain ⟨hsame, hexponent⟩ : m = n ∧ e = f := by
    rcases Int.le_total e f with hle | hle
    · have he : (e - min e f).toNat = 0 := by omega
      rw [he, Nat.pow_zero, Nat.mul_one] at hvalue
      have hf := mantissa_unique hx.1 (hy.2.2.imp_left fun _ => by omega) hvalue
      rw [hf, Nat.pow_zero, Nat.mul_one] at hvalue
      exact ⟨hvalue, by omega⟩
    · have hf : (f - min e f).toNat = 0 := by omega
      rw [hf, Nat.pow_zero, Nat.mul_one] at hvalue
      have he := mantissa_unique hy.1 (hx.2.2.imp_left fun _ => by omega) hvalue.symm
      rw [he, Nat.pow_zero, Nat.mul_one] at hvalue
      exact ⟨hvalue, by omega⟩
  simp [hsame, hexponent]

theorem sameValue_of_sub {x y : Float.Model} {r : Sign}
    (h : UnpackedFloat.sub Format.binary64 x.unpack y.unpack = .zero r) :
    SameValue x.unpack y.unpack := by
  cases hx : x.unpack with
  | finite s m e hm =>
      cases hy : y.unpack with
      | finite t n f hn =>
          rw [hx, hy, sub_finite] at h
          refine .inl (eq_of_sub_eq_zero (finite_bounds hx) (finite_bounds hy) ?_)
          have he := (finite_bounds hx).2.1
          have hf := (finite_bounds hy).2.1
          generalize s.apply _ - t.apply _ = mantissa at h ⊢
          rcases normalize_eq mantissa (min e f) .positive with
            ⟨-, -, hzero⟩ | ⟨_, _, _, _, hfinite, -⟩
          · exact hzero.resolve_right (by omega)
          · rw [hfinite] at h
            cases h
      | _ =>
          rw [hx, hy] at h
          cases h
  | zero s =>
      cases hy : y.unpack with
      | zero t => exact .inr ⟨s, t, rfl, rfl⟩
      | _ =>
          rw [hx, hy] at h
          cases h
  | infinity s =>
      cases hy : y.unpack with
      | infinity t =>
          rw [hx, hy] at h
          cases s <;> cases t <;> cases h
      | _ =>
          rw [hx, hy] at h
          cases h
  | notANumber =>
      rw [hx] at h
      cases hy : y.unpack <;> rw [hy] at h <;> cases h

theorem SameValue.sub {b : UnpackedFloat} (h : SameValue a b) (c : UnpackedFloat) :
    SameValue (UnpackedFloat.sub Format.binary64 a c) (UnpackedFloat.sub Format.binary64 b c) := by
  rcases h with rfl | ⟨s, t, rfl, rfl⟩
  · exact .inl rfl
  · cases c with
    | zero r => cases s <;> cases t <;> cases r <;> exact .inr ⟨_, _, rfl, rfl⟩
    | _ => exact .inl rfl

theorem SameValue.unpack_pack {b : UnpackedFloat} (h : SameValue a b) :
    SameValue (Float.Model.pack a).unpack (Float.Model.pack b).unpack := by
  rcases h with rfl | ⟨s, t, rfl, rfl⟩
  · exact .inl rfl
  · exact .inr ⟨s, t, unpack_pack_zero s, unpack_pack_zero t⟩

-- A length does not depend on the signs of zeros.
theorem SameValue.unpackedHypot {b c d : UnpackedFloat} (hab : SameValue a b)
    (hcd : SameValue c d) : Binary.unpackedHypot a c = Binary.unpackedHypot b d := by
  rcases hab with rfl | ⟨s, t, rfl, rfl⟩ <;> rcases hcd with rfl | ⟨u, v, rfl, rfl⟩
  · rfl
  · cases a <;> rfl
  · cases c <;> rfl
  · rfl

end Unpacked

end PlaneSketch.Binary

import Mathlib
import PlaneSketch.Binary.Hypot

namespace PlaneSketch.Binary

open Float.Model Float.Model.UnpackedFloat

theorem unpackSign_packComponents {spec : Format} (s : Sign) (e : BitVec spec.exponentBits)
    (m : BitVec spec.mantissaBitsWithoutImplicit) :
    Sign.ofBitVec (unpackSign (packComponents spec s e m)) = s := by
  have hbit : unpackSign (packComponents spec s e m) = s.toBitVec := by
    ext i hi
    obtain rfl : i = 0 := by omega
    simp [unpackSign, packComponents, BitVec.getLsbD_append, ← BitVec.getLsbD_eq_getElem]
  rw [hbit]
  cases s <;> rfl

@[simp] theorem unpack_pack_notANumber :
    (Float.Model.pack .notANumber).unpack = .notANumber := rfl

@[simp] theorem unpack_pack_infinity (s : Sign) :
    (Float.Model.pack (.infinity s)).unpack = .infinity s := by
  cases s <;> rfl

@[simp] theorem unpack_pack_zero (s : Sign) : (Float.Model.pack (.zero s)).unpack = .zero s := by
  cases s <;> rfl

theorem toNat_implicit (y : BitVec 52) : (1#1 ++ y).toNat = 2 ^ 52 + y.toNat := by
  rw [BitVec.toNat_append, ← Nat.shiftLeft_add_eq_or_of_lt y.isLt]
  rfl

theorem unpack_subnormal (s : Sign) {y : BitVec 52} (hy : 0 < y.toNat) :
    UnpackedFloat.unpack Format.binary64 (packComponents Format.binary64 s 0#11 y) =
      .finite s y.toNat (-1074) hy := by
  have hne : y ≠ 0#52 := by
    rintro rfl
    simp at hy
  simp only [UnpackedFloat.unpack, unpackMantissa_packComponents, unpackExponent_packComponents,
    unpackSign_packComponents, if_neg (by decide : 0#11 ≠ -1#11), if_true, dif_neg hne]
  rfl

theorem unpack_normal (s : Sign) {x : BitVec 11} (y : BitVec 52) (hx : x ≠ -1#11)
    (hzero : x ≠ 0#11) :
    UnpackedFloat.unpack Format.binary64 (packComponents Format.binary64 s x y) =
      .finite s (2 ^ 52 + y.toNat) (x.toNat - 1075) (by positivity) := by
  simp only [UnpackedFloat.unpack, unpackMantissa_packComponents, unpackExponent_packComponents,
    unpackSign_packComponents, if_neg hx, if_neg hzero, toNat_implicit]
  rfl

-- Exponent bits other than all ones stand for a finite number with the given sign, zero only when
-- all bits of both parts are.
theorem unpack_packComponents (s : Sign) (x : BitVec 11) (y : BitVec 52) (hx : x ≠ -1#11) :
    UnpackedFloat.unpack Format.binary64 (packComponents Format.binary64 s x y) = .zero s ∧
        x = 0#11 ∧ y = 0#52 ∨
      ∃ n f hn, UnpackedFloat.unpack Format.binary64 (packComponents Format.binary64 s x y) =
        .finite s n f hn := by
  by_cases hzero : x = 0#11
  · subst hzero
    by_cases hy : y = 0#52
    · subst hy
      exact .inl ⟨by cases s <;> rfl, rfl, rfl⟩
    · have hpos : 0 < y.toNat := by simpa [BitVec.toNat_pos, BitVec.pos_iff_ne_zero] using hy
      exact .inr ⟨_, _, hpos, unpack_subnormal s hpos⟩
  · exact .inr ⟨_, _, _, unpack_normal s y hx hzero⟩

theorem pack_finite (s : Sign) (m : Nat) (e : Int) (hm : 0 < m) :
    UnpackedFloat.pack Format.binary64 (.finite s m e hm) =
      if 2 ^ 11 ≤ (e + (1023 : Nat) + (52 : Nat)).toNat + 1 then
        packedInfinity Format.binary64 s
      else if m.log2 + 1 = 53 then
        packComponents Format.binary64 s (BitVec.ofNat 11 (e + (1023 : Nat) + (52 : Nat)).toNat)
          (BitVec.ofNat 52 m)
      else packComponents Format.binary64 s 0#11 (BitVec.ofNat 52 m) :=
  rfl

theorem unpack_pack (a : UnpackedFloat) : (Float.Model.pack a).unpack =
    UnpackedFloat.unpack Format.binary64 (UnpackedFloat.pack Format.binary64 a) := by
  simp [Float.Model.pack, Float.Model.unpack]

-- A finite number that is packed comes back with its sign, as an infinity where it is too large.
-- It does not become zero, unless it was not rounded to the format to begin with.
theorem unpack_pack_finite (s : Sign) (m : Nat) (e : Int) (hm : 0 < m) :
    (Float.Model.pack (.finite s m e hm)).unpack = .infinity s ∨
      (Float.Model.pack (.finite s m e hm)).unpack = .zero s ∧ ¬(m < 2 ^ 53 ∧ -1074 ≤ e) ∨
      ∃ n f hn, (Float.Model.pack (.finite s m e hm)).unpack = .finite s n f hn := by
  rw [unpack_pack, pack_finite]
  split
  · exact .inl (by cases s <;> rfl)
  rename_i hfits
  refine .inr ?_
  split
  · rename_i hnormal
    have hbits : (BitVec.ofNat 11 (e + (1023 : Nat) + (52 : Nat)).toNat).toNat =
        (e + (1023 : Nat) + (52 : Nat)).toNat := by
      rw [BitVec.toNat_ofNat, Nat.mod_eq_of_lt (by omega)]
    refine (unpack_packComponents s _ _ fun hones => ?_).imp_left ?_
    · have hcast := congrArg BitVec.toNat hones
      rw [hbits] at hcast
      simp at hcast
      omega
    · rintro ⟨hzero, hexponent, -⟩
      have hcast := congrArg BitVec.toNat hexponent
      rw [hbits] at hcast
      simp at hcast
      exact ⟨hzero, by omega⟩
  · rename_i hsubnormal
    refine (unpack_packComponents s _ _ (by decide)).imp_left ?_
    rintro ⟨hzero, -, hmantissa⟩
    refine ⟨hzero, fun hbounds => ?_⟩
    have hlog : m.log2 < 53 := (Nat.log2_lt (by omega)).mpr hbounds.1
    have hsmall : m < 2 ^ 52 := (Nat.log2_lt (by omega)).mp (by omega)
    have hcast := congrArg BitVec.toNat hmantissa
    rw [BitVec.toNat_ofNat, Nat.mod_eq_of_lt hsmall] at hcast
    simp at hcast
    omega

-- A number that is written as the format asks comes back as it was, unless it is too large.
theorem unpack_pack_canonical (s : Sign) {m : Nat} {e : Int} (hm : 0 < m)
    (h : m < 2 ^ 53 ∧ -1074 ≤ e ∧ (e = -1074 ∨ 2 ^ 52 ≤ m)) :
    (Float.Model.pack (.finite s m e hm)).unpack = .finite s m e hm ∨
      972 ≤ e ∧ (Float.Model.pack (.finite s m e hm)).unpack = .infinity s := by
  obtain ⟨hbits, hleast, hfull⟩ := h
  rw [unpack_pack, pack_finite]
  split
  · exact .inr ⟨by omega, by cases s <;> rfl⟩
  rename_i hfits
  left
  split
  · rename_i hnormal
    have hlow : 2 ^ 52 ≤ m := by
      have hlog := Nat.log2_self_le hm.ne'
      rwa [Nat.succ.inj hnormal] at hlog
    have hexponent : (BitVec.ofNat 11 (e + (1023 : Nat) + (52 : Nat)).toNat).toNat =
        (e + (1023 : Nat) + (52 : Nat)).toNat := by
      rw [BitVec.toNat_ofNat, Nat.mod_eq_of_lt (by omega)]
    have hmantissa : (BitVec.ofNat 52 m).toNat = m - 2 ^ 52 := by
      rw [BitVec.toNat_ofNat, Nat.mod_eq_sub_mod hlow, Nat.mod_eq_of_lt (by omega)]
    have hother {x : BitVec 11} (hx : x.toNat = 0 ∨ x.toNat = 2047) :
        BitVec.ofNat 11 (e + (1023 : Nat) + (52 : Nat)).toNat ≠ x := by
      rintro rfl
      omega
    rw [unpack_normal s _ (hother (by decide)) (hother (by decide)), UnpackedFloat.finite.injEq]
    exact ⟨rfl, by omega, by omega⟩
  · rename_i hsubnormal
    have hlog : m.log2 < 53 := (Nat.log2_lt hm.ne').mpr hbits
    have hsmall : m < 2 ^ 52 := (Nat.log2_lt hm.ne').mp (by omega)
    have hmantissa : (BitVec.ofNat 52 m).toNat = m := by
      rw [BitVec.toNat_ofNat, Nat.mod_eq_of_lt hsmall]
    rw [unpack_subnormal s (by omega), UnpackedFloat.finite.injEq]
    exact ⟨rfl, by omega, by omega⟩

-- The mantissa of a double has at most 53 bits, and fewer only at the least exponent.
theorem finite_range {x : Float.Model} {s : Sign} {m : Nat} {e : Int} {hm : 0 < m}
    (h : x.unpack = .finite s m e hm) :
    (m < 2 ^ 53 ∧ -1074 ≤ e ∧ (e = -1074 ∨ 2 ^ 52 ≤ m)) ∧ e < 972 := by
  let bits : BitVec (Format.numBits Format.binary64) := x.toBits.toBitVec
  change UnpackedFloat.unpack Format.binary64 bits = _ at h
  simp only [UnpackedFloat.unpack] at h
  have hmantissa : (unpackMantissa bits).toNat < 2 ^ 52 := (unpackMantissa bits).isLt
  split at h
  · split at h <;> cases h
  rename_i hones
  split at h
  · rename_i hzero
    split at h
    · cases h
    · simp only [UnpackedFloat.finite.injEq] at h
      obtain ⟨-, rfl, rfl⟩ := h
      rw [hzero]
      exact ⟨⟨by omega, by decide, .inl (by decide)⟩, by decide⟩
  · rename_i hnormal
    simp only [UnpackedFloat.finite.injEq] at h
    obtain ⟨-, rfl, rfl⟩ := h
    have hpos : 0 < (unpackExponent bits).toNat := by
      simpa [BitVec.toNat_pos, BitVec.pos_iff_ne_zero] using hnormal
    have hbelow : (unpackExponent bits).toNat < 2047 := by
      have hlast : (unpackExponent bits).toNat ≠ (-1#11).toNat := fun hsame =>
        hones (BitVec.eq_of_toNat_eq hsame)
      have hbits : (unpackExponent bits).toNat < 2 ^ 11 := (unpackExponent bits).isLt
      simp at hlast
      omega
    have himplicit := toNat_implicit (unpackMantissa bits)
    refine ⟨⟨by omega, ?_, .inr (by omega)⟩, ?_⟩
    · change -1074 ≤ ((unpackExponent bits).toNat : Int) - ((1023 : Nat) + (52 : Nat))
      omega
    · change ((unpackExponent bits).toNat : Int) - ((1023 : Nat) + (52 : Nat)) < 972
      omega

theorem finite_bounds {x : Float.Model} {s : Sign} {m : Nat} {e : Int} {hm : 0 < m}
    (h : x.unpack = .finite s m e hm) :
    m < 2 ^ 53 ∧ -1074 ≤ e ∧ (e = -1074 ∨ 2 ^ 52 ≤ m) :=
  (finite_range h).1

end PlaneSketch.Binary

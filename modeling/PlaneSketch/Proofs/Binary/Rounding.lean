import Mathlib.Tactic.ByContra
import PlaneSketch.Proofs.Binary.Packing

namespace PlaneSketch.Binary

open Float.Model Float.Model.UnpackedFloat

-- The parts fit a double, unless the number is too large for one.
def Rounded (m : Nat) (e : Int) : Prop := m < 2 ^ 53 ∧ -1074 ≤ e

-- How far a mantissa is shifted right before it is rounded.
def shiftAmount (m : Nat) (e : Int) : Nat :=
  (max (totalExponent m e - 53) (-1074) - e).toNat

theorem mantissa_shiftRight (em : ExtendedMantissa) (k : Nat) :
    (em >>> k).mantissa = em.mantissa / 2 ^ k := by
  induction k with
  | zero => simp [HShiftRight.hShiftRight, Nat.repeat]
  | succ k ih =>
      change (em >>> k).mantissa / 2 = _
      rw [ih, Nat.div_div_eq_div_mul, Nat.pow_succ]

theorem shiftToTargetExponent_eq (m : Nat) (e : Int) (accuracy : Accuracy) :
    (shiftToTargetExponent Format.binary64 m e accuracy).1.mantissa = m / 2 ^ shiftAmount m e ∧
      (shiftToTargetExponent Format.binary64 m e accuracy).2 = e + shiftAmount m e := by
  refine ⟨?_, rfl⟩
  have hmantissa : (ExtendedMantissa.ofMantissaAndAccuracy m accuracy).mantissa = m := by
    rcases accuracy with _ | (_ | _ | _) <;> rfl
  refine (mantissa_shiftRight _ _).trans ?_
  rw [hmantissa]
  rfl

theorem rounded_shift (m : Nat) (e : Int) :
    Rounded (m / 2 ^ shiftAmount m e) (e + shiftAmount m e) := by
  constructor
  · have hlog : m < 2 ^ (m.log2 + 1) := Nat.lt_log2_self
    have hamount : m.log2 + 1 ≤ 53 + shiftAmount m e := by
      simp only [shiftAmount, totalExponent]
      omega
    rw [Nat.div_lt_iff_lt_mul (Nat.two_pow_pos _), ← Nat.pow_add]
    exact Nat.lt_of_lt_of_le hlog (Nat.pow_le_pow_right (by omega) hamount)
  · simp only [shiftAmount, totalExponent]
    omega

-- A number is shifted away altogether only if it is finer than the format.
theorem shift_pos {m : Nat} {e : Int} (h : 2 ^ (-1074 - e).toNat ≤ m) :
    0 < m / 2 ^ shiftAmount m e := by
  have hm : m ≠ 0 := by
    have hpos := Nat.two_pow_pos (-1074 - e).toNat
    omega
  refine Nat.div_pos ?_ (Nat.two_pow_pos _)
  rcases Nat.le_total (shiftAmount m e) m.log2 with hle | hle
  · exact Nat.le_trans (Nat.pow_le_pow_right (by omega) hle) (Nat.log2_self_le hm)
  · refine Nat.le_trans (Nat.pow_le_pow_right (by omega) ?_) h
    simp only [shiftAmount, totalExponent] at hle ⊢
    omega

theorem le_roundedMantissa (em : ExtendedMantissa) : em.mantissa ≤ em.roundedMantissa := by
  obtain ⟨m, _ | _, _ | _⟩ := em <;>
    simp [ExtendedMantissa.roundedMantissa, ExtendedMantissa.accuracy, Accuracy.roundToNearestEven]

theorem roundedMantissa_le (em : ExtendedMantissa) : em.roundedMantissa ≤ em.mantissa + 1 := by
  obtain ⟨m, _ | _, _ | _⟩ := em <;>
    simp [ExtendedMantissa.roundedMantissa, ExtendedMantissa.accuracy, Accuracy.roundToNearestEven]
  omega

-- The last shift only makes room for a carry out of the mantissa.
theorem shiftAmount_carry {m : Nat} {e : Int} (hm : m ≤ 2 ^ 53) (he : -1074 ≤ e) :
    m < 2 ^ 53 ∧ shiftAmount m e = 0 ∨ m = 2 ^ 53 ∧ shiftAmount m e = 1 := by
  rcases Nat.lt_or_eq_of_le hm with hlt | rfl
  · have hlog : m.log2 < 53 := by
      by_cases hzero : m = 0
      · simp [hzero]
      · exact (Nat.log2_lt hzero).mpr hlt
    refine .inl ⟨hlt, ?_⟩
    simp only [shiftAmount, totalExponent]
    omega
  · have hlog : Nat.log2 (2 ^ 53) = 53 := Nat.log2_two_pow
    refine .inr ⟨rfl, ?_⟩
    simp only [shiftAmount, totalExponent, hlog]
    omega

-- The bits that are kept, rounded.
def keptMantissa (m : Nat) (e : Int) (accuracy : Accuracy) : Nat :=
  (shiftToTargetExponent Format.binary64 m e accuracy).1.roundedMantissa

theorem roundWithAccuracy_kept (s : Sign) (m : Nat) (e : Int) (accuracy : Accuracy) {r : Nat}
    (hr : r = keptMantissa m e accuracy) :
    m / 2 ^ shiftAmount m e ≤ r ∧ r ≤ m / 2 ^ shiftAmount m e + 1 ∧
      (r = 0 ∧ roundWithAccuracy Format.binary64 s m e accuracy = .zero s ∨
        (∃ hr, r < 2 ^ 53 ∧
          roundWithAccuracy Format.binary64 s m e accuracy = .finite s r (e + shiftAmount m e) hr) ∨
        r = 2 ^ 53 ∧ roundWithAccuracy Format.binary64 s m e accuracy =
          .finite s (2 ^ 52) (e + shiftAmount m e + 1) (by decide)) := by
  let first := shiftToTargetExponent Format.binary64 m e accuracy
  let last := shiftToTargetExponent Format.binary64 first.1.roundedMantissa first.2 .exact
  have hunfold : roundWithAccuracy Format.binary64 s m e accuracy =
      if h : last.1.mantissa = 0 then .zero s
      else .finite s last.1.mantissa last.2 (Nat.pos_of_ne_zero h) := rfl
  obtain ⟨hfirst, hexponent⟩ : first.1.mantissa = m / 2 ^ shiftAmount m e ∧
      first.2 = e + shiftAmount m e := shiftToTargetExponent_eq m e accuracy
  obtain ⟨hlast, hexponent'⟩ :
      last.1.mantissa = first.1.roundedMantissa / 2 ^ shiftAmount first.1.roundedMantissa first.2 ∧
        last.2 = first.2 + shiftAmount first.1.roundedMantissa first.2 :=
    shiftToTargetExponent_eq _ _ _
  have hkept := rounded_shift m e
  have hbelow := le_roundedMantissa first.1
  have habove := roundedMantissa_le first.1
  rw [hfirst] at hbelow habove
  change r = first.1.roundedMantissa at hr
  subst hr
  refine ⟨hbelow, habove, ?_⟩
  have hcoarse : -1074 ≤ first.2 := hexponent ▸ hkept.2
  have hroom : first.1.roundedMantissa ≤ 2 ^ 53 := by
    have hbits := hkept.1
    omega
  rw [hunfold]
  rcases shiftAmount_carry hroom hcoarse with ⟨hlt, hamount⟩ | ⟨heq, hamount⟩
  · simp only [hamount, Nat.pow_zero, Nat.div_one, Nat.cast_zero, Int.add_zero] at hlast hexponent'
    by_cases hzero : first.1.roundedMantissa = 0
    · exact .inl ⟨hzero, dif_pos (hlast.trans hzero)⟩
    · refine .inr (.inl ⟨Nat.pos_of_ne_zero hzero, hlt, ?_⟩)
      simp only [hlast, hexponent', hexponent, hzero, dite_false]
  · rw [hamount, heq] at hlast
    rw [hamount, hexponent] at hexponent'
    have hhalf : last.1.mantissa = 2 ^ 52 := hlast.trans (by norm_num)
    refine .inr (.inr ⟨heq, ?_⟩)
    simp only [hhalf, hexponent']
    rfl

-- What is left of a number when it is rounded: the bits that are kept, with at most one added to
-- the last of them.
theorem roundWithAccuracy_parts (s : Sign) (m : Nat) (e : Int) (accuracy : Accuracy) :
    ∃ r, m / 2 ^ shiftAmount m e ≤ r ∧ r ≤ m / 2 ^ shiftAmount m e + 1 ∧
      (r = 0 ∧ roundWithAccuracy Format.binary64 s m e accuracy = .zero s ∨
        (∃ hr, r < 2 ^ 53 ∧
          roundWithAccuracy Format.binary64 s m e accuracy = .finite s r (e + shiftAmount m e) hr) ∨
        r = 2 ^ 53 ∧ roundWithAccuracy Format.binary64 s m e accuracy =
          .finite s (2 ^ 52) (e + shiftAmount m e + 1) (by decide)) :=
  ⟨_, roundWithAccuracy_kept s m e accuracy rfl⟩

-- Rounding gives a number that fits, with the sign it is given, and zero only for a number finer
-- than the format.
theorem roundWithAccuracy_eq (s : Sign) (m : Nat) (e : Int) (accuracy : Accuracy) :
    roundWithAccuracy Format.binary64 s m e accuracy = .zero s ∧ m < 2 ^ (-1074 - e).toNat ∨
      ∃ n f hn, roundWithAccuracy Format.binary64 s m e accuracy = .finite s n f hn ∧
        Rounded n f := by
  obtain ⟨r, hbelow, -, hcases⟩ := roundWithAccuracy_parts s m e accuracy
  have hplace := (rounded_shift m e).2
  rcases hcases with ⟨rfl, hzero⟩ | ⟨hr, hlt, hfinite⟩ | ⟨-, hfinite⟩
  · refine .inl ⟨hzero, ?_⟩
    by_contra hlarge
    have hkept := shift_pos (Nat.le_of_not_lt hlarge)
    omega
  · exact .inr ⟨_, _, hr, hfinite, hlt, hplace⟩
  · exact .inr ⟨_, _, _, hfinite, by decide, by omega⟩

theorem round_eq (s : Sign) (m : Nat) (e : Int) :
    UnpackedFloat.round Format.binary64 s m e = .zero s ∧ (m = 0 ∨ e < -1074) ∨
      ∃ n f hn, UnpackedFloat.round Format.binary64 s m e = .finite s n f hn ∧ Rounded n f := by
  have hunfold : UnpackedFloat.round Format.binary64 s m e =
      roundWithAccuracy Format.binary64 s (m <<< (e - max (totalExponent m e - 53) (-1074)).toNat)
        (e - (e - max (totalExponent m e - 53) (-1074)).toNat) .exact := rfl
  rw [hunfold]
  refine (roundWithAccuracy_eq s _ _ .exact).imp_left ?_
  rintro ⟨hzero, hfine⟩
  refine ⟨hzero, ?_⟩
  by_contra hcoarse
  have hexponent : (-1074 - (e - (e - max (totalExponent m e - 53) (-1074)).toNat)).toNat = 0 := by
    omega
  rw [hexponent, Nat.shiftLeft_eq] at hfine
  have hpos : 0 < m * 2 ^ (e - max (totalExponent m e - 53) (-1074)).toNat :=
    Nat.mul_pos (by omega) (Nat.two_pow_pos _)
  omega

theorem normalize_eq (mantissa e : Int) (zeroSign : Sign) :
    (∃ s, UnpackedFloat.normalize Format.binary64 mantissa e zeroSign = .zero s ∧
        (mantissa = 0 ∨ e < -1074)) ∨
      ∃ s n f hn, UnpackedFloat.normalize Format.binary64 mantissa e zeroSign = .finite s n f hn ∧
        Rounded n f := by
  unfold UnpackedFloat.normalize
  split
  · rename_i hneg
    rw [Int.compare_eq_lt] at hneg
    rcases round_eq .negative (-mantissa).toNat e with ⟨hzero, hfine⟩ | ⟨n, f, hn, hround, hbounds⟩
    · exact .inl ⟨_, hzero, hfine.imp_left fun h => by omega⟩
    · exact .inr ⟨_, n, f, hn, hround, hbounds⟩
  · rename_i hzero
    rw [Int.compare_eq_eq] at hzero
    exact .inl ⟨zeroSign, rfl, .inl hzero⟩
  · rename_i hpos
    rw [Int.compare_eq_gt] at hpos
    rcases round_eq .positive mantissa.toNat e with ⟨hzero, hfine⟩ | ⟨n, f, hn, hround, hbounds⟩
    · exact .inl ⟨_, hzero, hfine.imp_left fun h => by omega⟩
    · exact .inr ⟨_, n, f, hn, hround, hbounds⟩

end PlaneSketch.Binary

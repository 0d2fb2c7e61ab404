import Mathlib.Order.Interval.Set.UnorderedInterval
import PlaneSketch.Geometry.Box
import PlaneSketch.Proofs.Geometry.Foot

namespace PlaneSketch

-- A coordinate that moves evenly from a to b, against an interval.
section Moving

variable {a b c d low high bottom top r s t : ℝ}

-- Between two times inside it is inside.
theorem moving_mem (hs : a + (b - a) * s ∈ Set.Icc low high)
    (ht : a + (b - a) * t ∈ Set.Icc low high) (hr : r ∈ Set.uIcc s t) :
    a + (b - a) * r ∈ Set.Icc low high := by
  have hmoved : (b - a) * r ∈ Set.uIcc ((b - a) * s) ((b - a) * t) := by
    rw [← Set.image_const_mul_uIcc]
    exact Set.mem_image_of_mem _ hr
  have hback : Set.uIcc ((b - a) * s) ((b - a) * t) ⊆ Set.Icc (low - a) (high - a) :=
    Set.uIcc_subset_Icc ⟨by linarith [hs.1], by linarith [hs.2]⟩
      ⟨by linarith [ht.1], by linarith [ht.2]⟩
  obtain ⟨hlow, hhigh⟩ := hback hmoved
  exact ⟨by linarith, by linarith⟩

-- From below it comes in at the lower end.
theorem exists_entry_below (ht : 0 ≤ t) (hin : a + (b - a) * t ∈ Set.Icc low high)
    (hbelow : a < low) : ∃ s, 0 ≤ s ∧ s ≤ t ∧ a + (b - a) * s = low := by
  have hmove : 0 < (b - a) * t := by linarith [hin.1]
  have hrise : 0 < b - a := pos_of_mul_pos_left hmove ht
  refine ⟨(low - a) / (b - a), ?_, ?_, ?_⟩
  · exact div_nonneg (by linarith) hrise.le
  · rw [div_le_iff₀ hrise]
    linarith [hin.1]
  · rw [mul_div_cancel₀ _ hrise.ne']
    ring

-- What is inside at some time has been inside since the start, or since it came in at an end.
theorem exists_entry (ht : 0 ≤ t) (hin : a + (b - a) * t ∈ Set.Icc low high) :
    ∃ s, 0 ≤ s ∧ s ≤ t ∧ (∀ r, s ≤ r → r ≤ t → a + (b - a) * r ∈ Set.Icc low high) ∧
      (s = 0 ∨ a + (b - a) * s = low ∨ a + (b - a) * s = high) := by
  have hsince {s : ℝ} (hs : a + (b - a) * s ∈ Set.Icc low high) :
      ∀ r, s ≤ r → r ≤ t → a + (b - a) * r ∈ Set.Icc low high :=
    fun r hsr hrt => moving_mem hs hin (Set.Icc_subset_uIcc ⟨hsr, hrt⟩)
  have hle := hin.1.trans hin.2
  by_cases hbelow : a < low
  · obtain ⟨s, hs, hst, hend⟩ := exists_entry_below ht hin hbelow
    exact ⟨s, hs, hst, hsince ⟨hend.ge, hend.le.trans hle⟩, .inr (.inl hend)⟩
  by_cases habove : high < a
  · -- The same seen from the other side.
    have hback : -a + (-b - -a) * t ∈ Set.Icc (-high) (-low) :=
      ⟨by linarith [hin.2], by linarith [hin.1]⟩
    obtain ⟨s, hs, hst, hend⟩ := exists_entry_below ht hback (by linarith)
    have hend : a + (b - a) * s = high := by linarith
    exact ⟨s, hs, hst, hsince ⟨hle.trans hend.ge, hend.le⟩, .inr (.inr hend)⟩
  · refine ⟨0, le_rfl, ht, hsince ?_, .inl rfl⟩
    rw [mul_zero, add_zero]
    exact ⟨not_lt.mp hbelow, not_lt.mp habove⟩

-- Two coordinates of which the second changes by no more than its interval is long while the first
-- passes its own: at one of the two ends of the passage the second is inside.
theorem mem_or_mem_of_passage (hab : b - a ≠ 0)
    (hflat : |d - c| * (high - low) ≤ |b - a| * (top - bottom))
    (hin : a + (b - a) * t ∈ Set.Icc low high) (hin' : c + (d - c) * t ∈ Set.Icc bottom top)
    (hs : a + (b - a) * s = low) (hr : a + (b - a) * r = high) :
    c + (d - c) * s ∈ Set.Icc bottom top ∨ c + (d - c) * r ∈ Set.Icc bottom top := by
  have hspan : |(c + (d - c) * r) - (c + (d - c) * s)| ≤ top - bottom := by
    have hlong : high - low = |b - a| * |r - s| := by
      rw [← abs_mul, mul_sub, ← abs_of_nonneg (sub_nonneg.mpr (hin.1.trans hin.2))]
      congr 1
      linarith
    rw [hlong, mul_left_comm] at hflat
    have hscaled := le_of_mul_le_mul_left hflat (abs_pos.mpr hab)
    rwa [← abs_mul, mul_sub, ← add_sub_add_left_eq_sub _ _ c] at hscaled
  -- The time inside is between those of the two ends.
  have hbetween : 0 ≤ ((c + (d - c) * t) - (c + (d - c) * s)) *
      ((c + (d - c) * r) - (c + (d - c) * t)) := by
    have hpassage : 0 ≤ ((b - a) * (t - s)) * ((b - a) * (r - t)) :=
      mul_nonneg (by linarith [hin.1]) (by linarith [hin.2])
    have hsquare : 0 < (b - a) ^ 2 := by positivity
    have htimes : 0 ≤ (t - s) * (r - t) := by
      refine nonneg_of_mul_nonneg_right ?_ hsquare
      linarith
    have hmoved := mul_nonneg (sq_nonneg (d - c)) htimes
    linarith
  by_contra! hout
  obtain ⟨hlow, hhigh⟩ := abs_le.mp hspan
  obtain ⟨hbottom, htop⟩ := hin'
  rcases lt_or_ge (c + (d - c) * s) bottom with hs | hs
  · have hr : c + (d - c) * r < bottom := by
      by_contra! hr
      exact hout.2 ⟨hr, by linarith⟩
    nlinarith
  · have hs : top < c + (d - c) * s := by
      by_contra! hle
      exact hout.1 ⟨hs, hle⟩
    have hr : top < c + (d - c) * r := by
      by_contra! hr
      exact hout.2 ⟨by linarith, hr⟩
    nlinarith

-- So at some time between the ends of the way both are inside, and then the way begins or ends, or
-- the first coordinate is at an end of its interval.
theorem exists_passage (hab : b - a ≠ 0)
    (hflat : |d - c| * (high - low) ≤ |b - a| * (top - bottom)) (ht : 0 ≤ t ∧ t ≤ 1)
    (hin : a + (b - a) * t ∈ Set.Icc low high) (hin' : c + (d - c) * t ∈ Set.Icc bottom top) :
    ∃ s, (0 ≤ s ∧ s ≤ 1) ∧ a + (b - a) * s ∈ Set.Icc low high ∧
      c + (d - c) * s ∈ Set.Icc bottom top ∧
      ((s = 0 ∨ s = 1) ∨ a + (b - a) * s = low ∨ a + (b - a) * s = high) := by
  have hreach (v : ℝ) : a + (b - a) * ((v - a) / (b - a)) = v := by
    rw [mul_div_cancel₀ _ hab]
    ring
  have hle := hin.1.trans hin.2
  obtain ⟨s, hend, hs'⟩ : ∃ s, (a + (b - a) * s = low ∨ a + (b - a) * s = high) ∧
      c + (d - c) * s ∈ Set.Icc bottom top := by
    rcases mem_or_mem_of_passage hab hflat hin hin' (hreach low) (hreach high) with h | h
    · exact ⟨_, .inl (hreach low), h⟩
    · exact ⟨_, .inr (hreach high), h⟩
  have hs : a + (b - a) * s ∈ Set.Icc low high := by
    rcases hend with h | h
    · exact ⟨h.ge, h.le.trans hle⟩
    · exact ⟨hle.trans h.ge, h.le⟩
  -- A time beyond an end of the way has that end between it and the time inside.
  rcases lt_or_ge s 0 with hearly | hearly
  · have hzero : (0 : ℝ) ∈ Set.uIcc s t := Set.Icc_subset_uIcc ⟨hearly.le, ht.1⟩
    exact ⟨0, ⟨le_rfl, zero_le_one⟩, moving_mem hs hin hzero, moving_mem hs' hin' hzero,
      .inl (.inl rfl)⟩
  rcases lt_or_ge 1 s with hlate | hlate
  · have hone : (1 : ℝ) ∈ Set.uIcc s t := Set.Icc_subset_uIcc' ⟨ht.2, hlate.le⟩
    exact ⟨1, ⟨zero_le_one, le_rfl⟩, moving_mem hs hin hone, moving_mem hs' hin' hone,
      .inl (.inr rfl)⟩
  · exact ⟨s, ⟨hearly, hlate⟩, hs, hs', .inr hend⟩

theorem moves_of_not_le {run rise : ℝ} (h : ¬|run| ≤ 99999 * |rise|) : run ≠ 0 :=
  abs_pos.mp (lt_of_le_of_lt (by positivity) (not_le.mp h))

end Moving

namespace Box

variable {box : Box ℝ} {l : Line ℝ} {p : Point ℝ} {t : ℝ}

-- A box is as wide as its corners are apart, and as high.
theorem size_eq (box : Box ℝ) :
    box.high.x - box.low.x = |box.b.x - box.a.x| ∧
      box.high.y - box.low.y = |box.b.y - box.a.y| := by
  have hsize (v w : ℝ) : Scalar.greatest v w - Scalar.least v w = |w - v| := by
    unfold Scalar.greatest Scalar.least
    split_ifs
    · linarith
    · rw [abs_of_pos (by linarith)]
    · rw [abs_of_neg (by linarith)]
      ring
    · rw [abs_of_nonneg (by linarith)]
      linarith
  exact ⟨hsize _ _, hsize _ _⟩

theorem contains_zero_iff : box.contains 0 p = true ↔
    p.x ∈ Set.Icc box.low.x box.high.x ∧ p.y ∈ Set.Icc box.low.y box.high.y := by
  rw [contains, decide_eq_true_iff, sub_zero, sub_zero, add_zero, add_zero, ← and_assoc]
  rfl

-- A line is as good as parallel to the sides of a box that it rises against by less than one part
-- in 99 999. Where, over the whole length of these, it rises by no more than the other two are
-- long, it must still meet one of the others.
structure CompactAlong (box : Box ℝ) (l : Line ℝ) : Prop where
  level : |l.b.x - l.a.x| ≤ 99999 * |l.b.y - l.a.y| ∨
    |l.b.y - l.a.y| * |box.b.x - box.a.x| ≤ |l.b.x - l.a.x| * |box.b.y - box.a.y|
  upright : |l.b.y - l.a.y| ≤ 99999 * |l.b.x - l.a.x| ∨
    |l.b.x - l.a.x| * |box.b.y - box.a.y| ≤ |l.b.y - l.a.y| * |box.b.x - box.a.x|

-- A place of the segment on one of the sides that the line is not as good as parallel to.
structure Crossed (box : Box ℝ) (l : Line ℝ) (s : ℝ) : Prop where
  between : 0 ≤ s ∧ s ≤ 1
  inside : box.contains 0 (l.pointAt s) = true
  side :
    |l.b.y - l.a.y| ≤ 99999 * |l.b.x - l.a.x| ∧
        ((l.pointAt s).x = box.low.x ∨ (l.pointAt s).x = box.high.x) ∨
      |l.b.x - l.a.x| ≤ 99999 * |l.b.y - l.a.y| ∧
        ((l.pointAt s).y = box.low.y ∨ (l.pointAt s).y = box.high.y)

section Segment

variable (ha : box.contains 0 l.a = false) (hb : box.contains 0 l.b = false)
  (ht : 0 ≤ t ∧ t ≤ 1) (hin : box.contains 0 (l.pointAt t) = true)

include ha ht hin in
-- A segment from outside that is in the box came in through a side.
theorem exists_crossed_of_steep (hlevel : |l.b.x - l.a.x| ≤ 99999 * |l.b.y - l.a.y|)
    (hupright : |l.b.y - l.a.y| ≤ 99999 * |l.b.x - l.a.x|) : ∃ s, box.Crossed l s := by
  obtain ⟨hx, hy⟩ := contains_zero_iff.mp hin
  obtain ⟨s, hs, hst, hsince, hside⟩ := exists_entry ht.1 hx
  obtain ⟨r, hr, hrt, hsince', hside'⟩ := exists_entry ht.1 hy
  have hbetween : 0 ≤ max s r ∧ max s r ≤ 1 :=
    ⟨hs.trans (le_max_left _ _), (max_le hst hrt).trans ht.2⟩
  have hinside : box.contains 0 (l.pointAt (max s r)) = true :=
    contains_zero_iff.mpr ⟨hsince _ (le_max_left _ _) (max_le hst hrt),
      hsince' _ (le_max_right _ _) (max_le hst hrt)⟩
  have hstart : max s r ≠ 0 := by
    intro hzero
    rw [hzero, Line.pointAt_zero, ha] at hinside
    cases hinside
  refine ⟨max s r, hbetween, hinside, ?_⟩
  rcases max_choice s r with hmax | hmax
  · rw [hmax] at hstart ⊢
    exact .inl ⟨hupright, hside.resolve_left hstart⟩
  · rw [hmax] at hstart ⊢
    exact .inr ⟨hlevel, hside'.resolve_left hstart⟩

include ha hb ht hin

-- A line that is nearly parallel to two sides passes between them at one of the others.
theorem exists_crossed (hcompact : box.CompactAlong l) : ∃ s, box.Crossed l s := by
  obtain ⟨hx, hy⟩ := contains_zero_iff.mp hin
  obtain ⟨hwidth, hheight⟩ := box.size_eq
  have houtside {s : ℝ} (hinside : box.contains 0 (l.pointAt s) = true) : ¬(s = 0 ∨ s = 1) := by
    rintro (rfl | rfl)
    · rw [Line.pointAt_zero, ha] at hinside
      cases hinside
    · rw [Line.pointAt_one, hb] at hinside
      cases hinside
  by_cases hlevel : |l.b.x - l.a.x| ≤ 99999 * |l.b.y - l.a.y|
  · by_cases hupright : |l.b.y - l.a.y| ≤ 99999 * |l.b.x - l.a.x|
    · exact exists_crossed_of_steep ha ht hin hlevel hupright
    · have hflat := hcompact.upright.resolve_left hupright
      have hmoves := moves_of_not_le hupright
      rw [← hwidth, ← hheight] at hflat
      obtain ⟨s, hbetween, hsy, hsx, hend⟩ := exists_passage hmoves hflat ht hy hx
      have hinside : box.contains 0 (l.pointAt s) = true := contains_zero_iff.mpr ⟨hsx, hsy⟩
      exact ⟨s, hbetween, hinside, .inr ⟨hlevel, hend.resolve_left (houtside hinside)⟩⟩
  · have hflat := hcompact.level.resolve_left hlevel
    have hmoves := moves_of_not_le hlevel
    rw [← hwidth, ← hheight] at hflat
    obtain ⟨s, hbetween, hsx, hsy, hend⟩ := exists_passage hmoves hflat ht hx hy
    have hinside : box.contains 0 (l.pointAt s) = true := contains_zero_iff.mpr ⟨hsx, hsy⟩
    have hupright : |l.b.y - l.a.y| ≤ 99999 * |l.b.x - l.a.x| := by
      linarith [not_le.mp hlevel, abs_nonneg (l.b.x - l.a.x), abs_nonneg (l.b.y - l.a.y)]
    exact ⟨s, hbetween, hinside, .inl ⟨hupright, hend.resolve_left (houtside hinside)⟩⟩

end Segment

end Box

end PlaneSketch

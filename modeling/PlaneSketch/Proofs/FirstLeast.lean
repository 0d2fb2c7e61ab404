import PlaneSketch.Proofs.Sketch.Cursor
import PlaneSketch.Proofs.Solve.Nearest

namespace PlaneSketch

open Binary

-- The first entry of a list whose measure is the least: it is below that of every entry before,
-- and not above that of any entry after.
def FirstLeast {β : Type} (measure : β → Float) (entries : List β) (first : β) : Prop :=
  ∃ before after, entries = before ++ first :: after ∧
    (∀ e ∈ before, measure first < measure e) ∧ ∀ e ∈ after, measure first ≤ measure e

theorem closest_eq_none_iff {limit : Float} {gaps : List (Handle × Float)} :
    closest limit gaps = none ↔ ∀ gap ∈ gaps, limit < gap.2 := by
  obtain ⟨best, hbest, hleads⟩ := closest_leads limit gaps
  rw [hbest, Option.map_eq_none_iff]
  cases best with
  | none => exact iff_of_true rfl hleads
  | some best =>
      obtain ⟨before, after, rfl, hlimit, -⟩ := hleads
      exact iff_of_false (by simp) fun hfar => hlimit (hfar best (by simp))

theorem Leads.firstLeast {limit : Float} {gaps : List (Handle × Float)} {best : Handle × Float}
    (h : Leads limit gaps (some best)) (hgaps : ∀ gap ∈ gaps, gap.2.isNaN = false) :
    FirstLeast (·.2) gaps best := by
  obtain ⟨before, after, rfl, -, hnearest, hfirst⟩ := h
  have hbest := hgaps best (by simp)
  refine ⟨before, after, rfl, fun gap hgap => ?_, fun gap hgap => ?_⟩
  · by_contra hnot
    exact hfirst gap hgap ((not_lt_iff_le hbest (hgaps gap (by simp [hgap]))).mp hnot)
  · exact (not_lt_iff_le (hgaps gap (by simp [hgap])) hbest).mp (hnearest gap (by simp [hgap]))

theorem exists_closest {limit : Float} {gaps : List (Handle × Float)}
    (hgaps : ∀ gap ∈ gaps, gap.2.isNaN = false) (hnear : ¬∀ gap ∈ gaps, limit < gap.2) :
    ∃ first, closest limit gaps = some first.1 ∧ FirstLeast (·.2) gaps first := by
  obtain ⟨best, hbest, hleads⟩ := closest_leads limit gaps
  cases best with
  | none => exact absurd hleads hnear
  | some best => exact ⟨best, hbest, hleads.firstLeast hgaps⟩

namespace Solve.Ruler

theorem Lawful.exists_nearest {ruler : Ruler Float} (h : ruler.Lawful) {o : Point Float}
    {candidates : List (Point Float)} (hne : candidates ≠ [])
    (hnumbers : ∀ p ∈ candidates, (ruler.dist p o).isNaN = false) :
    ∃ q, ruler.nearest candidates (some o) = some q ∧ FirstLeast (ruler.dist · o) candidates q := by
  obtain ⟨before, d, after, hlengths, hplace, hbefore, hafter⟩ :=
    h.least (candidates.map (ruler.dist · o)) (by simpa using hne)
      (List.forall_mem_map.mpr hnumbers)
  obtain ⟨front, q, back, rfl, hq, rfl, rfl, rfl⟩ := nearest_of_smallest hlengths hplace
  exact ⟨q, hq, front, back, rfl, List.forall_mem_map.mp hbefore, List.forall_mem_map.mp hafter⟩

end Solve.Ruler

-- The element under the cursor and the position of a point are both the first of the nearest, in
-- lists of any length, as long as all distances are numbers. Under the cursor there is nothing just
-- if everything is farther than the limit.
theorem firstLeast_chosen {ruler : Solve.Ruler Float} (hruler : ruler.Lawful) :
    (∀ (limit : Float) (gaps : List (Handle × Float)), (∀ gap ∈ gaps, gap.2.isNaN = false) →
      (closest limit gaps = none ↔ ∀ gap ∈ gaps, limit < gap.2) ∧
        ((¬∀ gap ∈ gaps, limit < gap.2) →
          ∃ first, closest limit gaps = some first.1 ∧ FirstLeast (·.2) gaps first)) ∧
      ∀ (o : Point Float) (candidates : List (Point Float)), candidates ≠ [] →
        (∀ p ∈ candidates, (ruler.dist p o).isNaN = false) →
        ∃ q, ruler.nearest candidates (some o) = some q ∧
          FirstLeast (ruler.dist · o) candidates q :=
  ⟨fun _ _ hgaps => ⟨closest_eq_none_iff, exists_closest hgaps⟩,
    fun _ _ hne hnumbers => hruler.exists_nearest hne hnumbers⟩

-- Four gaps and four positions, two of each as near as any.
def tiedGaps : List (Handle × Float) := [(4, 2.0), (7, 0.5), (2, 3.0), (9, 0.5)]

def tiedPositions : List (Point Float) := [⟨3.0, 0.0⟩, ⟨0.0, 1.0⟩, ⟨4.0, 4.0⟩, ⟨-1.0, 0.0⟩]

theorem firstLeast_chosen_tied :
    closest 0.25 tiedGaps = none ∧ closest 1.0 tiedGaps = some 7 ∧
      (∃ gap, FirstLeast (·.2) tiedGaps (7, gap)) ∧
      Solve.Ruler.standard.nearest tiedPositions (some ⟨0.0, 0.0⟩) = some ⟨0.0, 1.0⟩ ∧
      FirstLeast (Solve.Ruler.standard.dist · ⟨0.0, 0.0⟩) tiedPositions ⟨0.0, 1.0⟩ := by
  have hgaps : ∀ gap ∈ tiedGaps, gap.2.isNaN = false := by decide +kernel
  have hdistances : ∀ p ∈ tiedPositions,
      (Solve.Ruler.standard.dist p ⟨0.0, 0.0⟩).isNaN = false := by decide +kernel
  have hclosest : closest 1.0 tiedGaps = some 7 := by decide +kernel
  have hnearest : Solve.Ruler.standard.nearest tiedPositions (some ⟨0.0, 0.0⟩) =
      some ⟨0.0, 1.0⟩ := by decide +kernel
  obtain ⟨hpicked, hplaced⟩ := firstLeast_chosen Solve.Ruler.lawful_standard
  have hnone := (hpicked 0.25 tiedGaps hgaps).1.mpr (by decide +kernel)
  obtain ⟨⟨id, gap⟩, hid, hfirst⟩ := (hpicked 1.0 tiedGaps hgaps).2 (by decide +kernel)
  obtain rfl : 7 = id := Option.some.inj (hclosest.symm.trans hid)
  obtain ⟨q, hq, hleast⟩ := hplaced ⟨0.0, 0.0⟩ tiedPositions (by decide) hdistances
  obtain rfl : ⟨0.0, 1.0⟩ = q := Option.some.inj (hnearest.symm.trans hq)
  exact ⟨hnone, hclosest, ⟨gap, hfirst⟩, hnearest, hleast⟩

end PlaneSketch

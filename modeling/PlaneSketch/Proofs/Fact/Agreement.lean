import Mathlib.Data.List.Basic
import PlaneSketch.Proofs.Fact.Handles

namespace PlaneSketch.Store

variable {α : Type}

-- Two stores say the same about a point, the curves it lies on apart.
structure AgreeOn (s t : Store α) (p : Handle) : Prop where
  position : s.position? p = t.position? p
  verticals : s.verticalsFrom p = t.verticalsFrom p
  horizontals : s.horizontalsFrom p = t.horizontalsFrom p
  distances : s.distancesFrom p = t.distancesFrom p

-- Two stores have a point on the same curves.
structure AgreeOnCurves (s t : Store α) (p : Handle) : Prop where
  lines : s.linesOf p = t.linesOf p
  circles : s.circlesOf p = t.circlesOf p

variable {s t : Store α} {keep : Fact α → Bool}

-- A question that only some facts can answer is not changed by setting the others aside.
theorem filterMap_filter_of_isSome {β : Type} (ask : Fact α → Option β) (facts : List (Fact α))
    (h : ∀ fact ∈ facts, (ask fact).isSome → keep fact = true) :
    (facts.filter keep).filterMap ask = facts.filterMap ask := by
  rw [List.filterMap_filter]
  apply List.filterMap_congr
  intro fact hmem
  cases hk : keep fact with
  | true => rfl
  | false =>
      cases ha : ask fact with
      | none => rfl
      | some answer => simp [h fact hmem (by simp [ha])] at hk

theorem filterMap_eq_of_filter_eq {β : Type} (ask : Fact α → Option β)
    (hkept : s.facts.filter keep = t.facts.filter keep)
    (hs : ∀ fact ∈ s.facts, (ask fact).isSome → keep fact = true)
    (ht : ∀ fact ∈ t.facts, (ask fact).isSome → keep fact = true) :
    s.facts.filterMap ask = t.facts.filterMap ask := by
  rw [← filterMap_filter_of_isSome ask s.facts hs, hkept, filterMap_filter_of_isSome ask t.facts ht]

theorem agreeOn_of_filter_eq (keep : Fact α → Bool) {p : Handle}
    (hkept : s.facts.filter keep = t.facts.filter keep)
    (hs : ∀ fact ∈ s.facts, p ∈ fact.handles → fact.isCurve = false → keep fact = true)
    (ht : ∀ fact ∈ t.facts, p ∈ fact.handles → fact.isCurve = false → keep fact = true) :
    AgreeOn s t p := by
  -- every question about a point is answered by facts that mention it
  have hask {β : Type} (ask : Fact α → Option β)
      (hmention : ∀ fact, (ask fact).isSome → p ∈ fact.handles ∧ fact.isCurve = false) :
      s.facts.filterMap ask = t.facts.filterMap ask :=
    filterMap_eq_of_filter_eq ask hkept
      (fun fact hmem hsome => hs fact hmem (hmention fact hsome).1 (hmention fact hsome).2)
      (fun fact hmem hsome => ht fact hmem (hmention fact hsome).1 (hmention fact hsome).2)
  constructor
  · rw [position?, position?, ← List.head?_filterMap, ← List.head?_filterMap]
    refine congrArg List.head? (hask _ fun fact hsome => ?_)
    cases fact <;> simp at hsome
    simp [Fact.handles, Fact.isCurve, hsome]
  all_goals
    refine hask _ fun fact hsome => ?_
    cases fact <;> simp at hsome
    simp [Fact.handles, Fact.isCurve, hsome]

theorem agreeOnCurves_of_filter_eq (keep : Fact α → Bool) {p : Handle}
    (hkept : s.facts.filter keep = t.facts.filter keep)
    (hs : ∀ fact ∈ s.facts, p ∈ fact.handles → fact.isCurve = true → keep fact = true)
    (ht : ∀ fact ∈ t.facts, p ∈ fact.handles → fact.isCurve = true → keep fact = true) :
    AgreeOnCurves s t p := by
  have hask {β : Type} (ask : Fact α → Option β)
      (hmention : ∀ fact, (ask fact).isSome → p ∈ fact.handles ∧ fact.isCurve = true) :
      s.facts.filterMap ask = t.facts.filterMap ask :=
    filterMap_eq_of_filter_eq ask hkept
      (fun fact hmem hsome => hs fact hmem (hmention fact hsome).1 (hmention fact hsome).2)
      (fun fact hmem hsome => ht fact hmem (hmention fact hsome).1 (hmention fact hsome).2)
  constructor
  all_goals
    refine hask _ fun fact hsome => ?_
    cases fact <;> simp at hsome
    simp [Fact.handles, Fact.isCurve, hsome]

theorem AgreeOn.knownDistance? [Scalar α] {p q : Handle} (hp : AgreeOn s t p)
    (hq : AgreeOn s t q) : s.knownDistance? p q = t.knownDistance? p q := by
  simp only [Store.knownDistance?, Store.distance?, hp.position, hq.position, hp.distances,
    hq.distances]

end PlaneSketch.Store

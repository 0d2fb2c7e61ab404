import Mathlib.Data.List.Forall2
import PlaneSketch.Proofs.Geometry.Distance
import PlaneSketch.Proofs.Solve.Seeding

namespace PlaneSketch

-- An element before and after points have moved: a point with a new position stands there, and
-- everything else is as it was.
inductive Sketch.Moves (positions : OrderedMap Handle (Point Float)) : Element → Element → Prop
  | moved {p : Handle} {old new : Point Float} (h : positions.get? p = some new) :
      Moves positions (.point p old) (.point p new)
  | kept {e : Element} (h : ∀ p old, e = .point p old → positions.get? p = none) :
      Moves positions e e

theorem Sketch.moves_moveElement (m : OrderedMap Handle (Point Float)) (e : Element) :
    Moves m e (moveElement m e) := by
  cases e with
  | point p old =>
      cases hnew : m.get? p with
      | none =>
          simp only [moveElement, hnew, Option.getD_none]
          refine .kept fun q position h => ?_
          cases h
          exact hnew
      | some new =>
          simp only [moveElement, hnew, Option.getD_some]
          exact .moved hnew
  | _ => exact .kept fun p old h => by cases h

theorem Sketch.moves_withPositions (s : Sketch) (m : OrderedMap Handle (Point Float)) :
    List.Forall₂ (Moves m) s.elements (s.withPositions m).elements := by
  rw [withPositions, List.forall₂_map_right_iff, List.forall₂_same]
  exact fun e _ => moves_moveElement m e

-- A finite position agrees with itself.
theorem Point.near_self {q : Point Float} (h : q.IsFinite) : q.near Scalar.tolerance q = true := by
  refine decide_eq_true ?_
  rw [Binary.lt_iff, dist_self h]
  rfl

namespace Solve

variable {ruler : Ruler Float} {s : Sketch} {options : Options Float}

theorem Solution.mem_constrained {solution : Solution} {epsilon : Float} {p : Handle} :
    p ∈ solution.constrained s epsilon ↔ ∃ position, .point p position ∈ s.elements ∧
      ∃ found, solution.resolved.get? p = some found ∧ found.near epsilon position = true := by
  rw [Solution.constrained, Handle.mem_sort, List.mem_eraseDups, List.mem_map]
  constructor
  · rintro ⟨⟨q, position⟩, hpoint, rfl⟩
    obtain ⟨hmem, hnear⟩ := List.mem_filter.mp hpoint
    refine ⟨position, Sketch.mem_points.mp hmem, ?_⟩
    cases hfound : solution.resolved.get? q with
    | none => simp [hfound] at hnear
    | some found => exact ⟨found, rfl, by simpa [hfound] using hnear⟩
  · rintro ⟨position, hpoint, found, hfound, hnear⟩
    refine ⟨(p, position), List.mem_filter.mpr ⟨Sketch.mem_points.mpr hpoint, ?_⟩, rfl⟩
    simpa [hfound] using hnear

-- Each point that was found is one of the sketch.
theorem hasPoint_of_resolved (hs : s.WellFormed) {p : Handle} {q : Point Float}
    (h : (finish s (propagated ruler s options)).resolved.get? p = some q) : s.HasPoint p := by
  rw [finish_resolved, get?_resolvedPositions (distinct_propagated ruler s options)] at h
  exact hasPoint_of_mem_propagated hs (Store.mem_of_position? h) List.mem_cons_self

theorem mem_updated_of_resolved (hs : s.WellFormed) {p : Handle} {q : Point Float}
    (h : (finish s (propagated ruler s options)).resolved.get? p = some q) :
    .point p q ∈ (finish s (propagated ruler s options)).updated.elements := by
  obtain ⟨old, hold⟩ := hasPoint_of_resolved hs h
  rw [finish_resolved] at h
  exact Sketch.mem_withPositions.mpr ⟨old, hold, by rw [h, Option.getD_some]⟩

-- Solving speaks of nothing but the points of the sketch, and moves those it found and nothing
-- else. When all of them are at finite positions, they are just the points that stand where the
-- solution puts them.
theorem solve_moves_resolved (hs : s.check = .ok ()) (options : Options Float) :
    ∃ solution, solve ruler s options = .ok solution ∧
      (∀ fact ∈ solution.facts, ∀ p ∈ fact.handles, s.HasPoint p) ∧
      solution.updated.labels = s.labels ∧
      List.Forall₂ (Sketch.Moves solution.resolved) s.elements solution.updated.elements ∧
      (∀ p q, solution.resolved.get? p = some q → .point p q ∈ solution.updated.elements) ∧
      ((∀ q ∈ solution.resolved.values, q.x.isFinite = true ∧ q.y.isFinite = true) →
        ∀ p, p ∈ solution.constrained solution.updated Scalar.tolerance ↔
          p ∈ solution.resolved.keys) := by
  have hs := Sketch.wellFormed_of_check hs
  refine ⟨_, solve_eq_ok hs options, fun fact hfact p => hasPoint_of_mem_propagated hs hfact, rfl,
    Sketch.moves_withPositions s _, fun p q => mem_updated_of_resolved hs, fun hfinite p => ?_⟩
  rw [Solution.mem_constrained, OrderedMap.mem_keys_iff]
  constructor
  · rintro ⟨_, _, found, hfound, _⟩
    exact ⟨found, hfound⟩
  · rintro ⟨q, hq⟩
    obtain ⟨hx, hy⟩ := hfinite q (OrderedMap.mem_values_of_get? hq)
    exact ⟨q, mem_updated_of_resolved hs hq, q, hq, Point.near_self ⟨hx, hy⟩⟩

-- A mast on a fixed foot and a rope from its top to a point that nothing determines.
def mastSketch : Sketch where
  elements :=
    [.point 0 ⟨0.0, 0.0⟩, .point 1 ⟨0.5, 4.0⟩, .point 2 ⟨3.0, 1.0⟩, .line 3 1 2,
      .fixed 10 0 ⟨0.0, 0.0⟩, .axisAligned 11 .vertical 0 1,
      .distance 12 0 1 5.0 ⟨0.5, 1.0⟩ false]
  labels := ⟨[(3, "rope")]⟩

theorem solve_moves_resolved_mast :
    ∃ solution, solve .standard mastSketch .standard = .ok solution ∧
      solution.updated.labels = ⟨[(3, "rope")]⟩ ∧
      .point 1 ⟨0.0, 5.0⟩ ∈ solution.updated.elements ∧
      ∀ p, p ∈ solution.constrained solution.updated Scalar.tolerance ↔ p = 0 ∨ p = 1 := by
  have hcheck : mastSketch.check = .ok () := Sketch.check_eq_ok_of_isOk (by decide +kernel)
  have hfound : (solve .standard mastSketch .standard).toOption.map Solution.resolved =
      some ⟨[(0, ⟨0.0, 0.0⟩), (1, ⟨0.0, 5.0⟩)]⟩ := by decide +kernel
  obtain ⟨solution, hsolve, -, hlabels, -, hstands, hconstrained⟩ :=
    solve_moves_resolved hcheck .standard
  rw [hsolve] at hfound
  have hresolved : solution.resolved = ⟨[(0, ⟨0.0, 0.0⟩), (1, ⟨0.0, 5.0⟩)]⟩ :=
    Option.some.inj hfound
  rw [hresolved] at hstands hconstrained
  refine ⟨solution, hsolve, hlabels, hstands 1 ⟨0.0, 5.0⟩ rfl, fun p => ?_⟩
  rw [hconstrained (by decide +kernel)]
  simp [OrderedMap.keys]

end Solve

end PlaneSketch

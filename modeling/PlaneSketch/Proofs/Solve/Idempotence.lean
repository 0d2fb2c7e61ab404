import PlaneSketch.Proofs.Solve.Nearest
import PlaneSketch.Proofs.Solve.Replay
import PlaneSketch.Proofs.Solve.Seeding

namespace PlaneSketch.Solve

variable {ruler : Ruler Float} {s : Sketch} {m : OrderedMap Handle (Point Float)}
  {options : Options Float}

-- In the solved sketch each point that was found stands where it was found, so each choice between
-- candidates is made again.
theorem confirms_withPositions (hruler : ruler.Lawful) (hs : s.WellFormed) (hfinite : ∀ q ∈
      (resolvedPositions (propagated ruler s options).store).values,
        q.x.isFinite = true ∧ q.y.isFinite = true) :
    Context.Confirms ⟨ruler, initialPositions s, options⟩
      ⟨ruler,
        initialPositions (s.withPositions (resolvedPositions (propagated ruler s options).store)),
        options⟩
      (propagated ruler s options).store := by
  have hmoved {p : Handle} {q : Point Float}
      (hq : (propagated ruler s options).store.position? p = some q) :
      (resolvedPositions (propagated ruler s options).store).get? p = some q := by
    rw [get?_resolvedPositions (distinct_propagated ruler s options), hq]
  have hagain {p : Handle} {q : Point Float} {candidates : List (Point Float)}
      (hc : Candidates candidates) (hq : (propagated ruler s options).store.position? p = some q)
      (hnearest : ruler.nearest candidates ((initialPositions s).get? p) = some q) :
      ruler.nearest candidates ((initialPositions (s.withPositions
        (resolvedPositions (propagated ruler s options).store))).get? p) = some q := by
    obtain ⟨o, ho⟩ := hasPoint_of_mem_propagated hs (Store.mem_of_position? hq) List.mem_cons_self
    have hbefore := (get?_initialPositions hs.distinct).mpr ho
    have hafter := (get?_initialPositions (hs.withPositions hfinite).distinct).mpr
      (Sketch.mem_withPositions.mpr ⟨o, ho, by rw [hmoved hq, Option.getD_some]⟩)
    rw [hbefore] at hnearest
    rw [hafter]
    obtain ⟨hx, hy⟩ := hfinite q (OrderedMap.mem_values_of_get? (hmoved hq))
    exact hruler.nearest_self hc (hs.isFinite_position ho) ⟨hx, hy⟩ hnearest
  exact {
    options := rfl
    line := fun p q line circle hq => hagain (candidates_meetCircle_line line circle) hq
    circle := fun p q circle other hq => hagain (candidates_meetCircle circle other) hq }

theorem propagated_withPositions (hruler : ruler.Lawful) (hs : s.WellFormed) (hfinite : ∀ q ∈
      (resolvedPositions (propagated ruler s options).store).values,
        q.x.isFinite = true ∧ q.y.isFinite = true) :
    propagated ruler (s.withPositions (resolvedPositions (propagated ruler s options).store))
      options = propagated ruler s options := by
  rw [propagated, seeded_withPositions]
  exact propagate_eq_of_confirms (confirms_withPositions hruler hs hfinite)

-- Solving a solved sketch finds the same facts in the same order in as many passes, and moves no
-- point: the whole solution is the same.
theorem solve_idempotent (hruler : ruler.Lawful) (hs : s.check = .ok ()) (options : Options Float) :
    ∃ solution, solve ruler s options = .ok solution ∧
      ((∀ q ∈ solution.resolved.values, q.x.isFinite = true ∧ q.y.isFinite = true) →
        solve ruler solution.updated options = .ok solution) := by
  have hs := Sketch.wellFormed_of_check hs
  refine ⟨_, solve_eq_ok hs options, fun hfinite => ?_⟩
  rw [finish_resolved] at hfinite
  rw [finish_updated, solve_eq_ok (hs.withPositions hfinite),
    propagated_withPositions hruler hs hfinite]
  simp only [finish, Sketch.withPositions_withPositions]

-- A door of width 5 that hinges on a fixed point and ends on the vertical through another one. It
-- is drawn closer to the lower of the two positions this leaves.
def doorSketch : Sketch where
  elements :=
    [.point 0 ⟨0.0, 0.0⟩, .point 1 ⟨3.0, 0.5⟩, .point 2 ⟨3.25, -3.0⟩, .fixed 10 0 ⟨0.0, 0.0⟩,
      .fixed 11 1 ⟨3.0, 0.0⟩, .axisAligned 12 .vertical 1 2,
      .distance 13 0 2 5.0 ⟨0.5, 1.0⟩ false]
  labels := .empty

theorem solve_idempotent_door :
    ∃ solution, solve .standard doorSketch .standard = .ok solution ∧
      solution.resolved.get? 2 = some ⟨3.0, -4.0⟩ ∧
      solve .standard solution.updated .standard = .ok solution := by
  have hcheck : doorSketch.check = .ok () := Sketch.check_eq_ok_of_isOk (by decide +kernel)
  have hfound : (solve .standard doorSketch .standard).toOption.map Solution.resolved =
      some ⟨[(0, ⟨0.0, 0.0⟩), (1, ⟨3.0, 0.0⟩), (2, ⟨3.0, -4.0⟩)]⟩ := by decide +kernel
  obtain ⟨solution, hsolve, hagain⟩ := solve_idempotent Ruler.lawful_standard hcheck .standard
  rw [hsolve] at hfound
  have hresolved : solution.resolved = ⟨[(0, ⟨0.0, 0.0⟩), (1, ⟨3.0, 0.0⟩), (2, ⟨3.0, -4.0⟩)]⟩ :=
    Option.some.inj hfound
  rw [hresolved] at hagain
  refine ⟨solution, hsolve, ?_, hagain (by decide +kernel)⟩
  rw [hresolved]
  rfl

end PlaneSketch.Solve

import PlaneSketch.Proofs.Solve.Independence

namespace PlaneSketch.Solve

section Propagation

variable {α : Type} [Scalar α]

def Context.capped (ctx : Context α) (cap : Int) : Context α :=
  { ctx with options := { ctx.options with maxPasses := cap } }

variable {ctx : Context α} {left more : Nat}

theorem Rule.conclusions_capped (rule : Rule) (ctx : Context α) (cap : Int) (s : Store α)
    (fact : Fact α) : rule.conclusions (ctx.capped cap) s fact = rule.conclusions ctx s fact := by
  cases rule <;> cases fact <;> rfl

-- The cap decides when to stop and nothing else.
theorem pass_capped (ctx : Context α) (cap : Int) : pass (ctx.capped cap) = pass ctx := by
  have hrun (rule : Rule) : rule.run (ctx.capped cap) = rule.run ctx := by
    funext s
    simp only [Rule.run, Rule.conclusions_capped]
  funext s
  simp only [pass, hrun]

theorem propagateFrom_capped (ctx : Context α) (cap : Int) (left done : Nat) (s : Store α) :
    propagateFrom (ctx.capped cap) left done s = propagateFrom ctx left done s := by
  induction left generalizing done s with
  | zero => rfl
  | succ left ih => simp only [propagateFrom, pass_capped, ih]

theorem passes_propagateFrom_le (ctx : Context α) (left done : Nat) (s : Store α) :
    (propagateFrom ctx left done s).passes ≤ done + left := by
  induction left generalizing done s with
  | zero => exact Nat.le_refl _
  | succ left ih =>
      by_cases h : pass ctx s = s
      · rw [propagateFrom_of_stable left done h]
        simp only
        omega
      · rw [propagateFrom_of_learning left done h]
        have hle := ih (done + 1) (pass ctx s)
        omega

-- With more passes to go, propagation runs through the store it would have stopped at.
theorem grows_propagateFrom_of_le (h : left ≤ more) (done : Nat) (s : Store α) :
    (propagateFrom ctx left done s).store.Grows (propagateFrom ctx more done s).store := by
  induction left generalizing more done s with
  | zero => exact grows_propagateFrom ctx more done s
  | succ left ih =>
      obtain ⟨more, rfl⟩ : ∃ k, more = k + 1 := ⟨more - 1, by omega⟩
      rw [store_propagateFrom_succ, store_propagateFrom_succ]
      exact ih (by omega) (done + 1) (pass ctx s)

theorem propagateFrom_eq_of_converged (h : left ≤ more) (done : Nat) (s : Store α)
    (hconverged : (propagateFrom ctx left done s).converged = true) :
    propagateFrom ctx more done s = propagateFrom ctx left done s := by
  induction left generalizing more done s with
  | zero => exact absurd (pos_of_converged hconverged) (Nat.lt_irrefl 0)
  | succ left ih =>
      obtain ⟨more, rfl⟩ : ∃ k, more = k + 1 := ⟨more - 1, by omega⟩
      by_cases hs : pass ctx s = s
      · rw [propagateFrom_of_stable _ done hs, propagateFrom_of_stable _ done hs]
      · rw [propagateFrom_of_learning left done hs] at hconverged
        rw [propagateFrom_of_learning _ done hs, propagateFrom_of_learning left done hs]
        exact ih (by omega) (done + 1) (pass ctx s) hconverged

end Propagation

variable {ruler : Ruler Float} {s : Sketch} {options : Options Float} {m n : Int}

theorem propagated_capped (s : Sketch) (options : Options Float) (cap : Int) :
    propagated ruler s { options with maxPasses := cap } =
      propagateFrom ⟨ruler, initialPositions s, options⟩ cap.toNat 0 (seeded s options.epsilon) :=
  propagateFrom_capped ⟨ruler, initialPositions s, options⟩ cap cap.toNat 0
    (seeded s options.epsilon)

theorem passes_propagated_capped (s : Sketch) (options : Options Float) (hm : 1 ≤ m) :
    1 ≤ (propagated ruler s { options with maxPasses := m }).passes ∧
      ((propagated ruler s { options with maxPasses := m }).passes : Int) ≤ m := by
  rw [propagated_capped]
  have hlower := le_passes_propagateFrom ⟨ruler, initialPositions s, options⟩ m.toNat 0
    (seeded s options.epsilon)
  have hupper := passes_propagateFrom_le ⟨ruler, initialPositions s, options⟩ m.toNat 0
    (seeded s options.epsilon)
  omega

-- A lower cap only cuts a run short: it starts the same way, and where it came to rest by itself
-- there is no difference at all.
theorem solve_capped (hs : s.check = .ok ()) (options : Options Float) (hm : 1 ≤ m)
    (hmn : m ≤ n) :
    ∃ seeds short long, seed s (.empty options.epsilon) = .ok seeds ∧
      solve ruler s { options with maxPasses := m } = .ok short ∧
      solve ruler s { options with maxPasses := n } = .ok long ∧
      seeds.facts <+: short.facts ∧ short.facts <+: long.facts ∧
      (∀ p q, short.resolved.get? p = some q → long.resolved.get? p = some q) ∧
      (1 ≤ short.passes ∧ short.passes ≤ m) ∧ (1 ≤ long.passes ∧ long.passes ≤ n) ∧
      (short.converged = true → short = long) := by
  have hs := Sketch.wellFormed_of_check hs
  have hle : m.toNat ≤ n.toNat := by omega
  have hgrows : (propagated ruler s { options with maxPasses := m }).store.Grows
      (propagated ruler s { options with maxPasses := n }).store := by
    rw [propagated_capped, propagated_capped]
    exact grows_propagateFrom_of_le hle 0 (seeded s options.epsilon)
  refine ⟨_, _, _, seed_eq_ok hs options.epsilon, solve_eq_ok hs _, solve_eq_ok hs _,
    (steps_propagated ruler s { options with maxPasses := m }).grows.facts, hgrows.facts, ?_,
    passes_propagated_capped s options hm, passes_propagated_capped s options (by omega), ?_⟩
  · intro p q hq
    rw [finish_resolved, get?_resolvedPositions (distinct_propagated ruler s _)] at hq ⊢
    exact hgrows.position? hq
  · intro hconverged
    rw [finish_converged, propagated_capped] at hconverged
    rw [propagated_capped, propagated_capped, propagateFrom_eq_of_converged hle 0 _ hconverged]

-- Two fixed points, a third at known distances from both, and a fourth beside the third and above
-- the first. One pass finds the third, and the fourth has to wait for another.
def cornerSketch : Sketch where
  elements :=
    [.point 0 ⟨0.0, 0.0⟩, .point 1 ⟨30.0, 0.0⟩, .point 2 ⟨10.0, 10.0⟩, .point 3 ⟨0.0, 5.0⟩,
      .fixed 10 0 ⟨0.0, 0.0⟩, .fixed 11 1 ⟨30.0, 0.0⟩, .distance 12 0 2 25.0 ⟨0.5, 1.0⟩ false,
      .distance 13 1 2 25.0 ⟨0.5, 1.0⟩ false, .axisAligned 14 .horizontal 2 3,
      .axisAligned 15 .vertical 0 3]
  labels := .empty

theorem solve_capped_corner :
    ∃ short long, solve .standard cornerSketch ⟨1, Scalar.tolerance, 100.0⟩ = .ok short ∧
      solve .standard cornerSketch ⟨50, Scalar.tolerance, 100.0⟩ = .ok long ∧
      short.facts <+: long.facts ∧ short.passes = 1 ∧
      short.resolved.get? 2 = some ⟨15.0, 20.0⟩ ∧ long.resolved.get? 2 = some ⟨15.0, 20.0⟩ ∧
      short.resolved.get? 3 = none ∧ long.resolved.get? 3 = some ⟨0.0, 20.0⟩ := by
  have hcheck : cornerSketch.check = .ok () := Sketch.check_eq_ok_of_isOk (by decide +kernel)
  have hshort : (solve .standard cornerSketch ⟨1, Scalar.tolerance, 100.0⟩).toOption.map
      (fun solution => (solution.resolved.get? 2, solution.resolved.get? 3)) =
      some (some ⟨15.0, 20.0⟩, none) := by decide +kernel
  have hlong : (solve .standard cornerSketch ⟨50, Scalar.tolerance, 100.0⟩).toOption.map
      (fun solution => solution.resolved.get? 3) = some (some ⟨0.0, 20.0⟩) := by decide +kernel
  obtain ⟨seeds, short, long, -, hone, hfifty, -, hfacts, hresolved, ⟨hlower, hupper⟩, -⟩ :=
    solve_capped hcheck .standard (show (1 : Int) ≤ 1 by decide) (show (1 : Int) ≤ 50 by decide)
  change solve .standard cornerSketch ⟨1, Scalar.tolerance, 100.0⟩ = .ok short at hone
  change solve .standard cornerSketch ⟨50, Scalar.tolerance, 100.0⟩ = .ok long at hfifty
  rw [hone] at hshort
  rw [hfifty] at hlong
  obtain ⟨htwo, hthree⟩ := Prod.mk.inj (Option.some.inj hshort)
  exact ⟨short, long, hone, hfifty, hfacts, by omega, htwo, hresolved _ _ htwo, hthree,
    Option.some.inj hlong⟩

end PlaneSketch.Solve

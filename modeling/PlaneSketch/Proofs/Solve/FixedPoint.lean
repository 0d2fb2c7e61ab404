import Mathlib.Logic.Function.Iterate
import PlaneSketch.Proofs.Solve.Step

namespace PlaneSketch.Solve

variable {α : Type} [Scalar α] {ctx : Context α} {s : Store α}

-- Rules that have nothing left to do can be run in any order and any number of times.
theorem foldl_run_of_stable (h : pass ctx s = s) (rules : List Rule) :
    rules.foldl (fun t rule => rule.run ctx t) s = s :=
  (Store.foldl_eq_self_iff fun t rule => rule.grows_run ctx t).mpr
    fun rule _ => pass_eq_self_iff.mp h rule

-- Propagation that reports a fixed point has run some passes that all learned something, and one
-- more that found the store complete.
theorem propagateFrom_of_converged (left done : Nat) (s : Store α)
    (h : (propagateFrom ctx left done s).converged = true) :
    ∃ k < left, (propagateFrom ctx left done s).passes = done + (k + 1) ∧
      (propagateFrom ctx left done s).store = (pass ctx)^[k] s ∧
      pass ctx ((pass ctx)^[k] s) = (pass ctx)^[k] s ∧
      ∀ j < k, ((pass ctx)^[j] s).size < ((pass ctx)^[j + 1] s).size := by
  induction left generalizing done s with
  | zero => simp [propagateFrom] at h
  | succ left ih =>
      by_cases hs : pass ctx s = s
      · rw [propagateFrom_of_stable left done hs]
        exact ⟨0, by omega, rfl, rfl, hs, fun j hj => by omega⟩
      · rw [propagateFrom_of_learning left done hs] at h ⊢
        obtain ⟨k, hk, hpasses, hstore, hstable, hgrew⟩ := ih (done + 1) (pass ctx s) h
        refine ⟨k + 1, by omega, by omega, hstore, hstable, fun j hj => ?_⟩
        cases j with
        | zero => exact (grows_pass ctx s).size_lt hs
        | succ j => exact hgrew j (by omega)

-- A reported fixed point really is one: no rule has anything to add, another propagation stops
-- after a single pass, and none of the passes before the last was idle.
theorem propagate_saturates (ctx : Context α) (s : Store α)
    (h : (propagate ctx s).converged = true) :
    (∀ rules : List Rule,
      rules.foldl (fun t rule => rule.run ctx t) (propagate ctx s).store =
        (propagate ctx s).store) ∧
    propagate ctx (propagate ctx s).store = ⟨(propagate ctx s).store, 1, true⟩ ∧
    (pass ctx)^[(propagate ctx s).passes] s = (propagate ctx s).store ∧
    ∀ k, k + 1 < (propagate ctx s).passes →
      ((pass ctx)^[k] s).size < ((pass ctx)^[k + 1] s).size := by
  obtain ⟨k, hk, hpasses, hstore, hstable, hgrew⟩ := propagateFrom_of_converged _ 0 s h
  change (propagate ctx s).passes = _ at hpasses
  change (propagate ctx s).store = _ at hstore
  rw [hpasses, hstore]
  refine ⟨foldl_run_of_stable hstable, ?_, ?_, fun j hj => hgrew j (by omega)⟩
  · obtain ⟨left, hleft⟩ : ∃ left, ctx.options.maxPasses.toNat = left + 1 :=
      ⟨ctx.options.maxPasses.toNat - 1, by omega⟩
    rw [propagate, hleft, propagateFrom_of_stable left 0 hstable]
  · rw [Nat.zero_add, Function.iterate_succ_apply', hstable]

-- Two fixed points, a third at known distances from both, and a fourth beside the one and above
-- the other: the third is found in the first pass, the fourth only in the second.
def cornerContext : Context Float :=
  ⟨.standard, .ofList [(0, ⟨0.0, 0.0⟩), (1, ⟨30.0, 0.0⟩), (2, ⟨10.0, 10.0⟩), (3, ⟨0.0, 5.0⟩)],
    .standard⟩

def cornerStore : Store Float :=
  ⟨Scalar.tolerance,
    [.fixed 0 ⟨0.0, 0.0⟩, .fixed 1 ⟨30.0, 0.0⟩, .distance 0 2 25.0, .distance 1 2 25.0,
      .horizontal 2 3, .vertical 0 3]⟩

theorem propagate_saturates_corner :
    (propagate cornerContext cornerStore).converged = true ∧
    (propagate cornerContext cornerStore).passes = 3 ∧
    cornerStore.size < (pass cornerContext cornerStore).size ∧
    propagate cornerContext (propagate cornerContext cornerStore).store =
      ⟨(propagate cornerContext cornerStore).store, 1, true⟩ := by
  have hconverged : (propagate cornerContext cornerStore).converged = true := by decide +kernel
  have hpasses : (propagate cornerContext cornerStore).passes = 3 := by decide +kernel
  obtain ⟨-, hagain, -, hgrew⟩ := propagate_saturates cornerContext cornerStore hconverged
  exact ⟨hconverged, hpasses, hgrew 0 (by omega), hagain⟩

end PlaneSketch.Solve

import Mathlib.Logic.Relation
import PlaneSketch.Proofs.Fact.Growth
import PlaneSketch.Solve.Propagate

namespace PlaneSketch.Solve

open Relation (ReflTransGen)

variable {α : Type} [Scalar α]

-- A rule looks at one fact of the kind it starts from, and its conclusions are added. Everything
-- propagation does to a store is a sequence of such steps.
inductive Step (ctx : Context α) : Store α → Store α → Prop
  | learn (rule : Rule) (s : Store α) (fact : Fact α) (hmem : fact ∈ s.facts)
      (hkind : fact.kind = rule.trigger) :
      Step ctx s (s.addAll (rule.conclusions ctx s fact))

abbrev Steps (ctx : Context α) : Store α → Store α → Prop := ReflTransGen (Step ctx)

variable {ctx : Context α} {s t : Store α}

theorem Step.grows (h : Step ctx s t) : s.Grows t := by
  obtain ⟨rule, s, fact, -, -⟩ := h
  exact s.grows_addAll _

theorem Steps.grows (h : Steps ctx s t) : s.Grows t := by
  induction h with
  | refl => exact .refl s
  | tail _ hstep ih => exact ih.trans hstep.grows

theorem Steps.distinct (h : Steps ctx s t) (hs : s.Distinct) : t.Distinct := by
  induction h with
  | refl => exact hs
  | tail _ hstep ih =>
      obtain ⟨rule, u, fact, -, -⟩ := hstep
      exact ih.addAll _

-- The facts a rule runs over are those there at its start; they are still there when it comes to
-- them, because the store only grows.
theorem steps_foldl_conclusions (rule : Rule) (facts : List (Fact α)) (s : Store α)
    (hmem : ∀ fact ∈ facts, fact ∈ s.facts ∧ fact.kind = rule.trigger) :
    Steps ctx s (facts.foldl (fun s fact => s.addAll (rule.conclusions ctx s fact)) s) := by
  induction facts generalizing s with
  | nil => exact .refl
  | cons fact rest ih =>
      obtain ⟨hfact, hkind⟩ := hmem fact List.mem_cons_self
      have hstep : Step ctx s (s.addAll (rule.conclusions ctx s fact)) :=
        .learn rule s fact hfact hkind
      refine .head hstep (ih _ fun known hknown => ?_)
      obtain ⟨hk, hkind⟩ := hmem known (List.mem_cons_of_mem _ hknown)
      exact ⟨hstep.grows.mem hk, hkind⟩

theorem Rule.steps_run (rule : Rule) (ctx : Context α) (s : Store α) :
    Steps ctx s (rule.run ctx s) :=
  steps_foldl_conclusions rule _ s fun _ h => Store.mem_ofKind.mp h

theorem Rule.grows_run (rule : Rule) (ctx : Context α) (s : Store α) :
    s.Grows (rule.run ctx s) :=
  (rule.steps_run ctx s).grows

theorem steps_foldl_run (rules : List Rule) (s : Store α) :
    Steps ctx s (rules.foldl (fun s rule => rule.run ctx s) s) := by
  induction rules generalizing s with
  | nil => exact .refl
  | cons rule rest ih => exact (rule.steps_run ctx s).trans (ih (rule.run ctx s))

theorem steps_pass (ctx : Context α) (s : Store α) : Steps ctx s (pass ctx s) :=
  steps_foldl_run Rule.all s

theorem grows_pass (ctx : Context α) (s : Store α) : s.Grows (pass ctx s) :=
  (steps_pass ctx s).grows

-- Propagation compares counts; since nothing is lost, that is to compare the stores.
theorem propagateFrom_of_stable (left done : Nat) (h : pass ctx s = s) :
    propagateFrom ctx (left + 1) done s = ⟨s, done + 1, true⟩ := by
  rw [propagateFrom, h]
  exact if_pos rfl

theorem propagateFrom_of_learning (left done : Nat) (h : pass ctx s ≠ s) :
    propagateFrom ctx (left + 1) done s = propagateFrom ctx left (done + 1) (pass ctx s) := by
  rw [propagateFrom]
  exact if_neg fun hn => h ((grows_pass ctx s).eq_of_size hn)

theorem steps_propagateFrom (ctx : Context α) (left done : Nat) (s : Store α) :
    Steps ctx s (propagateFrom ctx left done s).store := by
  induction left generalizing done s with
  | zero => exact .refl
  | succ left ih =>
      by_cases h : pass ctx s = s
      · rw [propagateFrom_of_stable left done h]
      · rw [propagateFrom_of_learning left done h]
        exact (steps_pass ctx s).trans (ih (done + 1) (pass ctx s))

theorem grows_propagateFrom (ctx : Context α) (left done : Nat) (s : Store α) :
    s.Grows (propagateFrom ctx left done s).store :=
  (steps_propagateFrom ctx left done s).grows

-- Propagation over stores that are alike takes the same course if passes keep them alike and find
-- both complete or neither.
theorem related_propagateFrom {ctx' : Context α} {R : Store α → Store α → Prop}
    (hpass : ∀ {s t}, R s t → R (pass ctx s) (pass ctx' t))
    (hstable : ∀ {s t}, R s t → (pass ctx' t = t ↔ pass ctx s = s)) (h : R s t)
    (left done : Nat) :
    R (propagateFrom ctx left done s).store (propagateFrom ctx' left done t).store ∧
      (propagateFrom ctx' left done t).passes = (propagateFrom ctx left done s).passes ∧
      (propagateFrom ctx' left done t).converged = (propagateFrom ctx left done s).converged := by
  induction left generalizing done s t with
  | zero => exact ⟨h, rfl, rfl⟩
  | succ left ih =>
      by_cases hs : pass ctx s = s
      · rw [propagateFrom_of_stable left done hs,
          propagateFrom_of_stable left done ((hstable h).mpr hs)]
        exact ⟨h, rfl, rfl⟩
      · rw [propagateFrom_of_learning left done hs,
          propagateFrom_of_learning left done (mt (hstable h).mp hs)]
        exact ih (hpass h) (done + 1)

-- A rule has nothing left to do exactly when all it concludes is known.
theorem Rule.run_eq_self_iff {rule : Rule} :
    rule.run ctx s = s ↔ ∀ fact ∈ s.facts, fact.kind = rule.trigger →
      ∀ conclusion ∈ rule.conclusions ctx s fact, s.knows conclusion = true := by
  rw [run, Store.foldl_eq_self_iff fun s fact => s.grows_addAll (rule.conclusions ctx s fact)]
  simp only [Store.mem_ofKind, Store.addAll_eq_self_iff, and_imp]

theorem pass_eq_self_iff : pass ctx s = s ↔ ∀ rule : Rule, rule.run ctx s = s := by
  rw [pass, Store.foldl_eq_self_iff fun s rule => rule.grows_run ctx s]
  constructor
  · intro h rule
    exact h rule (by cases rule <;> decide)
  · exact fun h rule _ => h rule

end PlaneSketch.Solve

import PlaneSketch.Proofs.Sketch.Interleaving
import PlaneSketch.Proofs.Solve.Restriction
import PlaneSketch.Proofs.Solve.Seeding

namespace PlaneSketch.Solve

open Store (Separated)

section Propagation

variable {α : Type} [Scalar α] {side : Handle → Bool} {ctx ctx₁ ctx₂ : Context α}

theorem propagateFrom_eq_of_stable {s : Store α} (left done : Nat) (h : pass ctx s = s) :
    propagateFrom ctx left done s = ⟨s, done + min left 1, decide (0 < left)⟩ := by
  cases left with
  | zero => rfl
  | succ left =>
      rw [propagateFrom_of_stable left done h]
      simp

theorem le_passes_propagateFrom (ctx : Context α) (left done : Nat) (s : Store α) :
    done + min left 1 ≤ (propagateFrom ctx left done s).passes := by
  induction left generalizing done s with
  | zero => exact Nat.le_refl _
  | succ left ih =>
      by_cases h : pass ctx s = s
      · have heq := congrArg Propagation.passes (propagateFrom_eq_of_stable (left + 1) done h)
        exact Nat.le_of_eq heq.symm
      · rw [propagateFrom_of_learning left done h]
        have hle := ih (done + 1) (pass ctx s)
        omega

theorem pos_of_converged {left done : Nat} {s : Store α}
    (h : (propagateFrom ctx left done s).converged = true) : 0 < left := by
  cases left with
  | zero => simp [propagateFrom] at h
  | succ left => omega

-- The store does not tell whether propagation went on over a complete store or stopped.
theorem store_propagateFrom_succ (ctx : Context α) (left done : Nat) (s : Store α) :
    (propagateFrom ctx (left + 1) done s).store =
      (propagateFrom ctx left (done + 1) (pass ctx s)).store := by
  by_cases h : pass ctx s = s
  · rw [h, propagateFrom_eq_of_stable _ _ h, propagateFrom_eq_of_stable _ _ h]
  · rw [propagateFrom_of_learning left done h]

-- A complete side may wait for the other: further passes over it change nothing that is reported
-- of both.
theorem propagateFrom_wait (ctx₂ : Context α) {s : Store α} (t : Store α) (left done : Nat)
    (hs : pass ctx₁ s = s) :
    max (propagateFrom ctx₁ left (done + 1) s).passes
        (propagateFrom ctx₂ left (done + 1) t).passes =
      max (done + 1) (propagateFrom ctx₂ left (done + 1) t).passes ∧
    ((propagateFrom ctx₁ left (done + 1) s).converged &&
        (propagateFrom ctx₂ left (done + 1) t).converged) =
      (propagateFrom ctx₂ left (done + 1) t).converged := by
  rw [propagateFrom_eq_of_stable left (done + 1) hs]
  have hle := le_passes_propagateFrom ctx₂ left (done + 1) t
  refine ⟨by simp only; omega, ?_⟩
  cases hc : (propagateFrom ctx₂ left (done + 1) t).converged with
  | false => simp
  | true => simp [pos_of_converged hc]

-- Propagation over a separated store is propagation over both of its sides, each in its own
-- context, until the slower of the two is done.
theorem propagateFrom_restrict (h₁ : ctx.AgreeOn side ctx₁)
    (h₂ : ctx.AgreeOn (fun p => !side p) ctx₂) (left done : Nat) (s : Store α)
    (hs : Separated side s) :
    (propagateFrom ctx left done s).store.restrict side =
      (propagateFrom ctx₁ left done (s.restrict side)).store ∧
    (propagateFrom ctx left done s).store.restrict (fun p => !side p) =
      (propagateFrom ctx₂ left done (s.restrict fun p => !side p)).store ∧
    (propagateFrom ctx left done s).passes =
      max (propagateFrom ctx₁ left done (s.restrict side)).passes
        (propagateFrom ctx₂ left done (s.restrict fun p => !side p)).passes ∧
    (propagateFrom ctx left done s).converged =
      ((propagateFrom ctx₁ left done (s.restrict side)).converged &&
        (propagateFrom ctx₂ left done (s.restrict fun p => !side p)).converged) := by
  induction left generalizing done s with
  | zero => simp [propagateFrom]
  | succ left ih =>
      have hboth := pass_eq_self_iff_restrict h₁ h₂ hs
      obtain ⟨hone, htwo, hpasses, hconverged⟩ :=
        ih (done + 1) (pass ctx s) ((steps_pass ctx s).separated hs)
      rw [restrict_pass h₁ hs] at hone hpasses hconverged
      rw [restrict_pass h₂ hs.flip] at htwo hpasses hconverged
      refine ⟨?_, ?_, ?_⟩
      · rw [store_propagateFrom_succ, store_propagateFrom_succ, hone]
      · rw [store_propagateFrom_succ, store_propagateFrom_succ, htwo]
      generalize s.restrict side = s₁ at *
      generalize (s.restrict fun p => !side p) = s₂ at *
      -- which of the sides this pass finds complete
      by_cases hstable₁ : pass ctx₁ s₁ = s₁ <;> by_cases hstable₂ : pass ctx₂ s₂ = s₂
      · have hstable := hboth.mpr ⟨hstable₁, hstable₂⟩
        rw [propagateFrom_of_stable left done hstable, propagateFrom_of_stable left done hstable₁,
          propagateFrom_of_stable left done hstable₂]
        simp
      · have hlearning : pass ctx s ≠ s := fun h => hstable₂ (hboth.mp h).2
        have hwait := propagateFrom_wait ctx₂ (pass ctx₂ s₂) left done hstable₁
        rw [hstable₁] at hpasses hconverged
        rw [propagateFrom_of_learning left done hlearning,
          propagateFrom_of_stable left done hstable₁, propagateFrom_of_learning left done hstable₂]
        exact ⟨hpasses.trans hwait.1, hconverged.trans (hwait.2.trans (Bool.true_and _).symm)⟩
      · have hlearning : pass ctx s ≠ s := fun h => hstable₁ (hboth.mp h).1
        have hwait := propagateFrom_wait ctx₁ (pass ctx₁ s₁) left done hstable₂
        rw [Nat.max_comm, Bool.and_comm] at hwait
        rw [hstable₂] at hpasses hconverged
        rw [propagateFrom_of_learning left done hlearning,
          propagateFrom_of_learning left done hstable₁, propagateFrom_of_stable left done hstable₂]
        exact ⟨(hpasses.trans hwait.1).trans (Nat.max_comm _ _),
          hconverged.trans (hwait.2.trans (Bool.and_true _).symm)⟩
      · have hlearning : pass ctx s ≠ s := fun h => hstable₁ (hboth.mp h).1
        rw [propagateFrom_of_learning left done hlearning,
          propagateFrom_of_learning left done hstable₁,
          propagateFrom_of_learning left done hstable₂]
        exact ⟨hpasses, hconverged⟩

end Propagation

section Parts

variable {s₁ s₂ s : Sketch} {side : Handle → Bool}

-- What a part states is about its own points.
theorem within_of_mem_stated (hs : s.WellFormed) {e : Element} (he : e ∈ s.elements)
    {fact : Fact Float} (h : fact ∈ stated s e) (hside : ∀ p, s.contains p = true → side p = true) :
    fact.within side = true := by
  refine List.all_eq_true.mpr fun p hp => hside p ?_
  exact ((states_of_mem h).hasPoint hs he hp).contains

theorem stated_left (h : Sketch.Parts s₁ s₂ s) {e : Element} (he : e ∈ s₁.elements) :
    stated s e = stated s₁ e :=
  stated_congr h.left he fun _ hr _ => h.get?_of_references he hr

theorem restrict_seeded (h : Sketch.Parts s₁ s₂ s)
    (hone : ∀ p, s₁.contains p = true → side p = true)
    (htwo : ∀ p, s₂.contains p = true → side p = false) (epsilon : Float) :
    (seeded s epsilon).restrict side = seeded s₁ epsilon := by
  have hstated : (s.elements.flatMap (stated s)).filter (Fact.within side) =
      s₁.elements.flatMap (stated s₁) := by
    rw [List.filter_flatMap]
    refine h.interleaved.flatMap_left (fun e he => ?_) fun e he => ?_
    · rw [stated_left h he]
      exact List.filter_eq_self.mpr fun fact hfact => within_of_mem_stated h.left he hfact hone
    · rw [stated_left h.symm he]
      refine List.filter_eq_nil_iff.mpr fun fact hfact => ?_
      have hother : fact.within (fun p => !side p) = true :=
        within_of_mem_stated h.right he hfact (by simpa using htwo)
      simp [Fact.within_eq_false (states_of_mem hfact).handles_ne_nil hother]
  rw [seeded, Store.restrict_addAll, hstated]
  rfl

theorem separated_seeded (h : Sketch.Parts s₁ s₂ s)
    (hone : ∀ p, s₁.contains p = true → side p = true)
    (htwo : ∀ p, s₂.contains p = true → side p = false) (epsilon : Float) :
    Separated side (seeded s epsilon) := by
  intro fact hfact
  obtain ⟨e, he, hstated⟩ := exists_stated_of_mem_seeded hfact
  refine ⟨(states_of_mem hstated).handles_ne_nil, ?_⟩
  rcases h.interleaved.mem_iff.mp he with he | he
  · rw [stated_left h he] at hstated
    exact .inl (within_of_mem_stated h.left he hstated hone)
  · rw [stated_left h.symm he] at hstated
    exact .inr (within_of_mem_stated h.right he hstated (by simpa using htwo))

theorem agreeOn_initialPositions (ruler : Ruler Float) (h : Sketch.Parts s₁ s₂ s)
    (htwo : ∀ p, s₂.contains p = true → side p = false) (options : Options Float) :
    Context.AgreeOn side ⟨ruler, initialPositions s, options⟩
      ⟨ruler, initialPositions s₁, options⟩ := by
  refine ⟨rfl, rfl, fun p hp => ?_⟩
  ext q
  rw [get?_initialPositions h.wellFormed.distinct, get?_initialPositions h.left.distinct,
    h.interleaved.mem_iff, or_iff_left]
  intro hpoint
  have hside := htwo p (Sketch.contains_iff.mpr ⟨_, hpoint, rfl⟩)
  rw [hp] at hside
  cases hside

-- The store that solving a mixture ends with, seen from either of its parts.
theorem propagated_restrict (ruler : Ruler Float) (h : Sketch.Parts s₁ s₂ s)
    (options : Options Float) :
    Separated s₁.contains (propagated ruler s options).store ∧
    (propagated ruler s options).store.restrict s₁.contains = (propagated ruler s₁ options).store ∧
    ((propagated ruler s options).store.restrict fun p => !s₁.contains p) =
      (propagated ruler s₂ options).store ∧
    (propagated ruler s options).passes =
      max (propagated ruler s₁ options).passes (propagated ruler s₂ options).passes ∧
    (propagated ruler s options).converged =
      ((propagated ruler s₁ options).converged && (propagated ruler s₂ options).converged) := by
  have hone : ∀ p, s₁.contains p = true → s₁.contains p = true := fun _ hp => hp
  have htwo : ∀ p, s₂.contains p = true → s₁.contains p = false := fun _ => h.symm.contains_right
  have hseeded := separated_seeded h hone htwo options.epsilon
  have hrun := propagateFrom_restrict (agreeOn_initialPositions ruler h htwo options)
    (agreeOn_initialPositions ruler h.symm (fun p hp => by simp [hp]) options)
    options.maxPasses.toNat 0 (seeded s options.epsilon) hseeded
  rw [restrict_seeded h hone htwo, restrict_seeded h.symm (by simpa using htwo) (by simp)] at hrun
  exact ⟨(steps_propagated ruler s options).separated hseeded, hrun⟩

-- Solving a mixture of two sketches that share no handle is solving each of them: the facts about
-- either part are the facts that part alone gives, no fact is about both, and the mixture takes as
-- many passes as the slower part.
theorem solve_interleaved (ruler : Ruler Float) (h₁ : s₁.check = .ok ())
    (h₂ : s₂.check = .ok ())
    (hdisjoint : ∀ a ∈ s₁.elements, ∀ b ∈ s₂.elements, a.id ≠ b.id)
    (hmixed : Interleaved s₁.elements s₂.elements s.elements) (options : Options Float) :
    ∃ whole one two, solve ruler s options = .ok whole ∧ solve ruler s₁ options = .ok one ∧
      solve ruler s₂ options = .ok two ∧
      whole.facts.filter (Fact.within s₁.contains) = one.facts ∧
      whole.facts.filter (Fact.within s₂.contains) = two.facts ∧
      (∀ fact ∈ whole.facts, fact.handles ≠ [] ∧
        (fact.within s₁.contains = true ∨ fact.within s₂.contains = true)) ∧
      (∀ p, whole.resolved.get? p = (one.resolved.get? p).or (two.resolved.get? p)) ∧
      whole.passes = max one.passes two.passes ∧
      (whole.converged = true ↔ one.converged = true ∧ two.converged = true) := by
  have h : Sketch.Parts s₁ s₂ s :=
    ⟨Sketch.wellFormed_of_check h₁, Sketch.wellFormed_of_check h₂, hdisjoint, hmixed⟩
  obtain ⟨hseparated, hone, htwo, hpasses, hconverged⟩ := propagated_restrict ruler h options
  -- of the points that occur, those not of the one part are of the other
  have hother : ∀ fact ∈ (propagated ruler s options).store.facts,
      fact.within (fun p => !s₁.contains p) = fact.within s₂.contains := by
    intro fact hfact
    rw [Bool.eq_iff_iff, Fact.within, Fact.within, List.all_eq_true, List.all_eq_true]
    refine forall₂_congr fun p hp => ?_
    rw [h.contains_right_eq (hasPoint_of_mem_propagated h.wellFormed hfact hp).contains]
  refine ⟨_, _, _, solve_eq_ok h.wellFormed options, solve_eq_ok h.left options,
    solve_eq_ok h.right options, congrArg Store.facts hone, ?_, ?_, ?_, hpasses, ?_⟩
  · rw [finish_facts, ← List.filter_congr hother]
    exact congrArg Store.facts htwo
  · intro fact hfact
    rw [← hother fact hfact]
    exact hseparated fact hfact
  · intro p
    simp only [finish_resolved, get?_resolvedPositions (distinct_propagated ruler _ options)]
    rw [hseparated.position?_eq, hone, htwo]
  · simp only [finish_converged, hconverged, Bool.and_eq_true]

-- Two fixed points and a third at known distances from both, mixed with a fourth point that is
-- fixed and nothing else. The one part is found in two passes, the other in one.
def reachSketch : Sketch where
  elements :=
    [.point 0 ⟨0.0, 0.0⟩, .point 1 ⟨30.0, 0.0⟩, .point 2 ⟨10.0, 10.0⟩, .fixed 10 0 ⟨0.0, 0.0⟩,
      .fixed 11 1 ⟨30.0, 0.0⟩, .distance 12 0 2 25.0 ⟨0.5, 1.0⟩ false,
      .distance 13 1 2 25.0 ⟨0.5, 1.0⟩ false]
  labels := .empty

def pinSketch : Sketch where
  elements := [.point 5 ⟨1.0, 2.0⟩, .fixed 6 5 ⟨4.0, 4.0⟩]
  labels := .empty

def reachAndPinSketch : Sketch where
  elements :=
    [.point 0 ⟨0.0, 0.0⟩, .point 1 ⟨30.0, 0.0⟩, .point 5 ⟨1.0, 2.0⟩, .point 2 ⟨10.0, 10.0⟩,
      .fixed 10 0 ⟨0.0, 0.0⟩, .fixed 6 5 ⟨4.0, 4.0⟩, .fixed 11 1 ⟨30.0, 0.0⟩,
      .distance 12 0 2 25.0 ⟨0.5, 1.0⟩ false, .distance 13 1 2 25.0 ⟨0.5, 1.0⟩ false]
  labels := .empty

theorem solve_interleaved_reachAndPin :
    ∃ whole one two, solve .standard reachAndPinSketch .standard = .ok whole ∧
      solve .standard reachSketch .standard = .ok one ∧
      solve .standard pinSketch .standard = .ok two ∧
      whole.facts.filter (Fact.within reachSketch.contains) = one.facts ∧
      whole.facts.filter (Fact.within pinSketch.contains) = two.facts ∧
      whole.passes = max one.passes two.passes := by
  have hreach : reachSketch.check = .ok () := Sketch.check_eq_ok_of_isOk (by decide +kernel)
  have hpin : pinSketch.check = .ok () := Sketch.check_eq_ok_of_isOk (by decide +kernel)
  have hdisjoint : ∀ a ∈ reachSketch.elements, ∀ b ∈ pinSketch.elements, a.id ≠ b.id := by
    decide +kernel
  have hmixed : Interleaved reachSketch.elements pinSketch.elements reachAndPinSketch.elements :=
    .left _ (.left _ (.right _ (.left _ (.left _ (.right _ (.left _ (.left _ (.left _ .nil))))))))
  obtain ⟨whole, one, two, hwhole, hone, htwo, hfacts, hfacts', -, -, hpasses, -⟩ :=
    solve_interleaved .standard hreach hpin hdisjoint hmixed .standard
  exact ⟨whole, one, two, hwhole, hone, htwo, hfacts, hfacts', hpasses⟩

end Parts

end PlaneSketch.Solve

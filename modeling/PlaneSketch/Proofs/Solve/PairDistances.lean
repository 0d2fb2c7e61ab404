import PlaneSketch.Proofs.Geometry.Helper
import PlaneSketch.Proofs.Solve.Distances

namespace PlaneSketch

variable {α : Type}

namespace Store

-- All that is known of the distance between two points is one value, whichever of them comes
-- first.
def OneDistance (s : Store α) : Prop :=
  ∀ p q d e, .distance p q d ∈ s.facts →
    .distance p q e ∈ s.facts ∨ .distance q p e ∈ s.facts → d = e

variable [Scalar α] {s : Store α}

theorem Mutual.oneDistance (h : s.Mutual) (hs : s.Distinct) : s.OneDistance := by
  intro p q d e hd he
  have hforth : .distance p q e ∈ s.facts := he.elim id (h q p e)
  have hsame := hs.eq_of_tells hd hforth (Fact.tells_distance.mpr ⟨d, rfl⟩)
    (Fact.tells_distance.mpr ⟨e, rfl⟩)
  cases hsame
  rfl

-- Where positions do not decide, both directions are looked up, in this order or in that.
theorem OneDistance.knownDistance?_comm (h : s.OneDistance)
    (hdist : ∀ a b : Point α, a.dist b = b.dist a) (p q : Handle) :
    s.knownDistance? p q = s.knownDistance? q p := by
  have hlearned : (s.distance? p q).or (s.distance? q p) =
      (s.distance? q p).or (s.distance? p q) := by
    cases hforth : s.distance? p q with
    | none => simp
    | some d =>
        cases hback : s.distance? q p with
        | none => rfl
        | some e =>
            rw [h p q d e (mem_of_distance? hforth) (.inr (mem_of_distance? hback))]
  by_cases heq : p = q
  · rw [heq]
  · simp only [knownDistance?, if_neg heq, if_neg (Ne.symm heq), hlearned]
    cases s.position? p <;> cases s.position? q <;> simp [hdist]

end Store

namespace Solve

section Order

variable [Scalar α] {ctx : Context α} {s t : Store α}

-- A distance is learned only where none is known, and no other together with it.
theorem Step.oneDistance (h : Step ctx s t) (hs : s.OneDistance) : t.OneDistance := by
  rcases h.distance_cases with hold | ⟨center, q, r, hopen, -, hlearned⟩
  · exact fun a b d e hd he => hs a b d e (hold a b d hd) (he.imp (hold a b e) (hold b a e))
  · have hunknown := not_mem_of_knownDistance? hopen
    intro a b d e hd he
    rcases hlearned a b d hd with hd | ⟨rfl, rfl, rfl⟩
    · rcases he with he | he
      · rcases hlearned a b e he with he | ⟨rfl, rfl, rfl⟩
        · exact hs a b d e hd (.inl he)
        · exact absurd hd (hunknown d).1
      · rcases hlearned b a e he with he | ⟨rfl, rfl, rfl⟩
        · exact hs a b d e hd (.inr he)
        · exact absurd hd (hunknown d).2
    · rcases he with he | he
      · rcases hlearned a b e he with he | ⟨-, -, heq⟩
        · exact absurd he (hunknown e).1
        · exact heq.symm
      · rcases hlearned b a e he with he | ⟨-, -, heq⟩
        · exact absurd he (hunknown e).2
        · exact heq.symm

theorem Steps.oneDistance (h : Steps ctx s t) (hs : s.OneDistance) : t.OneDistance := by
  induction h with
  | refl => exact hs
  | tail _ hstep ih => exact hstep.oneDistance ih

end Order

theorem oneDistance_propagated (s : Sketch) (options : Options Float) :
    (propagated ruler s options).store.OneDistance :=
  (steps_propagated ruler s options).oneDistance
    ((mutual_seeded s options.epsilon).oneDistance ((Store.distinct_empty _).addAll _))

-- However dimensions contradict each other, between two points only one distance is ever learned.
-- A store only grows, so what is known at any point of a run is a beginning of what is known in
-- the end; there the order in which two points are given makes no difference to their distance.
theorem solve_keeps_one_distance {s : Sketch} (hs : s.check = .ok ()) (options : Options Float) :
    ∃ solution, solve ruler s options = .ok solution ∧
      ∀ known : Store Float, known.Grows ⟨options.epsilon, solution.facts⟩ →
        (∀ p q d e, .distance p q d ∈ known.facts →
          .distance p q e ∈ known.facts ∨ .distance q p e ∈ known.facts → d = e) ∧
        ∀ p q, known.knownDistance? p q = known.knownDistance? q p := by
  refine ⟨_, solve_eq_ok (Sketch.wellFormed_of_check hs) options, fun known hknown => ?_⟩
  have hone : known.OneDistance := fun p q d e hd he =>
    oneDistance_propagated s options p q d e (hknown.mem hd) (he.imp hknown.mem hknown.mem)
  exact ⟨hone, hone.knownDistance?_comm Point.dist_swap⟩

-- Two dimensions quarrel about one pair of points, each naming another of them first. The radius
-- that wins is carried over to the other end of an arc.
def fanSketch : Sketch where
  elements :=
    [.point 0 ⟨0.0, 0.0⟩, .point 1 ⟨5.0, 0.0⟩, .point 2 ⟨3.0, 4.0⟩, .arc 10 1 2 0,
      .distance 11 1 0 5.0 ⟨0.5, 1.0⟩ false, .distance 12 0 1 7.0 ⟨0.5, 1.0⟩ false]
  labels := .empty

theorem solve_keeps_one_distance_fan :
    ∃ solution, solve .standard fanSketch .standard = .ok solution ∧
      .distance 0 1 5.0 ∈ solution.facts ∧ .distance 1 0 7.0 ∉ solution.facts ∧
      (⟨Scalar.tolerance, solution.facts⟩ : Store Float).knownDistance? 2 0 = some 5.0 := by
  have hcheck : fanSketch.check = .ok () := Sketch.check_eq_ok_of_isOk (by decide +kernel)
  have hoption : (solve .standard fanSketch .standard).toOption.map (fun solution =>
      (solution.facts.contains (.distance 0 1 5.0),
        (⟨Scalar.tolerance, solution.facts⟩ : Store Float).knownDistance? 0 2)) =
      some (true, some 5.0) := by decide +kernel
  obtain ⟨solution, hsolve, hknown⟩ := solve_keeps_one_distance hcheck .standard
  rw [hsolve] at hoption
  simp only [Except.toOption, Option.map_some, Option.some.injEq, Prod.mk.injEq] at hoption
  obtain ⟨hforth, hradius⟩ := hoption
  have hforth : .distance 0 1 5.0 ∈ solution.facts := List.contains_iff_mem.mp hforth
  obtain ⟨hone, hcomm⟩ := hknown ⟨Scalar.tolerance, solution.facts⟩ (.refl _)
  refine ⟨solution, hsolve, hforth, fun hback => ?_, ?_⟩
  · have hequal : (5.0 : Float) = 7.0 := hone 0 1 5.0 7.0 hforth (.inr hback)
    exact absurd hequal (by decide)
  · rw [hcomm, hradius]

end Solve

end PlaneSketch

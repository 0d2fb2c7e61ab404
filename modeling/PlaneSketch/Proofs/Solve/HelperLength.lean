import PlaneSketch.Proofs.Solve.Idempotence
import PlaneSketch.Proofs.Solve.Lockstep

namespace PlaneSketch.Solve

theorem inStep_seeded (ruler : Ruler Float) (s : Sketch) (options : Options Float) (length : Float)
    (facts : List (Fact Float)) :
    InStep ruler s options length facts (seeded s options.epsilon) (seeded s options.epsilon) := by
  have hepsilon : (seeded s options.epsilon).epsilon = options.epsilon :=
    (Store.grows_addAll _ _).epsilon
  refine ⟨hepsilon, hepsilon, List.forall₂_same.mpr fun fact hfact => .same ?_⟩
  obtain ⟨e, -, hstated⟩ := exists_stated_of_mem_seeded hfact
  cases states_of_mem hstated <;> simp [Fact.kind]

-- The length of helpers decides nothing where, among what is found with one of two lengths, both
-- count at the positions of aligned points, lines repeat each other with the one as with the other
-- and cross at the points found with either: the same points are found at the same positions, in
-- the same number of passes. All facts but the lines drawn along an axis are the same.
theorem solve_relengthed (ruler : Ruler Float) {s : Sketch} (hs : s.check = .ok ())
    (options : Options Float) (length : Float) :
    ∃ solution solution', solve ruler s options = .ok solution ∧
      solve ruler s { options with axisLength := length } = .ok solution' ∧
      (Interchangeable ruler s options length solution.facts →
        solution'.resolved = solution.resolved ∧ solution'.passes = solution.passes ∧
          solution'.converged = solution.converged ∧
          List.Forall₂ (Counterpart ruler s options length solution.facts) solution.facts
            solution'.facts) := by
  have hs := Sketch.wellFormed_of_check hs
  refine ⟨_, _, solve_eq_ok hs options, solve_eq_ok hs _, fun hsame => ?_⟩
  obtain ⟨hstep, hpasses, hconverged⟩ := inStep_propagateFrom hsame options.maxPasses.toNat 0
    (inStep_seeded ruler s options length _) (.refl _)
  refine ⟨?_, hpasses, hconverged, hstep.facts⟩
  rw [finish_resolved, finish_resolved, resolvedPositions_eq, resolvedPositions_eq]
  exact congrArg OrderedMap.ofList hstep.positions_eq

-- The corner of a frame: level with one fixed point and upright above or below another one.
def frameSketch : Sketch where
  elements :=
    [.point 0 ⟨0.0, 0.0⟩, .point 1 ⟨3.0, 4.0⟩, .point 2 ⟨1.0, 1.0⟩, .fixed 10 0 ⟨0.0, 0.0⟩,
      .fixed 11 1 ⟨3.0, 4.0⟩, .axisAligned 12 .horizontal 0 2, .axisAligned 13 .vertical 1 2]
  labels := .empty

def frameFacts : List (Fact Float) :=
  [.fixed 0 ⟨0.0, 0.0⟩, .fixed 1 ⟨3.0, 4.0⟩, .horizontal 0 2, .horizontal 2 0, .vertical 1 2,
    .vertical 2 1, .onLine 2 ⟨0.0, 0.0⟩ ⟨100.0, 0.0⟩, .onLine 2 ⟨3.0, 4.0⟩ ⟨3.0, 104.0⟩,
    .fixed 2 ⟨3.0, 0.0⟩, .onLine 1 ⟨3.0, 0.0⟩ ⟨3.0, 100.0⟩, .onLine 0 ⟨3.0, 0.0⟩ ⟨103.0, 0.0⟩]

-- The axes that points of the frame are aligned along, each with where it is fixed.
def frameGuides : List (Axis × Point Float) :=
  [(.horizontal, ⟨0.0, 0.0⟩), (.horizontal, ⟨3.0, 0.0⟩), (.vertical, ⟨3.0, 4.0⟩),
    (.vertical, ⟨3.0, 0.0⟩)]

theorem aligned_frameFacts {axis : Axis} {p q : Handle} {a : Point Float}
    (hfixed : .fixed p a ∈ frameFacts) (haligned : Fact.aligned axis p q ∈ frameFacts) :
    (axis, a) ∈ frameGuides := by
  cases axis with
  | horizontal =>
      simp only [frameFacts, Fact.aligned, List.mem_cons, reduceCtorEq, Fact.horizontal.injEq,
        List.not_mem_nil, or_false, false_or] at haligned
      rcases haligned with ⟨rfl, rfl⟩ | ⟨rfl, rfl⟩ <;>
        simp_all [frameFacts, frameGuides]
  | vertical =>
      simp only [frameFacts, Fact.aligned, List.mem_cons, reduceCtorEq, Fact.vertical.injEq,
        List.not_mem_nil, or_false, false_or] at haligned
      rcases haligned with ⟨rfl, rfl⟩ | ⟨rfl, rfl⟩ <;>
        simp_all [frameFacts, frameGuides]

theorem guides_frameFacts {q : Handle} {line : Float → Line Float}
    (h : Guides .standard frameSketch .standard frameFacts q line) :
    ∃ guide ∈ frameGuides, line = guide.1.helper guide.2 := by
  rcases h.cases with ⟨axis, p, a, hfixed, haligned, rfl⟩ | ⟨⟨fact, hfact, hspans⟩, -⟩
  · exact ⟨_, aligned_frameFacts hfixed haligned, rfl⟩
  · have hplain : ∀ fact ∈ frameFacts, fact.spans = false := by decide +kernel
    simp [hplain fact hfact] at hspans

theorem interchangeable_frame :
    Interchangeable .standard frameSketch .standard 1.0 frameFacts where
  reaches axis p q a hfixed haligned := by
    have hreaches : ∀ guide ∈ frameGuides,
        Axis.Reaches guide.1 guide.2 (Options.standard : Options Float).axisLength ∧
          Axis.Reaches guide.1 guide.2 1.0 := by
      rw [frameGuides, List.forall_mem_cons, List.forall_mem_cons, List.forall_mem_cons,
        List.forall_mem_singleton]
      refine ⟨⟨?_, ?_⟩, ⟨?_, ?_⟩, ⟨?_, ?_⟩, ⟨?_, ?_⟩⟩ <;>
      exact ⟨⟨by decide +kernel, by decide +kernel⟩, by decide +kernel, by decide +kernel⟩
    exact hreaches _ (aligned_frameFacts hfixed haligned)
  repeats q l k hl hk := by
    have hrepeats : ∀ l ∈ frameGuides, ∀ k ∈ frameGuides,
        (l.1.helper l.2 1.0).repeats (Options.standard : Options Float).epsilon
            (k.1.helper k.2 1.0) =
          (l.1.helper l.2 (Options.standard : Options Float).axisLength).repeats
            (Options.standard : Options Float).epsilon
            (k.1.helper k.2 (Options.standard : Options Float).axisLength) := by
      decide +kernel
    obtain ⟨guide, hguide, rfl⟩ := guides_frameFacts hl
    obtain ⟨guide', hguide', rfl⟩ := guides_frameFacts hk
    exact hrepeats guide hguide guide' hguide'
  crosses q l k a hl hk _ hcross := by
    have hcrosses : ∀ l ∈ frameGuides, ∀ k ∈ frameGuides,
        (l.1.helper l.2 1.0).meetLine (k.1.helper k.2 1.0) =
          (l.1.helper l.2 (Options.standard : Options Float).axisLength).meetLine
            (k.1.helper k.2 (Options.standard : Options Float).axisLength) := by
      decide +kernel
    obtain ⟨guide, hguide, rfl⟩ := guides_frameFacts hl
    obtain ⟨guide', hguide', rfl⟩ := guides_frameFacts hk
    exact (hcrosses guide hguide guide' hguide').trans hcross

theorem solve_relengthed_frame :
    ∃ solution solution', solve .standard frameSketch .standard = .ok solution ∧
      solve .standard frameSketch { Options.standard with axisLength := 1.0 } = .ok solution' ∧
      solution'.resolved = solution.resolved ∧ solution.resolved.get? 2 = some ⟨3.0, 0.0⟩ := by
  have hcheck : frameSketch.check = .ok () := Sketch.check_eq_ok_of_isOk (by decide +kernel)
  have hfacts : (solve .standard frameSketch .standard).toOption.map Solution.facts =
      some frameFacts := by decide +kernel
  have hfound : (solve .standard frameSketch .standard).toOption.map
      (fun solution => solution.resolved.get? 2) = some (some ⟨3.0, 0.0⟩) := by decide +kernel
  obtain ⟨solution, solution', hsolve, hsolve', hsame⟩ :=
    solve_relengthed .standard hcheck .standard 1.0
  rw [hsolve] at hfacts hfound
  have hfacts : solution.facts = frameFacts := Option.some.inj hfacts
  rw [hfacts] at hsame
  exact ⟨solution, solution', hsolve, hsolve', (hsame interchangeable_frame).1,
    Option.some.inj hfound⟩

-- The points that are found with a length, in the order of finding.
def foundWith (length : Float) (s : Sketch) : Option (List Handle) :=
  (solve .standard s { Options.standard with axisLength := length }).toOption.map (·.resolved.keys)

-- A point on the upright through one fixed point and on the line from there to another one that
-- stands just beside the upright.
def leanSketch : Sketch where
  elements :=
    [.point 0 ⟨0.0, 0.0⟩, .point 1 ⟨5e-6, 0.1⟩, .point 2 ⟨0.0, 0.0⟩, .line 3 0 1,
      .fixed 10 0 ⟨0.0, 0.0⟩, .fixed 11 1 ⟨5e-6, 0.1⟩, .axisAligned 12 .vertical 0 2,
      .pointOnLine 13 2 3]
  labels := .empty

-- A point where an upright meets a sloping line, a fixed point a tolerance below it, and a third
-- point on the line through these two.
def notchSketch : Sketch where
  elements :=
    [.point 0 ⟨0.0, 0.0⟩, .point 1 ⟨1.0, 1.0⟩, .point 2 ⟨7.0, 0.0⟩, .point 3 ⟨7.0, 7.0⟩,
      .point 4 ⟨7.0, 6.99999⟩, .point 5 ⟨7.0, 1.0⟩, .line 6 0 1, .line 7 3 4,
      .fixed 10 0 ⟨0.0, 0.0⟩, .fixed 11 1 ⟨1.0, 1.0⟩, .fixed 12 2 ⟨7.0, 0.0⟩,
      .fixed 13 4 ⟨7.0, 6.99999⟩, .axisAligned 14 .vertical 2 3, .pointOnLine 15 3 6,
      .pointOnLine 16 5 7, .axisAligned 17 .horizontal 1 5]
  labels := .empty

-- None of the three conditions can be left out. A length below the tolerance describes no line at
-- all. With one that is long enough the upright may still repeat a line that is not quite upright,
-- and then the two are not intersected. And a crossing that is rounded differently may be close
-- enough to a fixed point to count as the same with one length and not with the other.
theorem length_decides :
    (∀ s ∈ [doorSketch, leanSketch, notchSketch], s.check = .ok ()) ∧
      (∀ length ∈ [100.0, 1e-6, 0.1, 64.0],
        { (Options.standard : Options Float) with axisLength := length }.check =
          .ok { Options.standard with axisLength := length }) ∧
      (foundWith 100.0 doorSketch = some [0, 1, 2] ∧ foundWith 1e-6 doorSketch = some [0, 1]) ∧
      (foundWith 100.0 leanSketch = some [0, 1, 2] ∧ foundWith 0.1 leanSketch = some [0, 1]) ∧
      foundWith 100.0 notchSketch = some [0, 1, 2, 4, 3, 5] ∧
        foundWith 64.0 notchSketch = some [0, 1, 2, 4, 3] := by
  refine ⟨fun s hs => ?_, fun length hlength => ?_, ⟨?_, ?_⟩, ⟨?_, ?_⟩, ?_, ?_⟩
  · simp only [List.mem_cons, List.not_mem_nil, or_false] at hs
    rcases hs with rfl | rfl | rfl <;> exact Sketch.check_eq_ok_of_isOk (by decide +kernel)
  · have hpositive : ∀ length ∈ [100.0, 1e-6, 0.1, 64.0], ¬length ≤ (0.0 : Float) := by
      decide +kernel
    have hpasses : ¬(Options.standard : Options Float).maxPasses < 1 := by decide
    have hepsilon : ¬(Options.standard : Options Float).epsilon ≤ 0.0 := by decide +kernel
    rw [Options.check, if_neg hpasses, if_neg hepsilon, if_neg (hpositive length hlength)]
  all_goals decide +kernel

end PlaneSketch.Solve

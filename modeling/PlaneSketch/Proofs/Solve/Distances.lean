import PlaneSketch.Proofs.Fact.Identity
import PlaneSketch.Proofs.Solve.Convergence
import PlaneSketch.Proofs.Solve.Derivation
import PlaneSketch.Proofs.Solve.FixedPoint

namespace PlaneSketch

variable {α : Type}

namespace Fact

-- The distance from a center to a point was taken over from another point at the same distance,
-- and nothing is known of the way back.
structure CarriedOver (facts : List (Fact α)) (center q : Handle) : Prop where
  equal : ∃ other, .equidistant center q other ∈ facts ∨ .equidistant center other q ∈ facts
  oneWay : ∀ d, .distance q center d ∉ facts

theorem tells_distance {p q : Handle} {fact : Fact α} :
    fact.tells (.distance p q) = true ↔ ∃ d, fact = .distance p q d := by
  cases fact <;> simp [tells, identity?]

-- The point is known to lie on the given circle, up to the bound.
def Encircled [Scalar α] (facts : List (Fact α)) (bound : α) (p : Handle) (center : Point α)
    (radius : α) : Prop :=
  ∃ c r, .onCircle p c r ∈ facts ∧ c.near bound center = true ∧ Scalar.close bound r radius = true

end Fact

namespace Store

-- Every distance is known in both directions.
def Mutual (s : Store α) : Prop :=
  ∀ p q d, .distance p q d ∈ s.facts → .distance q p d ∈ s.facts

-- Every distance is known in both directions, or was carried over from another one to the same
-- center.
def Oriented (s : Store α) : Prop :=
  ∀ p q d, .distance p q d ∈ s.facts →
    .distance q p d ∈ s.facts ∨ Fact.CarriedOver s.facts p q

theorem Mutual.oriented {s : Store α} (h : s.Mutual) : s.Oriented :=
  fun p q d hd => .inl (h p q d hd)

variable [Scalar α] {s : Store α}

theorem knows_distance (s : Store α) (p q : Handle) (d : α) :
    s.knows (.distance p q d) = true ↔ ∃ e, .distance p q e ∈ s.facts := by
  rw [knows_of_tells s (Fact.tells_distance.mpr ⟨d, rfl⟩), List.any_eq_true]
  constructor
  · rintro ⟨known, hknown, htells⟩
    obtain ⟨e, rfl⟩ := Fact.tells_distance.mp htells
    exact ⟨e, hknown⟩
  · rintro ⟨e, he⟩
    exact ⟨_, he, Fact.tells_distance.mpr ⟨e, rfl⟩⟩

theorem Mutual.addAll_of_kind {facts : List (Fact α)} (h : s.Mutual)
    (hfacts : ∀ fact ∈ facts, fact.kind ≠ .distance) : (s.addAll facts).Mutual := by
  intro p q d hd
  rcases mem_addAll hd with hd | hd
  · exact (grows_addAll s facts).mem (h p q d hd)
  · exact absurd rfl (hfacts _ hd)

-- A distance that is stated in both directions at once is learned in both or in neither.
theorem Mutual.addAll_distance (h : s.Mutual) (p q : Handle) (d : α) :
    (s.addAll [.distance p q d, .distance q p d]).Mutual := by
  by_cases hknown : ∃ e, .distance p q e ∈ s.facts
  · obtain ⟨e, he⟩ := hknown
    have hsame : s.addAll [.distance p q d, .distance q p d] = s := by
      refine addAll_eq_self_iff.mpr fun fact hfact => ?_
      simp only [List.mem_cons, List.not_mem_nil, or_false] at hfact
      rcases hfact with rfl | rfl
      · exact (knows_distance s p q d).mpr ⟨e, he⟩
      · exact (knows_distance s q p d).mpr ⟨e, h p q e he⟩
    rwa [hsame]
  · have hunknown : s.knows (.distance p q d) = false :=
      Bool.eq_false_iff.mpr fun hk => hknown ((knows_distance s p q d).mp hk)
    have hforth : .distance p q d ∈ (s.add (.distance p q d)).facts := by
      simp [add_of_not_knows hunknown]
    have hback : .distance q p d ∈ (s.addAll [.distance p q d, .distance q p d]).facts := by
      simp only [addAll_cons, addAll_nil]
      cases hk : (s.add (.distance p q d)).knows (.distance q p d) with
      | false => simp [add_of_not_knows hk]
      | true =>
          obtain ⟨e, he⟩ := (knows_distance _ q p d).mp hk
          rw [add_of_knows hk]
          rcases mem_add he with he | he
          · exact absurd ⟨e, h q p e he⟩ hknown
          · cases he
            exact hforth
    intro a b e he
    rcases mem_addAll he with he | he
    · exact (grows_addAll s _).mem (h a b e he)
    · simp only [List.mem_cons, Fact.distance.injEq, List.not_mem_nil, or_false] at he
      rcases he with ⟨rfl, rfl, rfl⟩ | ⟨rfl, rfl, rfl⟩
      · exact hback
      · exact (grows_add _ _).mem hforth

end Store

namespace Solve

section Order

variable [Scalar α] {ctx : Context α} {s t : Store α}

-- A distance is only concluded from a center to a point at a distance not known yet.
theorem Concludes.distance {p q : Handle} {d : α} (h : Concludes ctx s (.distance p q d)) :
    s.knownDistance? p q = none ∧
      ∃ other, .equidistant p q other ∈ s.facts ∨ .equidistant p other q ∈ s.facts := by
  cases h with
  | secondRadius hequal _ hopen => exact ⟨hopen, _, .inr hequal⟩
  | firstRadius hequal _ hopen => exact ⟨hopen, _, .inl hequal⟩

theorem not_mem_of_knownDistance? {p q : Handle} (h : s.knownDistance? p q = none) (d : α) :
    .distance p q d ∉ s.facts ∧ .distance q p d ∉ s.facts := by
  rw [← Option.not_isSome_iff_eq_none, Store.knownDistance?_isSome] at h
  exact ⟨fun hd => h (.inr (.inr (.inl ⟨d, hd⟩))), fun hd => h (.inr (.inr (.inr ⟨d, hd⟩)))⟩

theorem ne_of_knownDistance? {p q : Handle} (h : s.knownDistance? p q = none) : p ≠ q := by
  rw [← Option.not_isSome_iff_eq_none, Store.knownDistance?_isSome] at h
  exact fun heq => h (.inl heq)

theorem eq_of_mem_equalRadii {fact first second : Fact α}
    (hfirst : first ∈ Rule.equalRadii.conclusions ctx s fact)
    (hsecond : second ∈ Rule.equalRadii.conclusions ctx s fact) : first = second := by
  have hlength := Rule.length_conclusions_equalRadii ctx s fact
  match Rule.equalRadii.conclusions ctx s fact, hlength, hfirst, hsecond with
  | [only], _, hfirst, hsecond =>
      rw [List.mem_singleton.mp hfirst, List.mem_singleton.mp hsecond]

-- All that a step can do to distances: at most one is learned, between a center and a point at a
-- distance not known so far.
theorem Step.distance_cases (h : Step ctx s t) :
    (∀ p q d, .distance p q d ∈ t.facts → .distance p q d ∈ s.facts) ∨
    ∃ center q r, s.knownDistance? center q = none ∧
      (∃ other, .equidistant center q other ∈ s.facts ∨ .equidistant center other q ∈ s.facts) ∧
      ∀ a b d, .distance a b d ∈ t.facts →
        .distance a b d ∈ s.facts ∨ (a = center ∧ b = q ∧ d = r) := by
  obtain ⟨rule, s, fact, hfact, -⟩ := h
  by_cases hnew : ∃ center q r, .distance center q r ∈ rule.conclusions ctx s fact
  · obtain ⟨center, q, r, hr⟩ := hnew
    obtain rfl : rule = .equalRadii := by
      have hkind := Rule.kind_mem_targets hr
      cases rule <;> simp_all [Rule.targets, Fact.kind]
    obtain ⟨hopen, hequal⟩ := (concludes_of_mem hfact hr).distance
    refine .inr ⟨center, q, r, hopen, hequal, fun a b d hd => ?_⟩
    refine (Store.mem_addAll hd).imp_right fun hd => ?_
    cases eq_of_mem_equalRadii hd hr
    exact ⟨rfl, rfl, rfl⟩
  · exact .inl fun p q d hd => (Store.mem_addAll hd).resolve_right fun hd => hnew ⟨p, q, d, hd⟩

-- Of a distance that is carried over the way back is not known, and will not be: between two
-- points at a known distance none is concluded.
theorem Step.oriented (h : Step ctx s t) (hs : s.Oriented) : t.Oriented := by
  have hgrows := h.grows
  rcases h.distance_cases with hold | ⟨center, q, r, hopen, ⟨other, hequal⟩, hlearned⟩
  · intro a b d hd
    rcases hs a b d (hold a b d hd) with hback | ⟨⟨other, hequal⟩, honeWay⟩
    · exact .inl (hgrows.mem hback)
    · exact .inr ⟨⟨other, hequal.imp hgrows.mem hgrows.mem⟩,
        fun e he => honeWay e (hold b a e he)⟩
  · intro a b d hd
    rcases hlearned a b d hd with hd | ⟨rfl, rfl, rfl⟩
    · rcases hs a b d hd with hback | ⟨⟨other, hequal⟩, honeWay⟩
      · exact .inl (hgrows.mem hback)
      · refine .inr ⟨⟨other, hequal.imp hgrows.mem hgrows.mem⟩, fun e he => ?_⟩
        rcases hlearned b a e he with he | ⟨rfl, rfl, rfl⟩
        · exact honeWay e he
        · exact (not_mem_of_knownDistance? hopen d).2 hd
    · refine .inr ⟨⟨other, hequal.imp hgrows.mem hgrows.mem⟩, fun e he => ?_⟩
      rcases hlearned b a e he with he | ⟨heq, -, -⟩
      · exact (not_mem_of_knownDistance? hopen e).2 he
      · exact ne_of_knownDistance? hopen heq.symm

theorem Steps.oriented (h : Steps ctx s t) (hs : s.Oriented) : t.Oriented := by
  induction h with
  | refl => exact hs
  | tail _ hstep ih => exact hstep.oriented ih

-- Where nothing is left to conclude, the points at known distances from a fixed point have their
-- circles.
theorem encircled_of_stable (h : Rule.axisLinesAndCircles.run ctx s = s) {p q : Handle}
    {a : Point α} {d : α} (hfixed : .fixed p a ∈ s.facts) (hd : .distance p q d ∈ s.facts) :
    Fact.Encircled s.facts s.epsilon q a d := by
  have hconclusion : .onCircle q a d ∈
      Rule.axisLinesAndCircles.conclusions ctx s (.fixed p a) :=
    List.mem_append_right _ (List.mem_map.mpr ⟨(q, d), Store.mem_distancesFrom.mpr hd, rfl⟩)
  have hknows := Rule.run_eq_self_iff.mp h _ hfixed rfl _ hconclusion
  obtain ⟨known, hknown, hsame⟩ := List.any_eq_true.mp hknows
  cases known <;> simp [Fact.sameAs] at hsame
  obtain ⟨⟨rfl, hcenter⟩, hradius⟩ := hsame
  exact ⟨_, _, hknown, hcenter, hradius⟩

end Order

variable {ruler : Ruler Float} {s : Sketch} {options : Options Float} {epsilon : Float}

-- Only dimensions between two points state distances, each in both directions.
theorem mutual_addAll_stated {store : Store Float} (h : store.Mutual) (e : Element) :
    (store.addAll (stated s e)).Mutual := by
  by_cases hkind : ∀ fact ∈ stated s e, fact.kind ≠ .distance
  · exact h.addAll_of_kind hkind
  · push Not at hkind
    obtain ⟨fact, hfact, hkind⟩ := hkind
    cases states_of_mem hfact with
    | distance id p q value placement => exact h.addAll_distance p q value
    | distanceBack id p q value placement => exact h.addAll_distance p q value
    | _ => cases hkind

theorem mutual_seeded (s : Sketch) (epsilon : Float) : (seeded s epsilon).Mutual := by
  have hall : ∀ (elements : List Element) (store : Store Float), store.Mutual →
      (store.addAll (elements.flatMap (stated s))).Mutual := by
    intro elements
    induction elements with
    | nil => exact fun store h => h
    | cons e rest ih =>
        intro store h
        rw [List.flatMap_cons, Store.addAll, List.foldl_append]
        exact ih _ (mutual_addAll_stated h e)
  exact hall s.elements (.empty epsilon) fun p q d hd => by cases hd

-- What a dimension says of the distance between two points, or another one before it, is known
-- from the start.
theorem exists_distance_seeded {id p q : Handle} {value : Float} {placement : Placement Float}
    (h : .distance id p q value placement false ∈ s.elements) (epsilon : Float) :
    ∃ d, .distance p q d ∈ (seeded s epsilon).facts ∧
      .distance q p d ∈ (seeded s epsilon).facts := by
  have hstated : .distance p q value ∈ s.elements.flatMap (stated s) :=
    List.mem_flatMap.mpr ⟨_, h, List.mem_cons_self⟩
  have hsome : ((s.elements.flatMap (stated s)).find? (·.tells (.distance p q))).isSome :=
    List.find?_isSome.mpr ⟨_, hstated, Fact.tells_distance.mpr ⟨value, rfl⟩⟩
  obtain ⟨first, hfirst⟩ := Option.isSome_iff_exists.mp hsome
  have hmem : first ∈ (seeded s epsilon).facts := by
    have hkept := Store.filter_tells_addAll epsilon (s.elements.flatMap (stated s)) (.distance p q)
    rw [hfirst] at hkept
    have hfirst : first ∈ (seeded s epsilon).facts.filter (·.tells (.distance p q)) := by
      rw [seeded, hkept]
      exact List.mem_cons_self
    exact List.mem_of_mem_filter hfirst
  obtain ⟨d, rfl⟩ := Fact.tells_distance.mp (List.find?_some hfirst)
  exact ⟨d, hmem, mutual_seeded s epsilon p q d hmem⟩

-- The far end of every known distance from a point that was found has its circle, unless the
-- distance was carried over to the near end from another point of an arc: the center of an arc is
-- not looked for from there. What dimensions say is known from both ends.
theorem solve_encircled (hs : s.check = .ok ()) (options : Options Float) :
    ∃ solution, solve ruler s options = .ok solution ∧
      (∀ id p q value placement, .distance id p q value placement false ∈ s.elements →
        ∃ d, .distance p q d ∈ solution.facts ∧ .distance q p d ∈ solution.facts) ∧
      (solution.converged = true → ∀ p q d, .distance p q d ∈ solution.facts →
        (∀ a, solution.resolved.get? p = some a →
          Fact.Encircled solution.facts options.epsilon q a d) ∧
        ∀ b, solution.resolved.get? q = some b →
          Fact.Encircled solution.facts options.epsilon p b d ∨
            Fact.CarriedOver solution.facts p q) := by
  have hs := Sketch.wellFormed_of_check hs
  have hsteps := steps_propagated ruler s options
  refine ⟨_, solve_eq_ok hs options, fun id p q value placement h => ?_, fun hconverged => ?_⟩
  · obtain ⟨d, hforth, hback⟩ := exists_distance_seeded h options.epsilon
    exact ⟨d, hsteps.grows.mem hforth, hsteps.grows.mem hback⟩
  · have hstable := (propagate_saturates _ _ hconverged).1 [.axisLinesAndCircles]
    have hepsilon : (propagated ruler s options).store.epsilon = options.epsilon :=
      hsteps.grows.epsilon.trans (Store.grows_addAll _ _).epsilon
    have hreached {p q : Handle} {a : Point Float} {d : Float}
        (ha : (finish s (propagated ruler s options)).resolved.get? p = some a)
        (hd : .distance p q d ∈ (propagated ruler s options).store.facts) :
        Fact.Encircled (propagated ruler s options).store.facts options.epsilon q a d := by
      rw [finish_resolved, get?_resolvedPositions (distinct_propagated ruler s options)] at ha
      rw [← hepsilon]
      exact encircled_of_stable hstable (Store.mem_of_position? ha) hd
    intro p q d hd
    refine ⟨fun a ha => hreached ha hd, fun b hb => ?_⟩
    have horiented := hsteps.oriented (mutual_seeded s options.epsilon).oriented
    exact (horiented p q d hd).imp (fun hback => hreached hb hback) id

-- An arc about a center from one foot at a known distance to another foot that is fixed. The
-- center stands above a fixed point.
def spandrelSketch : Sketch where
  elements :=
    [.point 0 ⟨0.0, 0.0⟩, .point 1 ⟨5.0, 0.0⟩, .point 2 ⟨3.0, 4.0⟩, .point 3 ⟨0.0, -10.0⟩,
      .arc 10 1 2 0, .distance 11 0 1 5.0 ⟨0.5, 1.0⟩ false, .fixed 12 2 ⟨3.0, 4.0⟩,
      .fixed 13 3 ⟨0.0, -10.0⟩, .axisAligned 14 .vertical 0 3]
  labels := .empty

theorem solve_encircled_spandrel :
    ∃ solution, solve .standard spandrelSketch .standard = .ok solution ∧
      solution.converged = true ∧
      (∃ d, .distance 0 1 d ∈ solution.facts ∧ .distance 1 0 d ∈ solution.facts) ∧
      .distance 0 2 5.0 ∈ solution.facts ∧
      (Fact.Encircled solution.facts Scalar.tolerance 0 ⟨3.0, 4.0⟩ 5.0 ∨
        Fact.CarriedOver solution.facts 0 2) := by
  have hcheck : spandrelSketch.check = .ok () := Sketch.check_eq_ok_of_isOk (by decide +kernel)
  have hoption : (solve .standard spandrelSketch .standard).toOption.map (fun solution =>
      (solution.converged, solution.resolved.get? 2,
        solution.facts.contains (.distance 0 2 5.0))) =
      some (true, some ⟨3.0, 4.0⟩, true) := by decide +kernel
  obtain ⟨solution, hsolve, hstated, hencircled⟩ := solve_encircled hcheck .standard
  rw [hsolve] at hoption
  simp only [Except.toOption, Option.map_some, Option.some.injEq, Prod.mk.injEq] at hoption
  obtain ⟨hconverged, hfoot, hcarried⟩ := hoption
  have hcarried : .distance 0 2 5.0 ∈ solution.facts := List.contains_iff_mem.mp hcarried
  exact ⟨solution, hsolve, hconverged,
    hstated 11 0 1 5.0 ⟨0.5, 1.0⟩ (by decide +kernel), hcarried,
    (hencircled hconverged 0 2 5.0 hcarried).2 _ hfoot⟩

-- Taken for the distance from the foot as well, it would put the center on a circle that meets the
-- line it stands on.
theorem center_not_encircled :
    spandrelSketch.check = .ok () ∧
    ∃ solution, solve .standard spandrelSketch .standard = .ok solution ∧
      solution.converged = true ∧
      .distance 0 2 5.0 ∈ solution.facts ∧ solution.resolved.get? 2 = some ⟨3.0, 4.0⟩ ∧
      (∀ c r, .onCircle 0 c r ∉ solution.facts) ∧ solution.resolved.get? 0 = none := by
  have hcheck : spandrelSketch.check = .ok () := Sketch.check_eq_ok_of_isOk (by decide +kernel)
  have hoption : (solve .standard spandrelSketch .standard).toOption.map (fun solution =>
      (solution.converged, solution.resolved.get? 2, solution.facts.contains (.distance 0 2 5.0),
        solution.facts.any (fun fact => fact.kind == .onCircle), solution.resolved.get? 0)) =
      some (true, some ⟨3.0, 4.0⟩, true, false, none) := by decide +kernel
  refine ⟨hcheck, _, solve_eq_ok (Sketch.wellFormed_of_check hcheck) .standard, ?_⟩
  rw [solve_eq_ok (Sketch.wellFormed_of_check hcheck)] at hoption
  simp only [Except.toOption, Option.map_some, Option.some.injEq, Prod.mk.injEq] at hoption
  obtain ⟨hconverged, hfoot, hcarried, hcircles, hcenter⟩ := hoption
  refine ⟨hconverged, List.contains_iff_mem.mp hcarried, hfoot, fun c r hcircle => ?_, hcenter⟩
  exact List.any_eq_false.mp hcircles _ hcircle rfl

end Solve

end PlaneSketch

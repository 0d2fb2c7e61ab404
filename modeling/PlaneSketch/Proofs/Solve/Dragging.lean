import PlaneSketch.Proofs.Solve.Pins
import PlaneSketch.Proofs.Solve.Replay

namespace PlaneSketch

namespace Sketch

-- Where handles do not repeat, moving one point changes one element.
theorem withPositions_single {s : Sketch} (hs : (s.elements.map Element.id).Nodup)
    {before after : List Element} {p : Handle} {old : Point Float}
    (hpoint : s.elements = before ++ .point p old :: after) (new : Point Float) :
    s.withPositions ⟨[(p, new)]⟩ = { s with elements := before ++ .point p new :: after } := by
  rw [hpoint, List.map_append, List.map_cons, List.nodup_middle, List.nodup_cons,
    ← List.map_append] at hs
  have hstay (es : List Element) (hes : ∀ e ∈ es, e ∈ before ++ after) :
      es.map (moveElement ⟨[(p, new)]⟩) = es := by
    refine (List.map_congr_left fun e he => ?_).trans (List.map_id es)
    cases e with
    | point id position =>
        have hid : p ≠ id := fun heq =>
          hs.1 (List.mem_map.mpr ⟨.point id position, hes _ he, heq.symm⟩)
        simp [moveElement, OrderedMap.get?, hid]
    | _ => rfl
  have hmoved : moveElement ⟨[(p, new)]⟩ (.point p old) = .point p new := by
    simp [moveElement, OrderedMap.get?]
  rw [withPositions, hpoint, List.map_append, List.map_cons, hmoved,
    hstay before fun e he => List.mem_append_left _ he,
    hstay after fun e he => List.mem_append_right _ he]

end Sketch

namespace Solve

section Contexts

variable {α : Type} [Scalar α] {ctx ctx' : Context α} {s first final : Store α} {rule : Rule}

-- Intersecting the curves of a point gives positions of that point and nothing else.
theorem Rule.eq_fixed_of_mem_conclusions (hrule : rule.intersects = true)
    {fact conclusion : Fact α} (h : conclusion ∈ rule.conclusions ctx s fact) :
    ∃ p q, fact.handles = [p] ∧ conclusion = .fixed p q := by
  unfold conclusions at h
  split at h
  · cases hrule
  · obtain ⟨circle, -, h⟩ := List.mem_filterMap.mp h
    obtain ⟨q, -, rfl⟩ := Option.map_eq_some_iff.mp h
    exact ⟨_, q, rfl, rfl⟩
  · obtain ⟨other, -, h⟩ := List.mem_filterMap.mp h
    split at h
    · cases h
    · obtain ⟨q, -, rfl⟩ := Option.map_eq_some_iff.mp h
      exact ⟨_, q, rfl, rfl⟩
  · obtain ⟨other, -, h⟩ := List.mem_filterMap.mp h
    obtain ⟨q, -, rfl⟩ := Option.map_eq_some_iff.mp h
    exact ⟨_, q, rfl, rfl⟩
  · cases hrule
  · cases hrule
  · cases hrule
  · cases hrule
  · cases h

-- A point that has its position already keeps it, wherever its curves meet.
theorem addAll_conclusions_of_fixed (hrule : rule.intersects = true) (ctx : Context α)
    {fact : Fact α} {p : Handle} (hp : p ∈ fact.handles) (hfixed : (s.position? p).isSome) :
    s.addAll (rule.conclusions ctx s fact) = s := by
  refine Store.addAll_eq_self_iff.mpr fun conclusion hconclusion => ?_
  obtain ⟨r, q, hhandles, rfl⟩ := Rule.eq_fixed_of_mem_conclusions hrule hconclusion
  obtain rfl : p = r := by simpa [hhandles] using hp
  rw [Store.knows_fixed, hfixed]

-- Where the points stood before matters only for those that have no position from the start.
theorem Context.replays_of_fixed (hruler : ctx'.ruler = ctx.ruler)
    (hoptions : ctx'.options = ctx.options)
    (hinitial : ∀ p, first.position? p = none → ctx'.initial.get? p = ctx.initial.get? p) :
    ctx.Replays ctx' first final where
  options := hoptions
  step := by
    intro rule s fact hfirst _
    cases hrule : rule.intersects with
    | false =>
        rw [Rule.conclusions_congr_of_derives hrule hoptions fun p _ => ⟨rfl, rfl, rfl, rfl⟩]
    | true =>
        by_cases hopen : ∀ p ∈ fact.handles, first.position? p = none
        · rw [Rule.conclusions_congr_of_intersects hrule hruler hoptions
            (fun p hp => hinitial p (hopen p hp)) fun p _ => ⟨rfl, rfl⟩]
        · push Not at hopen
          obtain ⟨p, hp, hsome⟩ := hopen
          obtain ⟨q, hq⟩ := Option.ne_none_iff_exists'.mp hsome
          have hfixed : (s.position? p).isSome := by simp [hfirst.position? hq]
          rw [addAll_conclusions_of_fixed hrule ctx hp hfixed,
            addAll_conclusions_of_fixed hrule ctx' hp hfixed]

-- For a point that is never found there was never anything to choose from.
theorem Context.confirms_of_unresolved (hruler : ctx'.ruler = ctx.ruler)
    (hoptions : ctx'.options = ctx.options) {p : Handle} (hp : final.position? p = none)
    (hinitial : ∀ r, r ≠ p → ctx'.initial.get? r = ctx.initial.get? r) :
    ctx.Confirms ctx' final := by
  have hother {r : Handle} {q : Point α} (hr : final.position? r = some q) : r ≠ p := by
    rintro rfl
    rw [hp] at hr
    cases hr
  exact {
    options := hoptions
    line := fun r q line circle hr hnearest => by rwa [hruler, hinitial r (hother hr)]
    circle := fun r q circle other hr hnearest => by rwa [hruler, hinitial r (hother hr)] }

end Contexts

variable {ruler : Ruler Float} {s : Sketch} {m : OrderedMap Handle (Point Float)}
  {options : Options Float}

theorem get?_initialPositions_withPositions (hs : s.WellFormed) {r : Handle}
    (hr : m.get? r = none) :
    (initialPositions (s.withPositions m)).get? r = (initialPositions s).get? r := by
  have hdistinct : ((s.withPositions m).elements.map Element.id).Nodup := by
    simpa [Sketch.withPositions, Function.comp_def] using hs.distinct
  ext q
  rw [get?_initialPositions hdistinct, get?_initialPositions hs.distinct,
    Sketch.mem_withPositions, hr]
  simp

theorem propagated_dragged (hs : s.WellFormed) {p : Handle} (new : Point Float)
    (hp : (propagated ruler s options).store.position? p = none ∨
      ∃ id pin, .fixed id p pin ∈ s.elements) :
    propagated ruler (s.withPositions ⟨[(p, new)]⟩) options = propagated ruler s options := by
  have hinitial (r : Handle) (hr : r ≠ p) :
      (initialPositions (s.withPositions ⟨[(p, new)]⟩)).get? r = (initialPositions s).get? r :=
    get?_initialPositions_withPositions hs (by simp [OrderedMap.get?, hr.symm])
  rw [propagated, seeded_withPositions]
  rcases hp with hunresolved | ⟨id, pin, hpin⟩
  · exact propagate_eq_of_confirms (Context.confirms_of_unresolved rfl rfl hunresolved hinitial)
  · refine propagate_eq_of_replays (Context.replays_of_fixed rfl rfl fun r hr => hinitial r ?_)
    rintro rfl
    rw [position?_seeded, List.findSome?_eq_none_iff] at hr
    have hnone := hr _ hpin
    simp [Element.pin?] at hnone

-- Dragging a point that is not found, or that is pinned, changes nothing but where it is drawn.
theorem solve_dragged (hs : s.check = .ok ()) (options : Options Float)
    {before after : List Element} {p : Handle} {old : Point Float}
    (hpoint : s.elements = before ++ .point p old :: after) (new : Point Float) :
    ∃ still dragged, solve ruler s options = .ok still ∧
      solve ruler { s with elements := before ++ .point p new :: after } options = .ok dragged ∧
      (still.resolved.get? p = none ∨ (∃ id pin, .fixed id p pin ∈ s.elements) →
        dragged.facts = still.facts ∧ dragged.passes = still.passes ∧
        dragged.converged = still.converged ∧ dragged.resolved = still.resolved) := by
  have hs := Sketch.wellFormed_of_check hs
  rw [← Sketch.withPositions_single hs.distinct hpoint new]
  refine ⟨_, _, solve_eq_ok hs options, solve_withPositions hs _ options, fun hp => ?_⟩
  rw [finish_resolved, get?_resolvedPositions (distinct_propagated ruler s options)] at hp
  rw [propagated_dragged hs new hp]
  exact ⟨rfl, rfl, rfl, rfl⟩

-- A tip pinned over the middle of a fixed base, at the right distances from both of its ends, and
-- a fourth point somewhere below the tip. The distances allow for the tip under the base as well.
def tentSketch (tip below : Point Float) : Sketch where
  elements :=
    [.point 0 ⟨0.0, 0.0⟩, .point 1 ⟨6.0, 0.0⟩, .point 2 tip, .point 3 below,
      .fixed 10 0 ⟨0.0, 0.0⟩, .fixed 11 1 ⟨6.0, 0.0⟩, .fixed 12 2 ⟨3.0, 4.0⟩,
      .distance 13 0 2 5.0 ⟨0.5, 1.0⟩ false, .distance 14 1 2 5.0 ⟨0.5, 1.0⟩ false,
      .axisAligned 15 .vertical 2 3]
  labels := .empty

theorem solve_dragged_tent :
    ∃ still tip below, solve .standard (tentSketch ⟨3.0, 3.0⟩ ⟨3.0, 1.0⟩) .standard = .ok still ∧
      solve .standard (tentSketch ⟨3.0, -3.0⟩ ⟨3.0, 1.0⟩) .standard = .ok tip ∧
      solve .standard (tentSketch ⟨3.0, 3.0⟩ ⟨70.0, -9.0⟩) .standard = .ok below ∧
      still.resolved.get? 2 = some ⟨3.0, 4.0⟩ ∧ still.resolved.get? 3 = none ∧
      tip.facts = still.facts ∧ tip.resolved = still.resolved ∧
      below.facts = still.facts ∧ below.resolved = still.resolved := by
  have hcheck : (tentSketch ⟨3.0, 3.0⟩ ⟨3.0, 1.0⟩).check = .ok () :=
    Sketch.check_eq_ok_of_isOk (by decide +kernel)
  have hfound : (solve .standard (tentSketch ⟨3.0, 3.0⟩ ⟨3.0, 1.0⟩) .standard).toOption.map
      (fun solution => (solution.resolved.get? 2, solution.resolved.get? 3)) =
      some (some ⟨3.0, 4.0⟩, none) := by decide +kernel
  have htip : (tentSketch ⟨3.0, 3.0⟩ ⟨3.0, 1.0⟩).elements =
      (tentSketch ⟨3.0, 3.0⟩ ⟨3.0, 1.0⟩).elements.take 2 ++ .point 2 ⟨3.0, 3.0⟩ ::
        (tentSketch ⟨3.0, 3.0⟩ ⟨3.0, 1.0⟩).elements.drop 3 := rfl
  have hbelow : (tentSketch ⟨3.0, 3.0⟩ ⟨3.0, 1.0⟩).elements =
      (tentSketch ⟨3.0, 3.0⟩ ⟨3.0, 1.0⟩).elements.take 3 ++ .point 3 ⟨3.0, 1.0⟩ ::
        (tentSketch ⟨3.0, 3.0⟩ ⟨3.0, 1.0⟩).elements.drop 4 := rfl
  obtain ⟨still, tip, hstill, htip, htipSame⟩ :=
    solve_dragged hcheck .standard htip ⟨3.0, -3.0⟩
  obtain ⟨_, below, hagain, hbelow, hbelowSame⟩ :=
    solve_dragged hcheck .standard hbelow ⟨70.0, -9.0⟩
  obtain rfl := Except.ok.inj (hagain.symm.trans hstill)
  rw [hstill] at hfound
  obtain ⟨hfixed, hopen⟩ := Prod.mk.inj (Option.some.inj hfound)
  obtain ⟨htipFacts, -, -, htipResolved⟩ :=
    htipSame (.inr ⟨12, ⟨3.0, 4.0⟩, by simp [tentSketch]⟩)
  obtain ⟨hbelowFacts, -, -, hbelowResolved⟩ := hbelowSame (.inl hopen)
  exact ⟨_, tip, below, hstill, htip, hbelow, hfixed, hopen, htipFacts, htipResolved, hbelowFacts,
    hbelowResolved⟩

end Solve

end PlaneSketch

import PlaneSketch.Proofs.Document.Written
import PlaneSketch.Proofs.Sketch.Picking
import PlaneSketch.Proofs.Sketch.Worded
import PlaneSketch.Proofs.Solve.Domain
import PlaneSketch.Proofs.Solve.Restriction
import PlaneSketch.Proofs.Solve.Seeding

namespace PlaneSketch

namespace Solve

variable {s : Sketch}

theorem Solution.hasPoint_of_mem_constrained {solution : Solution} {epsilon : Float} {p : Handle}
    (h : p ∈ solution.constrained s epsilon) : s.HasPoint p := by
  rw [Solution.constrained, Handle.mem_sort, List.mem_eraseDups] at h
  obtain ⟨⟨q, position⟩, hpoint, rfl⟩ := List.mem_map.mp h
  exact Sketch.hasPoint_iff.mpr ⟨position, (List.mem_filter.mp hpoint).1⟩

-- Nothing is stated or concluded that is about no point at all.
theorem handles_ne_nil_of_mem_propagated (ruler : Ruler Float) (s : Sketch)
    (options : Options Float) :
    ∀ fact ∈ (propagated ruler s options).store.facts, fact.handles ≠ [] := by
  refine (steps_propagated ruler s options).forall_facts (fun fact hfact => ?_)
    fun _ _ h => h.handles_ne_nil
  obtain ⟨e, -, hstated⟩ := exists_stated_of_mem_seeded hfact
  exact (states_of_mem hstated).handles_ne_nil

-- Everything that can be asked of a sketch has an answer, and what is found in it belongs to it.
-- Only where handles are written out must they not be too long for it, and nothing else fails.
structure Answering (s : Sketch) : Prop where
  seeding : ∀ store, Gives (seed s store) fun _ => True
  -- The facts of the solution can be put in words with the labels of any sketch.
  solving : ∀ ruler options, Gives (solve ruler s options) fun solution =>
    ∀ fact ∈ solution.facts, ∀ t : Sketch,
      Hinges (t.describeFact fact) (∀ p ∈ fact.handles, p.Short) (.digits .tooMany)
  constrained : ∀ (solution : Solution) epsilon, ∀ p ∈ solution.constrained s epsilon, s.HasPoint p
  described : Hinges s.describeAll
    (∀ e ∈ s.elements, e.kind.isConstraint = false → e.id.Short) (.digits .tooMany)
  dumped : Hinges (Document.dump s) (∀ e ∈ s.elements, e.id.Short) .tooMany
  labelPosition : ∀ e ∈ s.elements, e.kind.isDimension = true →
    Gives (s.labelPosition e.id) fun _ => True
  pointNear : ∀ near limit, ∀ p ∈ s.pointNear near limit, s.HasPoint p
  elementNear : ∀ near viewSize,
    Gives (s.elementNear near viewSize) fun found => ∀ id ∈ found, s.contains id = true
  fullyInBox : ∀ box, Gives (s.fullyInBox box) fun found => ∀ id ∈ found, s.contains id = true
  partlyInBox : ∀ box, Gives (s.partlyInBox box) fun found => ∀ id ∈ found, s.contains id = true

-- Moving the points keeps everything that the answers depend on.
theorem answering_withPositions (hs : s.WellFormed) (m : OrderedMap Handle (Point Float)) :
    Answering (s.withPositions m) := by
  have hlinked := hs.toLinked.withPositions m
  exact {
    seeding := fun store => by
      rw [seed_withPositions, seed_eq_addAll hs]
      exact ⟨_, rfl, trivial⟩
    solving := fun ruler options => by
      refine ⟨_, solve_withPositions hs m options, fun fact hfact t => ?_⟩
      exact t.hinges_describeFact (handles_ne_nil_of_mem_propagated ruler _ options fact hfact)
    constrained := fun _ _ _ => Solution.hasPoint_of_mem_constrained
    described := hlinked.hinges_describeAll
    dumped := Document.hinges_dump hlinked
    labelPosition := fun _ he => hlinked.labelPosition he
    pointNear := fun _ _ _ => Sketch.hasPoint_of_pointNear
    elementNear := hlinked.elementNear
    fullyInBox := hlinked.fullyInBox
    partlyInBox := hlinked.partlyInBox }

-- A distance so long that the point at its end is no longer finite, with dimensions to measure it.
def runawaySketch : Sketch where
  elements :=
    [.point 0 ⟨0.0, 0.0⟩, .point 1 ⟨5.0, 0.0⟩, .point 2 ⟨3.0, 4.0⟩, .line 3 0 1, .arc 4 1 2 0,
      .fixed 10 0 ⟨0.0, 0.0⟩, .axisAligned 11 .horizontal 0 1,
      .distance 12 0 1 1.5e300 ⟨0.5, 1.0⟩ false, .lineDistance 13 2 3 4.0 ⟨0.5, 0.0⟩ true]
  labels := .empty

-- A fixed point whose handle is too long to be written out.
def milestoneSketch : Sketch where
  elements := [.point .firstLong ⟨3.0, 4.0⟩, .fixed 0 .firstLong ⟨3.0, 4.0⟩]
  labels := ⟨[(.firstLong, "milestone")]⟩

end Solve

end PlaneSketch

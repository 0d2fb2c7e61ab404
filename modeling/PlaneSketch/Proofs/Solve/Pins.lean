import PlaneSketch.Proofs.Sketch.Moved
import PlaneSketch.Proofs.Solve.Seeding

namespace PlaneSketch

variable {α : Type}

-- The position that a fact gives to a point.
def Fact.position? (p : Handle) : Fact α → Option (Point α)
  | fixed q position => if q = p then some position else none
  | _ => none

namespace Store

theorem position?_eq (s : Store α) (p : Handle) :
    s.position? p = s.facts.findSome? (Fact.position? p) := by
  refine congrArg (s.facts.findSome? ·) (funext fun fact => ?_)
  cases fact <;> rfl

variable [Scalar α]

theorem position?_add (s : Store α) (fact : Fact α) (p : Handle) :
    (s.add fact).position? p = (s.position? p).or (fact.position? p) := by
  cases hk : s.knows fact with
  | true =>
      rw [add_of_knows hk]
      cases fact with
      | fixed q position =>
          by_cases hq : q = p
          · rw [knows_fixed, hq] at hk
            obtain ⟨known, hknown⟩ := Option.isSome_iff_exists.mp hk
            rw [hknown, Option.some_or]
          · simp [Fact.position?, hq]
      | _ => simp [Fact.position?]
  | false =>
      rw [add_of_not_knows hk, position?_eq, position?_eq, List.findSome?_append]
      simp

-- The first position given to a point is the one it keeps.
theorem position?_addAll (s : Store α) (facts : List (Fact α)) (p : Handle) :
    (s.addAll facts).position? p = (s.position? p).or (facts.findSome? (Fact.position? p)) := by
  induction facts generalizing s with
  | nil => simp
  | cons fact rest ih =>
      rw [addAll_cons, ih, position?_add, List.findSome?_cons, Option.or_assoc]
      cases fact.position? p <;> rfl

end Store

-- The position that an element pins a point to.
def Element.pin? (p : Handle) : Element → Option (Point Float)
  | fixed _ q position => if q = p then some position else none
  | _ => none

namespace Solve

variable {s : Sketch}

theorem findSome?_stated (s : Sketch) (e : Element) (p : Handle) :
    (stated s e).findSome? (Fact.position? p) = e.pin? p := by
  cases e with
  | fixed id q position => simp [stated, statements, Fact.position?, Element.pin?]
  | _ =>
      refine List.findSome?_eq_none_iff.mpr fun fact hfact => ?_
      cases states_of_mem hfact <;> rfl

theorem findSome?_flatMap_stated (s : Sketch) (elements : List Element) (p : Handle) :
    (elements.flatMap (stated s)).findSome? (Fact.position? p) =
      elements.findSome? (Element.pin? p) := by
  induction elements with
  | nil => rfl
  | cons e rest ih =>
      rw [List.flatMap_cons, List.findSome?_append, findSome?_stated, ih, List.findSome?_cons]
      cases e.pin? p <;> rfl

theorem position?_seeded (s : Sketch) (epsilon : Float) (p : Handle) :
    (seeded s epsilon).position? p = s.elements.findSome? (Element.pin? p) := by
  rw [seeded, Store.position?_addAll, findSome?_flatMap_stated]
  rfl

-- A pinned point is found where its first pin is, whatever else is asked of it.
theorem solve_pinned (hs : s.check = .ok ()) (options : Options Float)
    {before after : List Element} {id p : Handle} {q : Point Float}
    (hpin : s.elements = before ++ .fixed id p q :: after)
    (hfirst : ∀ e ∈ before, ∀ id' q', e ≠ .fixed id' p q') :
    ∃ solution, solve ruler s options = .ok solution ∧ solution.resolved.get? p = some q ∧
      solution.updated.get? p = some (.point p q) ∧
      ∀ position, .fixed p position ∈ solution.facts ↔ position = q := by
  have hs := Sketch.wellFormed_of_check hs
  have hseeded : (seeded s options.epsilon).position? p = some q := by
    rw [position?_seeded, hpin]
    refine List.findSome?_eq_some_iff.mpr
      ⟨before, _, after, rfl, by simp [Element.pin?], fun e he => ?_⟩
    cases e with
    | fixed id' p' q' =>
        have hother : p' ≠ p := fun heq => hfirst _ he id' q' (heq ▸ rfl)
        simp [Element.pin?, hother]
    | _ => rfl
  have hdistinct := distinct_propagated ruler s options
  have hfound := (steps_propagated ruler s options).grows.position? hseeded
  have hresolved : (resolvedPositions (propagated ruler s options).store).get? p = some q := by
    rw [get?_resolvedPositions hdistinct, hfound]
  refine ⟨_, solve_eq_ok hs options, hresolved, ?_, fun position => ?_⟩
  · obtain ⟨target, htarget, hkind⟩ :=
      hs.references (.fixed id p q) (by simp [hpin]) (p, .point) List.mem_cons_self
    rw [finish_updated, Sketch.get?_withPositions, htarget]
    obtain ⟨-, hid⟩ := Sketch.mem_of_get? htarget
    cases target with
    | point id' drawn =>
        obtain rfl : id' = p := hid
        simp [Sketch.moveElement, hresolved]
    | _ => cases hkind
  · rw [finish_facts, ← hdistinct.position?_eq_some_iff, hfound, Option.some.injEq, eq_comm]

-- Two pins for one point, and a distance and an alignment that fit neither of them.
def quarrelSketch : Sketch where
  elements :=
    [.point 0 ⟨1.0, 1.0⟩, .point 1 ⟨5.0, 5.0⟩, .axisAligned 10 .vertical 0 1,
      .fixed 11 0 ⟨0.0, 0.0⟩, .fixed 12 1 ⟨3.0, 4.0⟩, .fixed 13 1 ⟨9.0, 9.0⟩,
      .distance 14 0 1 100.0 ⟨0.5, 1.0⟩ false]
  labels := .empty

theorem solve_pinned_quarrel :
    ∃ solution, solve .standard quarrelSketch .standard = .ok solution ∧
      solution.resolved.get? 1 = some ⟨3.0, 4.0⟩ ∧
      solution.updated.get? 1 = some (.point 1 ⟨3.0, 4.0⟩) ∧
      .fixed 1 ⟨9.0, 9.0⟩ ∉ solution.facts := by
  have hcheck : quarrelSketch.check = .ok () := Sketch.check_eq_ok_of_isOk (by decide +kernel)
  have hpin : quarrelSketch.elements = quarrelSketch.elements.take 4 ++
      .fixed 12 1 ⟨3.0, 4.0⟩ :: quarrelSketch.elements.drop 5 := rfl
  obtain ⟨solution, hsolve, hresolved, hupdated, hfacts⟩ :=
    solve_pinned hcheck .standard hpin (by simp [quarrelSketch])
  refine ⟨solution, hsolve, hresolved, hupdated, ?_⟩
  rw [hfacts]
  decide +kernel

end Solve

end PlaneSketch

import PlaneSketch.Proofs.OrderedMap
import PlaneSketch.Proofs.Sketch.WellFormed

namespace PlaneSketch.Sketch

variable {s : Sketch} {m : OrderedMap Handle (Point Float)}

@[simp] theorem id_moveElement (m : OrderedMap Handle (Point Float)) (e : Element) :
    (moveElement m e).id = e.id := by
  cases e <;> rfl

@[simp] theorem kind_moveElement (m : OrderedMap Handle (Point Float)) (e : Element) :
    (moveElement m e).kind = e.kind := by
  cases e <;> rfl

@[simp] theorem references_moveElement (m : OrderedMap Handle (Point Float)) (e : Element) :
    (moveElement m e).references = e.references := by
  cases e <;> rfl

theorem moveElement_moveElement (m : OrderedMap Handle (Point Float)) (e : Element) :
    moveElement m (moveElement m e) = moveElement m e := by
  cases e with
  | point id position => cases h : m.get? id <;> simp [moveElement, h]
  | _ => rfl

theorem withPositions_withPositions (s : Sketch) (m : OrderedMap Handle (Point Float)) :
    (s.withPositions m).withPositions m = s.withPositions m := by
  simp [withPositions, moveElement_moveElement]

theorem withPositions_empty (s : Sketch) : s.withPositions .empty = s := by
  have hmove (e : Element) : moveElement .empty e = e := by
    cases e <;> rfl
  rw [withPositions, List.map_id'' hmove]

theorem get?_withPositions (s : Sketch) (m : OrderedMap Handle (Point Float)) (id : Handle) :
    (s.withPositions m).get? id = (s.get? id).map (moveElement m) := by
  rw [get?, withPositions, List.filter_map, List.getLast?_map, get?]
  simp [Function.comp_def]

-- Lines and arcs are not moved themselves, so what they say about their points stays, and so does
-- the refusal where there is none of them.
theorem lineEnds_withPositions (s : Sketch) (m : OrderedMap Handle (Point Float)) (id : Handle) :
    (s.withPositions m).lineEnds id = s.lineEnds id := by
  unfold lineEnds element
  rw [get?_withPositions]
  cases s.get? id with
  | none => rfl
  | some e => cases e <;> rfl

theorem arcRadius_withPositions (s : Sketch) (m : OrderedMap Handle (Point Float)) (id : Handle) :
    (s.withPositions m).arcRadius id = s.arcRadius id := by
  unfold arcRadius element
  rw [get?_withPositions]
  cases s.get? id with
  | none => rfl
  | some e => cases e <;> rfl

theorem mem_withPositions {p : Handle} {q : Point Float} :
    .point p q ∈ (s.withPositions m).elements ↔
      ∃ position, .point p position ∈ s.elements ∧ q = (m.get? p).getD position := by
  rw [withPositions, List.mem_map]
  constructor
  · rintro ⟨e, he, hmove⟩
    cases e <;> simp_all [moveElement]
    obtain ⟨rfl, rfl⟩ := hmove
    exact ⟨_, he, rfl⟩
  · rintro ⟨position, hpoint, rfl⟩
    exact ⟨_, hpoint, rfl⟩

theorem Linked.withPositions (hs : s.Linked) (m : OrderedMap Handle (Point Float)) :
    (s.withPositions m).Linked where
  distinct := by
    simpa [Sketch.withPositions, Function.comp_def] using hs.distinct
  known := by
    simpa [Sketch.withPositions] using hs.known
  references := by
    intro e' he' r hr
    obtain ⟨e, he, rfl⟩ := List.mem_map.mp he'
    obtain ⟨target, htarget, hkind⟩ := hs.references e he r (by simpa using hr)
    exact ⟨moveElement m target, by simp [get?_withPositions, htarget], by simpa using hkind⟩

-- Moving points to finite positions leaves a sketch well formed.
theorem WellFormed.withPositions (hs : s.WellFormed)
    (hm : ∀ q ∈ m.values, q.x.isFinite = true ∧ q.y.isFinite = true) :
    (s.withPositions m).WellFormed where
  toLinked := hs.toLinked.withPositions m
  finite := by
    intro e' he' x hx
    obtain ⟨e, he, rfl⟩ := List.mem_map.mp he'
    cases e with
    | point id position =>
        cases hmoved : m.get? id with
        | none =>
            simp only [moveElement, hmoved, Option.getD_none] at hx
            exact hs.finite _ he x hx
        | some q =>
            have hq := hm q (OrderedMap.mem_values_of_get? hmoved)
            simp only [moveElement, hmoved, Option.getD_some, Element.numbers, List.mem_cons,
              List.not_mem_nil, or_false] at hx
            rcases hx with rfl | rfl
            · exact hq.1
            · exact hq.2
    | _ => exact hs.finite _ he x hx

end PlaneSketch.Sketch

import PlaneSketch.Proofs.Fact.Handles
import PlaneSketch.Proofs.Sketch.Labels
import PlaneSketch.Sketch.Describe

namespace PlaneSketch

theorem Hinges.mapError {ε δ β : Type} {x : Except ε β} {P : Prop} {error : ε}
    (h : Hinges x P error) (f : ε → δ) : Hinges (x.mapError f) P (f error) := by
  refine ⟨fun hP => ?_, fun hP => by rw [h.2 hP]; rfl⟩
  obtain ⟨b, rfl⟩ := h.1 hP
  exact ⟨b, rfl⟩

-- Every handle that a description of the element names can be written out. A constraint is told by
-- what it is about and not by its own handle.
structure Element.Worded (e : Element) : Prop where
  id : e.kind.isConstraint = false → e.id.Short
  references : ∀ r ∈ e.references, r.1.Short

theorem Element.worded_iff {e : Element} :
    e.Worded ↔ (e.kind.isConstraint = false → e.id.Short) ∧ ∀ r ∈ e.references, r.1.Short :=
  ⟨fun h => ⟨h.id, h.references⟩, fun h => ⟨h.1, h.2⟩⟩

-- Nothing refers to a constraint.
theorem Element.isConstraint_of_mem_references (e : Element) :
    ∀ r ∈ e.references, r.2.isConstraint = false := by
  cases e <;> simp [references, Kind.isConstraint]

namespace Sketch

variable {s : Sketch} {e : Element}

theorem hinges_word (s : Sketch) (id : Handle) :
    Hinges (s.word id) id.Short (.digits .tooMany) :=
  (s.hinges_label id).mapError DescribeError.digits

-- There are words for an element just if all handles they name can be written out.
theorem hinges_describe (s : Sketch) (e : Element) (hknown : e.kind ≠ .foreign) :
    Hinges (s.describe e) e.Worded (.digits .tooMany) := by
  have hword := s.hinges_word
  cases e with
  | point id position =>
      refine ((hword id).bind fun _ => .ok _).congr ?_
      simp [Element.worded_iff, Element.kind, Element.Kind.isConstraint, Element.id,
        Element.references]
  | line id a b =>
      refine ((hword id).bind fun _ => (hword a).bind fun _ => (hword b).bind fun _ =>
        .ok _).congr ?_
      simp [Element.worded_iff, Element.kind, Element.Kind.isConstraint, Element.id,
        Element.references]
  | arc id a b center =>
      refine ((hword id).bind fun _ => (hword a).bind fun _ => (hword b).bind fun _ =>
        (hword center).bind fun _ => .ok _).congr ?_
      simp [Element.worded_iff, Element.kind, Element.Kind.isConstraint, Element.id,
        Element.references]
  | fixed id p position =>
      refine ((hword p).bind fun _ => .ok _).congr ?_
      simp [Element.worded_iff, Element.kind, Element.Kind.isConstraint, Element.references]
  | axisAligned id axis a b =>
      refine ((hword a).bind fun _ => (hword b).bind fun _ => .ok _).congr ?_
      simp [Element.worded_iff, Element.kind, Element.Kind.isConstraint, Element.references]
  | distance id a b value placement measureOnly =>
      refine ((hword a).bind fun _ => (hword b).bind fun _ => .ok _).congr ?_
      simp [Element.worded_iff, Element.kind, Element.Kind.isConstraint, Element.references]
  | lineDistance id p l value placement measureOnly =>
      refine ((hword p).bind fun _ => (hword l).bind fun _ => .ok _).congr ?_
      simp [Element.worded_iff, Element.kind, Element.Kind.isConstraint, Element.references]
  | pointOnLine id p l =>
      refine ((hword p).bind fun _ => (hword l).bind fun _ => .ok _).congr ?_
      simp [Element.worded_iff, Element.kind, Element.Kind.isConstraint, Element.references]
  | pointOnArc id p a =>
      refine ((hword p).bind fun _ => (hword a).bind fun _ => .ok _).congr ?_
      simp [Element.worded_iff, Element.kind, Element.Kind.isConstraint, Element.references]
  | foreign id kindName => exact absurd rfl hknown

-- Where the handles of the geometry can be written out, so can all that descriptions name.
theorem Linked.worded (hs : s.Linked)
    (h : ∀ e ∈ s.elements, e.kind.isConstraint = false → e.id.Short) (he : e ∈ s.elements) :
    e.Worded := by
  refine ⟨h e he, fun r hr => ?_⟩
  obtain ⟨target, htarget, hkind⟩ := hs.references e he r hr
  obtain ⟨hmem, hid⟩ := mem_of_get? htarget
  exact hid ▸ h target hmem (hkind ▸ e.isConstraint_of_mem_references r hr)

theorem Linked.hinges_describeAll (hs : s.Linked) :
    Hinges s.describeAll (∀ e ∈ s.elements, e.kind.isConstraint = false → e.id.Short)
      (.digits .tooMany) := by
  have helements : Hinges (s.elements.mapM s.describe) (∀ e ∈ s.elements, e.Worded)
      (.digits .tooMany) := .mapM fun e he => s.hinges_describe e (hs.known e he)
  refine (helements.bind fun _ => .ok _).congr ⟨fun h e he => (h.1 e he).id, fun h => ?_⟩
  exact ⟨fun e he => hs.worded h he, trivial⟩

-- There are words for a fact just if it is about some points whose handles can be written out.
theorem hinges_describeFact (s : Sketch) {fact : Fact Float} (h : fact.handles ≠ []) :
    Hinges (s.describeFact fact) (∀ p ∈ fact.handles, p.Short) (.digits .tooMany) := by
  have hword := s.hinges_word
  cases fact with
  | fixed p position => exact ((hword p).bind fun _ => .ok _).congr (by simp [Fact.handles])
  | onLine p a b => exact ((hword p).bind fun _ => .ok _).congr (by simp [Fact.handles])
  | onCircle p center radius =>
      exact ((hword p).bind fun _ => .ok _).congr (by simp [Fact.handles])
  | vertical p q =>
      exact ((hword p).bind fun _ => (hword q).bind fun _ => .ok _).congr (by simp [Fact.handles])
  | horizontal p q =>
      exact ((hword p).bind fun _ => (hword q).bind fun _ => .ok _).congr (by simp [Fact.handles])
  | distance p q value =>
      exact ((hword p).bind fun _ => (hword q).bind fun _ => .ok _).congr (by simp [Fact.handles])
  | lineDistance p a b value =>
      exact ((hword p).bind fun _ => (hword a).bind fun _ => (hword b).bind fun _ =>
        .ok _).congr (by simp [Fact.handles])
  | collinear points =>
      have hwords : Hinges (points.mapM s.word) (∀ p ∈ points, p.Short) (.digits .tooMany) :=
        .mapM fun p _ => hword p
      exact (hwords.bind fun _ => .ok _).congr (by simp [Fact.handles])
  | equidistant center p q =>
      exact ((hword center).bind fun _ => (hword p).bind fun _ => (hword q).bind fun _ =>
        .ok _).congr (by simp [Fact.handles])
  | bare => exact absurd rfl h

end Sketch

end PlaneSketch

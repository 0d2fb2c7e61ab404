import PlaneSketch.Document.Dump
import PlaneSketch.Proofs.Sketch.Labels

namespace PlaneSketch

-- Every handle in the element can be written out.
structure Element.Short (e : Element) : Prop where
  id : e.id.Short
  references : ∀ r ∈ e.references, r.1.Short

theorem Element.short_iff {e : Element} :
    e.Short ↔ e.id.Short ∧ ∀ r ∈ e.references, r.1.Short :=
  ⟨fun h => ⟨h.id, h.references⟩, fun h => ⟨h.1, h.2⟩⟩

-- What all references lead to has a handle, so those of the elements are all there are.
theorem Sketch.Linked.short {s : Sketch} (hs : s.Linked) (h : ∀ e ∈ s.elements, e.id.Short)
    {e : Element} (he : e ∈ s.elements) : e.Short := by
  refine ⟨h e he, fun r hr => ?_⟩
  obtain ⟨target, htarget, -⟩ := hs.references e he r hr
  obtain ⟨hmem, hid⟩ := mem_of_get? htarget
  exact hid ▸ h target hmem

namespace Document

open Json (Value)

variable {s : Sketch} {e : Element}

-- The list and the entry of an element that goes by its name.
def writtenElement (s : Sketch) (e : Element) : Option (String × Value) :=
  Id.run (dumpElement (fun id => pure (s.name id)) e)

-- The document in which all elements go by their names.
def written (s : Sketch) : Value := ofEntries (s.elements.filterMap (writtenElement s))

theorem dumpElement_of_short (h : e.Short) :
    dumpElement s.label e = .ok (writtenElement s e) := by
  obtain ⟨hid, href⟩ := h
  have hown := Sketch.label_of_short (s := s) hid
  have href := fun r hr => Sketch.label_of_short (s := s) (href r hr)
  cases e <;> simp_all [dumpElement, writtenElement, Element.references, Element.id] <;> rfl

theorem mapM_congr {ε β γ : Type} {f g : β → Except ε γ} {xs : List β}
    (h : ∀ x ∈ xs, f x = g x) : xs.mapM f = xs.mapM g := by
  induction xs with
  | nil => rfl
  | cons x rest ih =>
      rw [List.mapM_cons, List.mapM_cons, h x List.mem_cons_self,
        ih fun x hx => h x (List.mem_cons_of_mem _ hx)]

theorem dump_of_short (h : ∀ e ∈ s.elements, e.Short) : dump s = .ok (written s) := by
  have helements : s.elements.mapM (dumpElement s.label) =
      .ok (s.elements.map (writtenElement s)) :=
    (mapM_congr fun e he => dumpElement_of_short (h e he)).trans List.mapM_pure
  rw [dump, helements, written]
  change Except.ok (ofEntries ((s.elements.map _).filterMap id)) = _
  rw [List.filterMap_map]
  rfl

-- An entry is written just if all handles in it can be.
theorem hinges_dumpElement (s : Sketch) (e : Element) (hknown : e.kind ≠ .foreign) :
    Hinges (dumpElement s.label e) e.Short .tooMany := by
  have hlabel := Sketch.hinges_label s
  cases e with
  | point id position =>
      refine ((hlabel id).bind fun _ => .ok _).congr ?_
      simp [Element.short_iff, Element.id, Element.references]
  | line id a b =>
      refine ((hlabel id).bind fun _ => (hlabel a).bind fun _ => (hlabel b).bind fun _ =>
        .ok _).congr ?_
      simp [Element.short_iff, Element.id, Element.references]
  | arc id a b center =>
      refine ((hlabel id).bind fun _ => (hlabel a).bind fun _ => (hlabel b).bind fun _ =>
        (hlabel center).bind fun _ => .ok _).congr ?_
      simp [Element.short_iff, Element.id, Element.references]
  | fixed id p position =>
      refine ((hlabel id).bind fun _ => (hlabel p).bind fun _ => .ok _).congr ?_
      simp [Element.short_iff, Element.id, Element.references]
  | axisAligned id axis a b =>
      refine ((hlabel id).bind fun _ => (hlabel a).bind fun _ => (hlabel b).bind fun _ =>
        .ok _).congr ?_
      simp [Element.short_iff, Element.id, Element.references]
  | distance id a b value placement measureOnly =>
      refine ((hlabel id).bind fun _ => (hlabel a).bind fun _ => (hlabel b).bind fun _ =>
        .ok _).congr ?_
      simp [Element.short_iff, Element.id, Element.references]
  | lineDistance id p l value placement measureOnly =>
      refine ((hlabel id).bind fun _ => (hlabel p).bind fun _ => (hlabel l).bind fun _ =>
        .ok _).congr ?_
      simp [Element.short_iff, Element.id, Element.references]
  | pointOnLine id p l =>
      refine ((hlabel id).bind fun _ => (hlabel p).bind fun _ => (hlabel l).bind fun _ =>
        .ok _).congr ?_
      simp [Element.short_iff, Element.id, Element.references]
  | pointOnArc id p a =>
      refine ((hlabel id).bind fun _ => (hlabel p).bind fun _ => (hlabel a).bind fun _ =>
        .ok _).congr ?_
      simp [Element.short_iff, Element.id, Element.references]
  | foreign id kindName => exact absurd rfl hknown

-- A document is written just if the handles of all elements can be.
theorem hinges_dump (hs : s.Linked) :
    Hinges (dump s) (∀ e ∈ s.elements, e.id.Short) .tooMany := by
  have helements : Hinges (s.elements.mapM (dumpElement s.label))
      (∀ e ∈ s.elements, e.Short) .tooMany :=
    .mapM fun e he => hinges_dumpElement s e (hs.known e he)
  refine (helements.bind fun _ => .ok _).congr ⟨fun h e he => (h.1 e he).id, fun h => ?_⟩
  exact ⟨fun e he => hs.short h he, trivial⟩

theorem written_of_dump (hs : s.Linked) {document : Value} (h : dump s = .ok document) :
    written s = document := by
  have hshort := (hinges_dump hs).ok_iff.mp ⟨document, h⟩
  exact Except.ok.inj ((dump_of_short fun e he => hs.short hshort he).symm.trans h)

end Document

end PlaneSketch

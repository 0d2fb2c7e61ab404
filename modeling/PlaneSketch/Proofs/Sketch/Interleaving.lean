import PlaneSketch.Proofs.Sketch.WellFormed

namespace PlaneSketch

-- The third list runs through the first two, each in its own order.
inductive Interleaved {β : Type} : List β → List β → List β → Prop
  | nil : Interleaved [] [] []
  | left {xs ys zs : List β} (x : β) (h : Interleaved xs ys zs) :
      Interleaved (x :: xs) ys (x :: zs)
  | right {xs ys zs : List β} (y : β) (h : Interleaved xs ys zs) :
      Interleaved xs (y :: ys) (y :: zs)

namespace Interleaved

variable {β γ : Type} {xs ys zs : List β}

theorem symm (h : Interleaved xs ys zs) : Interleaved ys xs zs := by
  induction h with
  | nil => exact .nil
  | left x _ ih => exact .right x ih
  | right y _ ih => exact .left y ih

theorem perm (h : Interleaved xs ys zs) : zs.Perm (xs ++ ys) := by
  induction h with
  | nil => exact .nil
  | left x _ ih => exact ih.cons x
  | right y _ ih => exact (ih.cons y).trans List.perm_middle.symm

theorem mem_iff (h : Interleaved xs ys zs) {z : β} : z ∈ zs ↔ z ∈ xs ∨ z ∈ ys := by
  rw [h.perm.mem_iff, List.mem_append]

-- What one list says of its elements is not disturbed by elements that have nothing to say.
theorem flatMap_left (h : Interleaved xs ys zs) {f g : β → List γ} (hxs : ∀ x ∈ xs, f x = g x)
    (hys : ∀ y ∈ ys, f y = []) : zs.flatMap f = xs.flatMap g := by
  induction h with
  | nil => rfl
  | left x _ ih =>
      rw [List.forall_mem_cons] at hxs
      rw [List.flatMap_cons, List.flatMap_cons, hxs.1, ih hxs.2 hys]
  | right y _ ih =>
      rw [List.forall_mem_cons] at hys
      rw [List.flatMap_cons, hys.1, List.nil_append, ih hxs hys.2]

theorem filter_left (h : Interleaved xs ys zs) {keep : β → Bool}
    (hys : ∀ y ∈ ys, keep y = false) : zs.filter keep = xs.filter keep := by
  induction h with
  | nil => rfl
  | left x _ ih => rw [List.filter_cons, List.filter_cons, ih hys]
  | right y _ ih =>
      rw [List.forall_mem_cons] at hys
      rw [List.filter_cons_of_neg (by simp [hys.1]), ih hys.2]

end Interleaved

namespace Sketch

-- Two well-formed sketches without a common handle, and one that mixes their elements.
structure Parts (s₁ s₂ s : Sketch) : Prop where
  left : s₁.WellFormed
  right : s₂.WellFormed
  disjoint : ∀ a ∈ s₁.elements, ∀ b ∈ s₂.elements, a.id ≠ b.id
  interleaved : Interleaved s₁.elements s₂.elements s.elements

namespace Parts

variable {s₁ s₂ s : Sketch} {e : Element}

theorem symm (h : Parts s₁ s₂ s) : Parts s₂ s₁ s where
  left := h.right
  right := h.left
  disjoint := fun a ha b hb => (h.disjoint b hb a ha).symm
  interleaved := h.interleaved.symm

theorem contains_right (h : Parts s₁ s₂ s) {id : Handle} (hid : s₁.contains id = true) :
    s₂.contains id = false := by
  refine Bool.eq_false_iff.mpr fun hid' => ?_
  obtain ⟨a, ha, hida⟩ := contains_iff.mp hid
  obtain ⟨b, hb, hidb⟩ := contains_iff.mp hid'
  exact h.disjoint a ha b hb (hida.trans hidb.symm)

-- Every handle of the whole belongs to exactly one of the parts.
theorem contains_right_eq (h : Parts s₁ s₂ s) {id : Handle} (hid : s.contains id = true) :
    s₂.contains id = !s₁.contains id := by
  have hsome : s₁.contains id = true ∨ s₂.contains id = true := by
    simpa only [contains_iff, h.interleaved.mem_iff, or_and_right, exists_or] using hid
  rcases hsome with hone | htwo
  · rw [hone, h.contains_right hone]
    rfl
  · rw [htwo, h.symm.contains_right htwo]
    rfl

-- A handle of one part stands for the same element in the whole.
theorem get?_left (h : Parts s₁ s₂ s) {id : Handle} (hid : s₁.contains id = true) :
    s.get? id = s₁.get? id := by
  refine congrArg List.getLast? (h.interleaved.filter_left fun b hb => ?_)
  obtain ⟨a, ha, rfl⟩ := contains_iff.mp hid
  simpa using (h.disjoint a ha b hb).symm

theorem get?_of_references (h : Parts s₁ s₂ s) (he : e ∈ s₁.elements) {r : Handle × Element.Kind}
    (hr : r ∈ e.references) : s.get? r.1 = s₁.get? r.1 := by
  obtain ⟨target, htarget, -⟩ := h.left.references e he r hr
  exact h.get?_left (by simp [contains, htarget])

theorem references_left (h : Parts s₁ s₂ s) (he : e ∈ s₁.elements) :
    ∀ r ∈ e.references, ∃ target, s.get? r.1 = some target ∧ target.kind = r.2 := by
  intro r hr
  rw [h.get?_of_references he hr]
  exact h.left.references e he r hr

theorem wellFormed (h : Parts s₁ s₂ s) : s.WellFormed where
  distinct := by
    rw [(h.interleaved.perm.map Element.id).nodup_iff, List.map_append]
    refine h.left.distinct.append h.right.distinct ?_
    intro id hone htwo
    obtain ⟨a, ha, rfl⟩ := List.mem_map.mp hone
    obtain ⟨b, hb, hid⟩ := List.mem_map.mp htwo
    exact h.disjoint a ha b hb hid.symm
  known := fun e he => (h.interleaved.mem_iff.mp he).elim (h.left.known e) (h.right.known e)
  references := fun e he =>
    (h.interleaved.mem_iff.mp he).elim h.references_left h.symm.references_left
  finite := fun e he => (h.interleaved.mem_iff.mp he).elim (h.left.finite e) (h.right.finite e)

end Parts

end Sketch

end PlaneSketch

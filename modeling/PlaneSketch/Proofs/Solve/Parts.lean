import PlaneSketch.Proofs.Solve.Renaming
import PlaneSketch.Proofs.Solve.Restriction

namespace PlaneSketch

namespace Store

variable {α : Type} {part part' : Handle → Nat} {s t : Store α}

-- The facts about the points of one part.
def ofPart (s : Store α) (part : Handle → Nat) (k : Nat) : Store α :=
  s.restrict fun p => part p == k

-- No fact is about points of several parts.
def Parted (part : Handle → Nat) (s : Store α) : Prop := ∀ k, s.Separated fun p => part p == k

theorem parted_of_forall (h : ∀ fact ∈ s.facts, fact.handles ≠ [] ∧
    ∃ k, ∀ p ∈ fact.handles, part p = k) : s.Parted part := by
  intro k fact hfact
  obtain ⟨hne, own, hown⟩ := h fact hfact
  refine ⟨hne, ?_⟩
  by_cases hk : own = k
  · exact .inl (List.all_eq_true.mpr fun p hp => by simp [hown p hp, hk])
  · exact .inr (List.all_eq_true.mpr fun p hp => by simp [hown p hp, hk])

theorem Parted.exists_within (h : s.Parted part) {fact : Fact α} (hfact : fact ∈ s.facts) :
    ∃ k, fact.within (fun p => part p == k) = true := by
  obtain ⟨p, hp⟩ := List.exists_mem_of_ne_nil _ (h 0 fact hfact).1
  exact ⟨part p, (h (part p)).within_of_mem hfact hp (by simp)⟩

theorem Parted.position?_ofPart (h : s.Parted part) (p : Handle) :
    (s.ofPart part (part p)).position? p = s.position? p :=
  ((h (part p)).agreeOn_restrict (by simp)).position.symm

-- Two stores that know the same about other points, each part in itself. How the parts mix is left
-- open.
structure RenamedParts (f : Handle → Handle) (points : Set Handle) (part part' : Handle → Nat)
    (s t : Store α) : Prop where
  parted : s.Parted part
  parted' : t.Parted part'
  renamed : ∀ k, (s.ofPart part k).Renamed f points (t.ofPart part' k)

theorem RenamedParts.position?_eq {f : Handle → Handle} {points : Set Handle}
    (h : s.RenamedParts f points part part' t) (hf : Set.InjOn f points) {p : Handle}
    (hp : p ∈ points) (hpart : part' (f p) = part p) : t.position? (f p) = s.position? p := by
  rw [← h.parted'.position?_ofPart, ← h.parted.position?_ofPart, hpart]
  exact (h.renamed (part p)).position?_eq hf hp

end Store

namespace Solve

open Store (Parted RenamedParts)

variable {α : Type} [Scalar α] {ctx ctx' : Context α} {part part' : Handle → Nat} {s t : Store α}

theorem ofPart_pass (h : s.Parted part) (k : Nat) :
    (pass ctx s).ofPart part k = pass ctx (s.ofPart part k) :=
  restrict_pass (.refl ctx) (h k)

-- The whole is complete exactly when all its parts are.
theorem pass_eq_self_iff_ofPart (h : s.Parted part) :
    pass ctx s = s ↔ ∀ k, pass ctx (s.ofPart part k) = s.ofPart part k := by
  refine ⟨fun hstable k => by rw [← ofPart_pass h, hstable], fun hstable => ?_⟩
  refine pass_eq_self_iff.mpr fun rule => Rule.run_eq_self_iff.mpr ?_
  intro fact hfact hkind conclusion hconclusion
  obtain ⟨k, hwithin⟩ := h.exists_within hfact
  rw [conclusions_restrict (.refl ctx) (h k) hwithin rule] at hconclusion
  have hknown := Rule.run_eq_self_iff.mp (pass_eq_self_iff.mp (hstable k) rule) fact
    (Store.mem_restrict.mpr ⟨hfact, hwithin⟩) hkind conclusion hconclusion
  obtain ⟨known, hmem, hsame⟩ := List.any_eq_true.mp hknown
  exact List.any_eq_true.mpr ⟨known, (Store.mem_restrict.mp hmem).1, hsame⟩

section

variable {f : Handle → Handle} {points : Set Handle} (hf : Set.InjOn f points)
  (hctx : ctx.Renamed f points ctx')

include hf hctx

-- Propagation takes the same course, since it stops where a pass adds nothing to any part.
theorem renamedParts_propagate (h : s.RenamedParts f points part part' t) :
    (propagate ctx s).store.RenamedParts f points part part' (propagate ctx' t).store ∧
      (propagate ctx' t).passes = (propagate ctx s).passes ∧
      (propagate ctx' t).converged = (propagate ctx s).converged := by
  unfold propagate
  rw [hctx.options]
  refine related_propagateFrom (R := RenamedParts f points part part')
    (fun {s t} h => ⟨?_, ?_, fun k => ?_⟩) (fun {s t} h => ?_) h _ 0
  · exact fun k => (steps_pass ctx s).separated (h.parted k)
  · exact fun k => (steps_pass ctx' t).separated (h.parted' k)
  · rw [ofPart_pass h.parted, ofPart_pass h.parted']
    exact renamed_pass hf hctx (h.renamed k)
  · rw [pass_eq_self_iff_ofPart h.parted, pass_eq_self_iff_ofPart h.parted']
    exact forall_congr' fun k => pass_eq_self_iff_renamed hf hctx (h.renamed k)

end

end Solve

end PlaneSketch

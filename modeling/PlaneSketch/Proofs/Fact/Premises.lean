import PlaneSketch.Proofs.Fact.Agreement

namespace PlaneSketch.Store

variable {α : Type}

-- The facts that are not curves. Curves only follow from these, and only to be intersected.
def premises (s : Store α) : List (Fact α) := s.facts.filter fun fact => !fact.isCurve

variable {s t u : Store α}

theorem mem_premises {fact : Fact α} :
    fact ∈ s.premises ↔ fact ∈ s.facts ∧ fact.isCurve = false := by
  simp [premises]

-- A store between two with the same premises has these as well.
theorem Grows.premises_eq (hst : Grows s t) (htu : Grows t u) (h : u.premises = s.premises) :
    t.premises = s.premises := by
  have hlower : s.premises <+: t.premises := hst.facts.filter _
  have hupper : t.premises <+: u.premises := htu.facts.filter _
  rw [h] at hupper
  exact (hlower.eq_of_length (Nat.le_antisymm hlower.length_le hupper.length_le)).symm

theorem agreeOn_of_premises_eq (h : s.premises = t.premises) (p : Handle) : AgreeOn s t p :=
  agreeOn_of_filter_eq (fun fact => !fact.isCurve) h (fun _ _ _ hcurve => by simp [hcurve])
    (fun _ _ _ hcurve => by simp [hcurve])

-- A fold that brings no new premise does not move, if none of its steps could move without one.
theorem foldl_eq_self_of_premises {β : Type} {step : Store α → β → Store α}
    (hstep : ∀ s b, Grows s (step s b)) {bs : List β}
    (hquiet : ∀ b ∈ bs, (step s b).premises = s.premises → step s b = s)
    (h : (bs.foldl step s).premises = s.premises) : bs.foldl step s = s := by
  induction bs with
  | nil => rfl
  | cons b rest ih =>
      rw [List.forall_mem_cons] at hquiet
      have hb := hquiet.1 ((hstep s b).premises_eq (grows_foldl hstep rest (step s b)) h)
      rw [List.foldl_cons, hb] at h ⊢
      exact ih hquiet.2 h

variable [Scalar α]

theorem exists_append_premises (s : Store α) (facts : List (Fact α)) :
    ∃ learned, (s.addAll facts).premises = s.premises ++ learned ∧
      ∀ fact ∈ learned, fact ∈ facts ∧ fact ∈ (s.addAll facts).facts ∧ fact.isCurve = false ∧
        s.knows fact = false := by
  obtain ⟨learned, happend, hsublist, hnew⟩ := exists_append_addAll s facts
  refine ⟨learned.filter fun fact => !fact.isCurve, by simp [premises, happend], ?_⟩
  intro fact hfact
  obtain ⟨hfact, hcurve⟩ := List.mem_filter.mp hfact
  exact ⟨hsublist.subset hfact, by simp [happend, hfact], by simpa using hcurve, hnew fact hfact⟩

theorem addAll_eq_self_of_premises {facts : List (Fact α)}
    (hfacts : ∀ fact ∈ facts, fact.isCurve = false)
    (h : (s.addAll facts).premises = s.premises) : s.addAll facts = s := by
  obtain ⟨learned, happend, hsublist, -⟩ := exists_append_addAll s facts
  have hlearned : learned.filter (fun fact => !fact.isCurve) = learned :=
    List.filter_eq_self.mpr fun fact hfact => by simp [hfacts fact (hsublist.subset hfact)]
  have hnone : learned = [] := by simpa [premises, happend, hlearned] using h
  refine (grows_addAll s facts).eq_of_size ?_
  simp [size, happend, hnone]

end PlaneSketch.Store

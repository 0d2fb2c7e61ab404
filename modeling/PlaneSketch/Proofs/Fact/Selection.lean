import PlaneSketch.Proofs.Fact.Handles

namespace PlaneSketch.Store

variable {α : Type}

-- A part of what a store knows: the facts that pass a test.
def select (s : Store α) (keep : Fact α → Bool) : Store α :=
  { s with facts := s.facts.filter keep }

theorem mem_select {s : Store α} {keep : Fact α → Bool} {fact : Fact α} :
    fact ∈ (s.select keep).facts ↔ fact ∈ s.facts ∧ keep fact = true :=
  List.mem_filter

section

variable [Scalar α] {keep : Fact α → Bool}
  (hkeep : ∀ {bound : α} {known fact : Fact α}, known.sameAs bound fact = true →
    keep known = keep fact)

include hkeep

-- Where a test does not tell a fact from its repetitions, the facts left out have no say in what
-- is new among the others.
theorem knows_select (s : Store α) {fact : Fact α} (h : keep fact = true) :
    (s.select keep).knows fact = s.knows fact := by
  rw [Bool.eq_iff_iff, knows, knows, List.any_eq_true, List.any_eq_true]
  constructor
  · rintro ⟨known, hmem, hsame⟩
    exact ⟨known, (mem_select.mp hmem).1, hsame⟩
  · rintro ⟨known, hmem, hsame⟩
    exact ⟨known, mem_select.mpr ⟨hmem, (hkeep hsame).trans h⟩, hsame⟩

theorem select_add (s : Store α) (fact : Fact α) :
    (s.add fact).select keep =
      if keep fact = true then (s.select keep).add fact else s.select keep := by
  cases hk : s.knows fact with
  | true =>
      rw [add_of_knows hk]
      split
      · rename_i hfact
        rw [add_of_knows (by rwa [knows_select hkeep s hfact])]
      · rfl
  | false =>
      rw [add_of_not_knows hk]
      split
      · rename_i hfact
        rw [add_of_not_knows (by rwa [knows_select hkeep s hfact])]
        simp [select, hfact]
      · rename_i hfact
        simp [select, hfact]

theorem select_addAll (s : Store α) (facts : List (Fact α)) :
    (s.addAll facts).select keep = (s.select keep).addAll (facts.filter keep) := by
  induction facts generalizing s with
  | nil => rfl
  | cons fact rest ih =>
      rw [addAll_cons, ih, select_add hkeep]
      cases hfact : keep fact with
      | true => rw [List.filter_cons_of_pos hfact, addAll_cons, if_pos rfl]
      | false => rw [List.filter_cons_of_neg (by simp [hfact]), if_neg (by simp)]

end

end PlaneSketch.Store

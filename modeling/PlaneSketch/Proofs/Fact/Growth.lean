import PlaneSketch.Fact.Store

namespace PlaneSketch.Store

variable {α : Type}

-- A store that continues another: the bound stays and facts are only appended.
structure Grows (s t : Store α) : Prop where
  epsilon : t.epsilon = s.epsilon
  facts : s.facts <+: t.facts

namespace Grows

variable {s t u : Store α}

theorem refl (s : Store α) : Grows s s := ⟨rfl, List.prefix_refl _⟩

theorem trans (hst : Grows s t) (htu : Grows t u) : Grows s u :=
  ⟨htu.epsilon.trans hst.epsilon, hst.facts.trans htu.facts⟩

theorem mem (h : Grows s t) {fact : Fact α} (hf : fact ∈ s.facts) : fact ∈ t.facts :=
  h.facts.subset hf

theorem size_le (h : Grows s t) : s.size ≤ t.size := h.facts.length_le

-- Counting the facts is enough to see whether anything was learned.
theorem eq_of_size (h : Grows s t) (hn : t.size = s.size) : t = s := by
  have hfacts : s.facts = t.facts := h.facts.eq_of_length hn.symm
  have hepsilon := h.epsilon
  cases s
  cases t
  simp_all

theorem size_lt (h : Grows s t) (hne : t ≠ s) : s.size < t.size := by
  have hle := h.size_le
  have hn : t.size ≠ s.size := fun hn => hne (h.eq_of_size hn)
  omega

theorem antisymm (hst : Grows s t) (hts : Grows t s) : t = s :=
  hst.eq_of_size (Nat.le_antisymm hts.size_le hst.size_le)

theorem position? (h : Grows s t) {p : Handle} {q : Point α} (hq : s.position? p = some q) :
    t.position? p = some q :=
  h.facts.findSome?_eq_some hq

theorem knows [Scalar α] (h : Grows s t) {fact : Fact α} (hk : s.knows fact = true) :
    t.knows fact = true := by
  obtain ⟨known, hm, hs⟩ := List.any_eq_true.mp hk
  exact List.any_eq_true.mpr ⟨known, h.mem hm, by rwa [h.epsilon]⟩

end Grows

theorem mem_ofKind {s : Store α} {kind : Fact.Kind} {fact : Fact α} :
    fact ∈ s.ofKind kind ↔ fact ∈ s.facts ∧ fact.kind = kind := by
  simp [ofKind]

-- Folding a growing step over a list grows the store, whatever the steps read from it.
theorem grows_foldl {β : Type} {step : Store α → β → Store α}
    (hstep : ∀ s b, Grows s (step s b)) (bs : List β) (s : Store α) :
    Grows s (bs.foldl step s) := by
  induction bs generalizing s with
  | nil => exact .refl s
  | cons b rest ih => exact (hstep s b).trans (ih (step s b))

-- Nothing is ever taken back, so a fold that ends where it began never moved.
theorem foldl_eq_self_iff {β : Type} {step : Store α → β → Store α}
    (hstep : ∀ s b, Grows s (step s b)) {bs : List β} {s : Store α} :
    bs.foldl step s = s ↔ ∀ b ∈ bs, step s b = s := by
  induction bs with
  | nil => simp
  | cons b rest ih =>
      rw [List.foldl_cons, List.forall_mem_cons]
      constructor
      · intro h
        have hback : Grows (step s b) s := by
          have hrest := grows_foldl hstep rest (step s b)
          rwa [h] at hrest
        have hb : step s b = s := (hstep s b).antisymm hback
        rw [hb] at h
        exact ⟨hb, ih.mp h⟩
      · rintro ⟨hb, hrest⟩
        rw [hb]
        exact ih.mpr hrest

-- Every element of the list has its turn, at a store between the first and the last.
theorem exists_turn {β : Type} {step : Store α → β → Store α}
    (hstep : ∀ s b, Grows s (step s b)) {bs : List β} {b : β} (hb : b ∈ bs) (s : Store α) :
    ∃ t, Grows s t ∧ Grows (step t b) (bs.foldl step s) := by
  induction bs generalizing s with
  | nil => cases hb
  | cons first rest ih =>
      rcases List.mem_cons.mp hb with rfl | hb
      · exact ⟨s, .refl s, grows_foldl hstep rest (step s b)⟩
      · obtain ⟨t, hbefore, hafter⟩ := ih hb (step s first)
        exact ⟨t, (hstep s first).trans hbefore, hafter⟩

variable [Scalar α]

theorem add_of_knows {s : Store α} {fact : Fact α} (h : s.knows fact = true) : s.add fact = s := by
  simp [add, h]

theorem add_of_not_knows {s : Store α} {fact : Fact α} (h : s.knows fact = false) :
    s.add fact = { s with facts := s.facts ++ [fact] } := by
  simp [add, h]

theorem grows_add (s : Store α) (fact : Fact α) : Grows s (s.add fact) := by
  cases h : s.knows fact with
  | true =>
      rw [add_of_knows h]
      exact .refl s
  | false =>
      rw [add_of_not_knows h]
      exact ⟨rfl, List.prefix_append _ _⟩

theorem mem_add {s : Store α} {fact known : Fact α} (h : known ∈ (s.add fact).facts) :
    known ∈ s.facts ∨ known = fact := by
  cases hk : s.knows fact with
  | true => exact .inl (by rwa [add_of_knows hk] at h)
  | false => simpa [add_of_not_knows hk] using h

theorem add_eq_self_iff {s : Store α} {fact : Fact α} : s.add fact = s ↔ s.knows fact = true := by
  constructor
  · intro h
    cases hk : s.knows fact with
    | true => rfl
    | false =>
        have hn := congrArg size h
        simp [add_of_not_knows hk, size] at hn
  · exact add_of_knows

@[simp] theorem addAll_nil (s : Store α) : s.addAll [] = s := rfl

@[simp] theorem addAll_cons (s : Store α) (fact : Fact α) (rest : List (Fact α)) :
    s.addAll (fact :: rest) = (s.add fact).addAll rest := rfl

theorem grows_addAll (s : Store α) (facts : List (Fact α)) : Grows s (s.addAll facts) :=
  grows_foldl grows_add facts s

theorem mem_addAll {s : Store α} {facts : List (Fact α)} {known : Fact α}
    (h : known ∈ (s.addAll facts).facts) : known ∈ s.facts ∨ known ∈ facts := by
  induction facts generalizing s with
  | nil => exact .inl h
  | cons fact rest ih =>
      rcases ih h with h | h
      · rcases mem_add h with h | rfl
        · exact .inl h
        · exact .inr List.mem_cons_self
      · exact .inr (List.mem_cons_of_mem _ h)

-- What is appended is what was given and not known yet.
theorem exists_append_addAll (s : Store α) (facts : List (Fact α)) :
    ∃ learned, (s.addAll facts).facts = s.facts ++ learned ∧ learned.Sublist facts ∧
      ∀ fact ∈ learned, s.knows fact = false := by
  induction facts generalizing s with
  | nil => exact ⟨[], by simp⟩
  | cons fact rest ih =>
      obtain ⟨learned, happend, hsublist, hnew⟩ := ih (s.add fact)
      have hfresh : ∀ known ∈ learned, s.knows known = false := fun known hknown =>
        Bool.eq_false_iff.mpr fun hk =>
          Bool.eq_false_iff.mp (hnew known hknown) ((grows_add s fact).knows hk)
      cases hk : s.knows fact with
      | true =>
          rw [add_of_knows hk] at happend
          exact ⟨learned, by rw [addAll_cons, add_of_knows hk, happend], hsublist.cons fact, hfresh⟩
      | false =>
          refine ⟨fact :: learned, ?_, hsublist.cons_cons fact,
            List.forall_mem_cons.mpr ⟨hk, hfresh⟩⟩
          rw [addAll_cons, happend, add_of_not_knows hk, List.append_assoc, List.singleton_append]

-- Facts that repeat themselves are known once they have been added.
theorem knows_addAll {s : Store α} {facts : List (Fact α)} {fact : Fact α} (h : fact ∈ facts)
    (hself : ∀ known ∈ (s.addAll facts).facts, known.sameAs s.epsilon known = true) :
    (s.addAll facts).knows fact = true := by
  obtain ⟨t, hbefore, hafter⟩ := exists_turn grows_add h s
  refine Grows.knows hafter ?_
  cases hk : t.knows fact with
  | true => rwa [add_of_knows hk]
  | false =>
      have hadded : fact ∈ (t.add fact).facts := by simp [add_of_not_knows hk]
      refine List.any_eq_true.mpr ⟨fact, hadded, ?_⟩
      rw [(grows_add t fact).epsilon, hbefore.epsilon]
      exact hself fact (hafter.mem hadded)

-- A fact that only repeats itself is never dropped.
theorem mem_addAll_of_exact {s : Store α} {facts : List (Fact α)} {fact : Fact α}
    (hexact : ∀ {bound : α} {known : Fact α}, known.sameAs bound fact = true → known = fact)
    (h : fact ∈ facts) : fact ∈ (s.addAll facts).facts := by
  obtain ⟨t, -, hafter⟩ := exists_turn grows_add h s
  refine hafter.mem ?_
  cases hk : t.knows fact with
  | true =>
      obtain ⟨known, hknown, hsame⟩ := List.any_eq_true.mp hk
      rwa [add_of_knows hk, ← hexact hsame]
  | false => simp [add_of_not_knows hk]

-- A list of facts changes nothing exactly when each of them repeats one that is there.
theorem addAll_eq_self_iff {s : Store α} {facts : List (Fact α)} :
    s.addAll facts = s ↔ ∀ fact ∈ facts, s.knows fact = true := by
  rw [addAll, foldl_eq_self_iff grows_add]
  simp only [add_eq_self_iff]

-- No fact repeats an earlier one.
def Distinct (s : Store α) : Prop :=
  s.facts.Pairwise fun known later => known.sameAs s.epsilon later = false

theorem distinct_empty (epsilon : α) : (empty epsilon).Distinct := .nil

theorem Distinct.add {s : Store α} (h : s.Distinct) (fact : Fact α) : (s.add fact).Distinct := by
  cases hk : s.knows fact with
  | true => rwa [add_of_knows hk]
  | false =>
      rw [add_of_not_knows hk]
      refine List.pairwise_append.mpr ⟨h, List.pairwise_singleton _ _, ?_⟩
      intro known hknown later hlater
      rw [List.mem_singleton.mp hlater]
      exact Bool.eq_false_iff.mpr (List.any_eq_false.mp hk known hknown)

theorem Distinct.addAll {s : Store α} (h : s.Distinct) (facts : List (Fact α)) :
    (s.addAll facts).Distinct := by
  induction facts generalizing s with
  | nil => exact h
  | cons fact rest ih => exact ih (h.add fact)

end PlaneSketch.Store

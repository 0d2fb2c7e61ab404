import PlaneSketch.Proofs.Sketch.WellFormed

namespace PlaneSketch

-- A handle that can be written out.
def Handle.Short (id : Handle) : Prop := id.natAbs < Text.firstLong

instance (id : Handle) : Decidable id.Short := inferInstanceAs (Decidable (_ < _))

-- The first handle that cannot.
def Handle.firstLong : Handle := (Text.firstLong : Nat)

theorem Handle.not_short_firstLong : ¬firstLong.Short := by
  rw [Short, firstLong, Int.natAbs_natCast]
  exact Nat.lt_irrefl _

-- A computation that gives something where a condition holds, and this error where it does not.
def Hinges {ε β : Type} (x : Except ε β) (condition : Prop) (error : ε) : Prop :=
  (condition → ∃ b, x = .ok b) ∧ (¬condition → x = .error error)

namespace Hinges

variable {ε β γ : Type} {x : Except ε β} {P Q : Prop} {error : ε}

theorem ok (b : β) : Hinges (.ok b) True error := ⟨fun _ => ⟨b, rfl⟩, fun h => absurd trivial h⟩

theorem ok_iff (h : Hinges x P error) : (∃ b, x = .ok b) ↔ P := by
  refine ⟨fun ⟨b, hb⟩ => ?_, h.1⟩
  by_contra hP
  rw [h.2 hP] at hb
  cases hb

theorem congr (h : Hinges x P error) (hPQ : P ↔ Q) : Hinges x Q error := by
  rwa [← propext hPQ]

-- One after the other gives something where both conditions hold.
theorem bind (h : Hinges x P error) {f : β → Except ε γ} (hf : ∀ b, Hinges (f b) Q error) :
    Hinges (x >>= f) (P ∧ Q) error := by
  by_cases hP : P
  · obtain ⟨b, rfl⟩ := h.1 hP
    exact (hf b).congr (and_iff_right hP).symm
  · rw [h.2 hP]
    exact ⟨fun hboth => absurd hboth.1 hP, fun _ => rfl⟩

theorem mapM {f : γ → Except ε β} {condition : γ → Prop} {xs : List γ}
    (h : ∀ x ∈ xs, Hinges (f x) (condition x) error) :
    Hinges (xs.mapM f) (∀ x ∈ xs, condition x) error := by
  induction xs with
  | nil => exact (ok []).congr (by simp)
  | cons x rest ih =>
      have hrest := ih fun x hx => h x (List.mem_cons_of_mem _ hx)
      rw [List.mapM_cons]
      refine ((h x List.mem_cons_self).bind fun y => hrest.bind fun ys => ok (y :: ys)).congr ?_
      rw [and_true, List.forall_mem_cons]

end Hinges

namespace Sketch

variable {s : Sketch} {id : Handle}

-- The name an element goes by if its handle can be written out.
def name (s : Sketch) (id : Handle) : Text := (s.labels.get? id).getD ("#" ++ toString id)

theorem label_eq (s : Sketch) (id : Handle) :
    s.label id = if id.Short then .ok (s.name id) else .error .tooMany := by
  have hdecimal : Text.decimal id = if id.Short then .ok (toString id) else .error .tooMany := rfl
  rw [label, hdecimal]
  by_cases h : id.Short <;> simp only [h, if_true, if_false] <;> rfl

theorem label_congr {t : Sketch} (h : t.name id = s.name id) : t.label id = s.label id := by
  rw [label_eq, label_eq, h]

theorem label_of_short (h : id.Short) : s.label id = .ok (s.name id) := by
  rw [label_eq, if_pos h]

theorem hinges_label (s : Sketch) (id : Handle) : Hinges (s.label id) id.Short .tooMany :=
  ⟨fun h => ⟨_, label_of_short h⟩, fun h => by rw [label_eq, if_neg h]⟩

end Sketch

end PlaneSketch

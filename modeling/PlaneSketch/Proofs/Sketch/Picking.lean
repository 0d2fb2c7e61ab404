import PlaneSketch.Proofs.Sketch.Moved
import PlaneSketch.Sketch.Pick

namespace PlaneSketch

-- The computation succeeds, with a value that has the property.
def Gives {ε β : Type} (x : Except ε β) (P : β → Prop) : Prop := ∃ b, x = .ok b ∧ P b

namespace Gives

variable {ε β γ : Type} {x : Except ε β} {P : β → Prop} {Q : γ → Prop}

theorem bind {f : β → Except ε γ} (hx : Gives x P) (hf : ∀ b, P b → Gives (f b) Q) :
    Gives (x >>= f) Q := by
  obtain ⟨b, rfl, hb⟩ := hx
  exact hf b hb

theorem mapM {f : γ → Except ε β} {xs : List γ} (h : ∀ x ∈ xs, Gives (f x) P) :
    Gives (xs.mapM f) fun ys => ∀ y ∈ ys, P y := by
  induction xs with
  | nil => exact ⟨[], rfl, by simp⟩
  | cons x rest ih =>
      obtain ⟨y, hy, hP⟩ := h x List.mem_cons_self
      obtain ⟨ys, hys, hall⟩ := ih fun x hx => h x (List.mem_cons_of_mem _ hx)
      refine ⟨y :: ys, ?_, by simpa using ⟨hP, hall⟩⟩
      rw [List.mapM_cons, hy, hys]
      rfl

-- What a test that succeeds everywhere lets through was there before.
theorem filterM {test : β → Except ε Bool} {xs : List β}
    (h : ∀ x ∈ xs, Gives (test x) fun _ => True) :
    Gives (xs.filterM test) fun kept => ∀ x ∈ kept, x ∈ xs := by
  have hscan : ∀ (rest kept : List β), (∀ x ∈ rest, x ∈ xs) → (∀ x ∈ kept, x ∈ xs) →
      Gives (rest.filterAuxM test kept) fun kept => ∀ x ∈ kept, x ∈ xs := by
    intro rest
    induction rest with
    | nil => exact fun kept _ hkept => ⟨kept, rfl, hkept⟩
    | cons x rest ih =>
        intro kept hrest hkept
        have hx := hrest x List.mem_cons_self
        refine (h x hx).bind fun b _ => ih _ (fun y hy => hrest y (List.mem_cons_of_mem _ hy)) ?_
        cases b with
        | true => exact List.forall_mem_cons.mpr ⟨hx, hkept⟩
        | false => exact hkept
  refine (hscan xs [] (fun x hx => hx) (by simp)).bind fun kept hkept => ?_
  exact ⟨kept.reverse, rfl, fun x hx => hkept x (List.mem_reverse.mp hx)⟩

end Gives

theorem mem_of_closest {limit : Float} {candidates : List (Handle × Float)} {id : Handle}
    (h : closest limit candidates = some id) : ∃ gap, (id, gap) ∈ candidates := by
  obtain ⟨found, hfound, rfl⟩ := Option.map_eq_some_iff.mp h
  refine ⟨found.2, ?_⟩
  have hnone : ∀ c ∈ (none : Option (Handle × Float)), c ∈ candidates := by simp
  -- The best so far is one of the candidates, whatever the comparisons say.
  refine List.foldlRecOn candidates _ (motive := fun best => ∀ c ∈ best, c ∈ candidates) hnone ?_
    found hfound
  intro best hbest candidate hcandidate
  split
  · exact hbest
  split
  · simpa using hcandidate
  split
  · simpa using hcandidate
  · exact hbest

namespace Sketch

variable {s : Sketch} {e : Element} {p : Handle}

theorem HasPoint.positionAt (h : s.HasPoint p) : Gives (s.positionAt p) fun _ => True := by
  obtain ⟨position, hpoint⟩ := hasPoint_iff.mp h
  unfold Sketch.positionAt
  cases hlast : (s.points.filter fun q => q.1 == p).getLast? with
  | none =>
      have hmem : (p, position) ∈ s.points.filter fun q => q.1 == p := by simp [hpoint]
      rw [List.getLast?_eq_none_iff.mp hlast] at hmem
      cases hmem
  | some found => exact ⟨found.2, rfl, trivial⟩

section Linked

variable (hs : s.Linked)
include hs

theorem Linked.positionAt (he : e ∈ s.elements) (hp : (p, .point) ∈ e.references) :
    Gives (s.positionAt p) fun _ => True :=
  HasPoint.positionAt (hs.exists_point he hp)

theorem Linked.labelPosition (he : e ∈ s.elements) (hkind : e.kind.isDimension = true) :
    Gives (s.labelPosition e.id) fun _ => True := by
  unfold Sketch.labelPosition
  rw [get?_of_mem hs.distinct he]
  cases e with
  | distance id a b value placement measureOnly =>
      refine (hs.positionAt he (p := a) (by simp [Element.references])).bind fun _ _ => ?_
      refine (hs.positionAt he (p := b) (by simp [Element.references])).bind fun _ _ => ?_
      exact ⟨_, rfl, trivial⟩
  | lineDistance id q l value placement measureOnly =>
      obtain ⟨a, b, hline⟩ := hs.exists_line (l := l) he (by simp [Element.references])
      have hmem := (mem_of_get? hline).1
      simp only [lineEnds_eq_ok.mpr hline]
      refine (hs.positionAt he (p := q) (by simp [Element.references])).bind fun _ _ => ?_
      refine (hs.positionAt hmem (p := a) (by simp [Element.references])).bind fun _ _ => ?_
      refine (hs.positionAt hmem (p := b) (by simp [Element.references])).bind fun _ _ => ?_
      exact ⟨_, rfl, trivial⟩
  | _ => cases hkind

theorem Linked.dimensionGaps (near : Point Float) :
    Gives (s.dimensionGaps near) fun gaps => ∀ gap ∈ gaps, s.contains gap.1 = true := by
  refine Gives.mapM fun e he => ?_
  obtain ⟨he, hkind⟩ := List.mem_filter.mp he
  exact (hs.labelPosition he hkind).bind fun _ _ => ⟨_, rfl, contains_iff.mpr ⟨e, he, rfl⟩⟩

theorem Linked.curveGap (near : Point Float) (he : e ∈ s.elements) :
    Gives (s.curveGap near e) fun gaps => ∀ gap ∈ gaps, s.contains gap.1 = true := by
  cases e with
  | line id a b =>
      refine (hs.positionAt he (p := a) (by simp [Element.references])).bind fun _ _ => ?_
      refine (hs.positionAt he (p := b) (by simp [Element.references])).bind fun _ _ => ?_
      exact ⟨_, rfl, by simpa [Element.id] using contains_iff.mpr ⟨_, he, rfl⟩⟩
  | arc id a b center =>
      refine (hs.positionAt he (p := a) (by simp [Element.references])).bind fun _ _ => ?_
      refine (hs.positionAt he (p := b) (by simp [Element.references])).bind fun _ _ => ?_
      refine (hs.positionAt he (p := center) (by simp [Element.references])).bind fun _ _ => ?_
      exact ⟨_, rfl, by simpa [Element.id] using contains_iff.mpr ⟨_, he, rfl⟩⟩
  | _ => exact ⟨[], rfl, by simp⟩

theorem Linked.curveGaps (near : Point Float) :
    Gives (s.curveGaps near) fun gaps => ∀ gap ∈ gaps, s.contains gap.1 = true := by
  refine (Gives.mapM fun e he => hs.curveGap near he).bind fun gaps hgaps => ?_
  refine ⟨_, rfl, fun gap hgap => ?_⟩
  obtain ⟨ofCurve, hcurve, hgap⟩ := List.mem_flatten.mp hgap
  exact hgaps ofCurve hcurve gap hgap

end Linked

theorem hasPoint_of_pointNear {near : Point Float} {limit : Float}
    (h : s.pointNear near limit = some p) : s.HasPoint p := by
  obtain ⟨gap, hgap⟩ := mem_of_closest h
  obtain ⟨⟨q, position⟩, hpoint, heq⟩ := List.mem_map.mp hgap
  obtain ⟨rfl, -⟩ := Prod.mk.inj heq
  exact hasPoint_iff.mpr ⟨position, hpoint⟩

-- What is under the cursor can be asked for everywhere, and it is an element of the sketch.
theorem Linked.elementNear (hs : s.Linked) (near : Point Float) (viewSize : Float) :
    Gives (s.elementNear near viewSize) fun found => ∀ id ∈ found, s.contains id = true := by
  refine (hs.dimensionGaps near).bind fun dimensions hdimensions => ?_
  split
  · rename_i id hid
    obtain ⟨gap, hgap⟩ := mem_of_closest hid
    exact ⟨_, rfl, by simpa using hdimensions _ hgap⟩
  split
  · rename_i id hid
    exact ⟨_, rfl, by simpa using (hasPoint_of_pointNear hid).contains⟩
  refine (hs.curveGaps near).bind fun curves hcurves => ⟨_, rfl, fun id hid => ?_⟩
  obtain ⟨gap, hgap⟩ := mem_of_closest hid
  exact hcurves _ hgap

theorem hasPoint_of_mem_pointsInBox {box : Box Float} (h : p ∈ s.pointsInBox box) :
    s.HasPoint p := by
  obtain ⟨⟨q, position⟩, hpoint, rfl⟩ := List.mem_map.mp h
  exact hasPoint_iff.mpr ⟨position, (List.mem_filter.mp hpoint).1⟩

-- A selection goes through wherever its test does, and selects elements of the sketch.
theorem gives_selectInBox {box : Box Float} {test : Handle → Handle → Except LookupError Bool}
    (htest : ∀ l a b, .line l a b ∈ s.elements → Gives (test a b) fun _ => True) :
    Gives (s.selectInBox box test) fun found => ∀ id ∈ found, s.contains id = true := by
  have hlines : ∀ line ∈ s.lines, Gives (test line.2.1 line.2.2) fun _ => True :=
    fun line hline => htest _ _ _ (mem_lines.mp hline)
  refine (Gives.filterM hlines).bind fun lines hkept => ⟨_, rfl, fun id hid => ?_⟩
  rcases List.mem_append.mp hid with hid | hid
  · exact (hasPoint_of_mem_pointsInBox hid).contains
  · obtain ⟨⟨l, a, b⟩, hline, rfl⟩ := List.mem_map.mp hid
    exact contains_iff.mpr ⟨_, mem_lines.mp (hkept _ hline), rfl⟩

theorem Linked.fullyInBox (hs : s.Linked) (box : Box Float) :
    Gives (s.fullyInBox box) fun found => ∀ id ∈ found, s.contains id = true := by
  refine gives_selectInBox fun l a b hline => ?_
  refine (hs.positionAt hline (p := a) (by simp [Element.references])).bind fun _ _ => ?_
  split
  · refine (hs.positionAt hline (p := b) (by simp [Element.references])).bind fun _ _ => ?_
    exact ⟨_, rfl, trivial⟩
  · exact ⟨_, rfl, trivial⟩

theorem Linked.partlyInBox (hs : s.Linked) (box : Box Float) :
    Gives (s.partlyInBox box) fun found => ∀ id ∈ found, s.contains id = true := by
  refine gives_selectInBox fun l a b hline => ?_
  refine (hs.positionAt hline (p := a) (by simp [Element.references])).bind fun _ _ => ?_
  refine (hs.positionAt hline (p := b) (by simp [Element.references])).bind fun _ _ => ?_
  exact ⟨_, rfl, trivial⟩

end Sketch

end PlaneSketch

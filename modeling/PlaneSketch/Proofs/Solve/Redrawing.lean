import PlaneSketch.Proofs.Solve.Seeding

namespace PlaneSketch

namespace Element

-- A dimension with its label drawn elsewhere; other elements have no label of their own.
def placed (placement : Placement Float) : Element → Element
  | distance id a b value _ measureOnly => distance id a b value placement measureOnly
  | lineDistance id p l value _ measureOnly => lineDistance id p l value placement measureOnly
  | e => e

-- A dimension that is only there to be read.
def measuresOnly : Element → Bool
  | distance _ _ _ _ _ measureOnly => measureOnly
  | lineDistance _ _ _ _ _ measureOnly => measureOnly
  | _ => false

variable (placement : Placement Float) (e : Element)

@[simp] theorem id_placed : (e.placed placement).id = e.id := by cases e <;> rfl

@[simp] theorem kind_placed : (e.placed placement).kind = e.kind := by cases e <;> rfl

@[simp] theorem references_placed : (e.placed placement).references = e.references := by
  cases e <;> rfl

@[simp] theorem numbers_placed : (e.placed placement).numbers = e.numbers := by cases e <;> rfl

-- References lead to points, lines and arcs, which are drawn without a label.
theorem placed_of_kind {e : Element} (h : e.kind.isDimension = false) :
    e.placed placement = e := by
  cases e with
  | distance => cases h
  | lineDistance => cases h
  | _ => rfl

theorem kind_of_measuresOnly {e : Element} (h : e.measuresOnly = true) :
    e.kind.isDimension = true := by
  cases e with
  | distance => rfl
  | lineDistance => rfl
  | _ => cases h

theorem kind_of_mem_references {e : Element} {r : Handle × Kind} (hr : r ∈ e.references) :
    r.2 = .point ∨ r.2 = .line ∨ r.2 = .arc := by
  cases e <;> simp only [references, List.mem_cons, List.not_mem_nil, or_false] at hr <;> grind

end Element

-- The second list shows the first one differently: labels of dimensions may be elsewhere, and some
-- dimensions that only measure and some lines are left out.
inductive Redrawn : List Element → List Element → Prop
  | nil : Redrawn [] []
  | keep {es es' : List Element} (e : Element) (placement : Placement Float)
      (h : Redrawn es es') : Redrawn (e :: es) (e.placed placement :: es')
  | dropDimension {es es' : List Element} {e : Element} (hmeasures : e.measuresOnly = true)
      (h : Redrawn es es') : Redrawn (e :: es) es'
  | dropLine {es es' : List Element} (id a b : Handle) (h : Redrawn es es') :
      Redrawn (.line id a b :: es) es'

namespace Redrawn

variable {es es' : List Element} {e : Element}

theorem ids (h : Redrawn es es') : (es'.map Element.id).Sublist (es.map Element.id) := by
  induction h with
  | nil => exact .slnil
  | keep e placement _ ih => simpa using ih.cons_cons e.id
  | dropDimension _ _ ih => exact ih.cons _
  | dropLine id a b _ ih => exact ih.cons id

theorem exists_of_mem (h : Redrawn es es') {e' : Element} (he' : e' ∈ es') :
    ∃ e ∈ es, ∃ placement, e' = e.placed placement := by
  induction h with
  | nil => cases he'
  | keep e placement _ ih =>
      rcases List.mem_cons.mp he' with rfl | he'
      · exact ⟨e, List.mem_cons_self, placement, rfl⟩
      · obtain ⟨f, hf, hplaced⟩ := ih he'
        exact ⟨f, List.mem_cons_of_mem _ hf, hplaced⟩
  | dropDimension _ _ ih =>
      obtain ⟨f, hf, hplaced⟩ := ih he'
      exact ⟨f, List.mem_cons_of_mem _ hf, hplaced⟩
  | dropLine _ _ _ _ ih =>
      obtain ⟨f, hf, hplaced⟩ := ih he'
      exact ⟨f, List.mem_cons_of_mem _ hf, hplaced⟩

-- Points and arcs always stay.
theorem mem_of_kind (h : Redrawn es es') (he : e ∈ es) (hline : e.kind ≠ .line)
    (hdimension : e.kind.isDimension = false) : e ∈ es' := by
  induction h with
  | nil => cases he
  | keep f placement _ ih =>
      rcases List.mem_cons.mp he with rfl | he
      · rw [Element.placed_of_kind placement hdimension]
        exact List.mem_cons_self
      · exact List.mem_cons_of_mem _ (ih he)
  | dropDimension hmeasures _ ih =>
      rcases List.mem_cons.mp he with rfl | he
      · rw [Element.kind_of_measuresOnly hmeasures] at hdimension
        cases hdimension
      · exact ih he
  | dropLine id a b _ ih =>
      rcases List.mem_cons.mp he with rfl | he
      · exact absurd rfl hline
      · exact ih he

theorem points (h : Redrawn es es') (labels labels' : OrderedMap Handle Text) :
    (Sketch.mk es' labels').points = (Sketch.mk es labels).points := by
  unfold Sketch.points
  induction h with
  | nil => rfl
  | keep e placement _ ih => cases e <;> simpa [Element.placed] using ih
  | @dropDimension _ _ e hmeasures _ ih =>
      cases e with
      | distance => exact ih
      | lineDistance => exact ih
      | _ => cases hmeasures
  | dropLine id a b _ ih => exact ih

end Redrawn

namespace Sketch

-- A well-formed sketch and another one that shows it differently, where no line is missing that
-- anything refers to. Of the names of the elements nothing is said.
structure Shows (s t : Sketch) : Prop where
  wellFormed : s.WellFormed
  redrawn : Redrawn s.elements t.elements
  unused : ∀ line ∈ s.elements, line.kind = .line → line ∉ t.elements →
    ∀ e ∈ t.elements, ∀ r ∈ e.references, r.1 ≠ line.id

namespace Shows

variable {s t : Sketch} {e : Element}

theorem distinct (h : Shows s t) : (t.elements.map Element.id).Nodup :=
  h.redrawn.ids.nodup h.wellFormed.distinct

-- What is referred to is still there, and unchanged.
theorem get?_of_references (h : Shows s t) (he : e ∈ t.elements) {r : Handle × Element.Kind}
    (hr : r ∈ e.references) :
    t.get? r.1 = s.get? r.1 ∧ ∃ target, s.get? r.1 = some target ∧ target.kind = r.2 := by
  obtain ⟨f, hf, placement, rfl⟩ := h.redrawn.exists_of_mem he
  rw [Element.references_placed] at hr
  obtain ⟨target, htarget, hkind⟩ := h.wellFormed.references f hf r hr
  obtain ⟨hmem, hid⟩ := mem_of_get? htarget
  have hstays : target ∈ t.elements := by
    by_contra hmissing
    rcases Element.kind_of_mem_references hr with hpoint | hline | harc
    · exact hmissing (h.redrawn.mem_of_kind hmem (by simp [hkind, hpoint])
        (by rw [hkind, hpoint]; rfl))
    · exact h.unused target hmem (hkind.trans hline) hmissing _ he r (by simpa using hr) hid.symm
    · exact hmissing (h.redrawn.mem_of_kind hmem (by simp [hkind, harc])
        (by rw [hkind, harc]; rfl))
  refine ⟨?_, target, htarget, hkind⟩
  rw [htarget, ← hid]
  exact get?_of_mem h.distinct hstays

theorem points (h : Shows s t) : t.points = s.points := h.redrawn.points s.labels t.labels

theorem wellFormed_right (h : Shows s t) : t.WellFormed where
  distinct := h.distinct
  known := by
    intro e he
    obtain ⟨f, hf, placement, rfl⟩ := h.redrawn.exists_of_mem he
    rw [Element.kind_placed]
    exact h.wellFormed.known f hf
  references := by
    intro e he r hr
    obtain ⟨hsame, htarget⟩ := h.get?_of_references he hr
    rwa [hsame]
  finite := by
    intro e he x hx
    obtain ⟨f, hf, placement, rfl⟩ := h.redrawn.exists_of_mem he
    rw [Element.numbers_placed] at hx
    exact h.wellFormed.finite f hf x hx

end Shows

end Sketch

namespace Solve

variable {s t : Sketch} {e : Element}

theorem stated_of_measuresOnly (h : e.measuresOnly = true) : stated s e = [] := by
  cases e with
  | distance id a b value placement measureOnly =>
      obtain rfl : measureOnly = true := h
      rfl
  | lineDistance id p line value placement measureOnly =>
      obtain rfl : measureOnly = true := h
      rfl
  | _ => cases h

theorem stated_placed (s : Sketch) (e : Element) (placement : Placement Float) :
    stated s (e.placed placement) = stated s e := by
  cases e <;> rfl

theorem stated_of_shows (h : Sketch.Shows s t) (he : e ∈ s.elements) {placement : Placement Float}
    (he' : e.placed placement ∈ t.elements) : stated t (e.placed placement) = stated s e := by
  rw [stated_placed]
  refine stated_congr h.wellFormed he fun r hr _ => ?_
  exact (h.get?_of_references he' (by simpa using hr)).1

-- What is shown differently states the same, and what is left out states nothing.
theorem flatMap_stated_of_shows (h : Sketch.Shows s t) {es es' : List Element}
    (hredrawn : Redrawn es es') (hes : ∀ e ∈ es, e ∈ s.elements)
    (hes' : ∀ e ∈ es', e ∈ t.elements) :
    es'.flatMap (stated t) = es.flatMap (stated s) := by
  induction hredrawn with
  | nil => rfl
  | keep e placement _ ih =>
      rw [List.forall_mem_cons] at hes hes'
      rw [List.flatMap_cons, List.flatMap_cons, stated_of_shows h hes.1 hes'.1, ih hes.2 hes'.2]
  | dropDimension hmeasures _ ih =>
      rw [List.forall_mem_cons] at hes
      rw [List.flatMap_cons, stated_of_measuresOnly hmeasures, List.nil_append, ih hes.2 hes']
  | dropLine id a b _ ih =>
      rw [List.forall_mem_cons] at hes
      rw [List.flatMap_cons, ih hes.2 hes']
      rfl

theorem propagated_of_shows (h : Sketch.Shows s t) (options : Options Float) :
    propagated ruler t options = propagated ruler s options := by
  have hseeded : seeded t options.epsilon = seeded s options.epsilon := by
    rw [seeded, flatMap_stated_of_shows h h.redrawn (fun _ he => he) fun _ he => he, seeded]
  rw [propagated, initialPositions, h.points, hseeded, propagated, initialPositions]

-- What is only there to be looked at does not reach the solver.
theorem solve_redrawn (hs : s.check = .ok ()) (hredrawn : Redrawn s.elements t.elements)
    (hunused : ∀ line ∈ s.elements, line.kind = .line → line ∉ t.elements →
      ∀ e ∈ t.elements, ∀ r ∈ e.references, r.1 ≠ line.id) (options : Options Float) :
    ∃ plain redrawn, solve ruler s options = .ok plain ∧ solve ruler t options = .ok redrawn ∧
      redrawn.facts = plain.facts ∧ redrawn.passes = plain.passes ∧
      redrawn.converged = plain.converged ∧ redrawn.resolved = plain.resolved := by
  have hshows : Sketch.Shows s t := ⟨Sketch.wellFormed_of_check hs, hredrawn, hunused⟩
  refine ⟨_, _, solve_eq_ok hshows.wellFormed options,
    solve_eq_ok hshows.wellFormed_right options, ?_⟩
  rw [propagated_of_shows hshows]
  exact ⟨rfl, rfl, rfl, rfl⟩

-- A third point in the reach of two fixed ones, with a line under it and two dimensions that only
-- measure, of which one goes to the line.
def spanSketch : Sketch where
  elements :=
    [.point 0 ⟨0.0, 0.0⟩, .point 1 ⟨30.0, 0.0⟩, .point 2 ⟨10.0, 10.0⟩, .line 3 0 1, .line 4 1 2,
      .fixed 10 0 ⟨0.0, 0.0⟩, .fixed 11 1 ⟨30.0, 0.0⟩, .distance 12 0 2 25.0 ⟨0.5, 1.0⟩ false,
      .lineDistance 13 2 3 7.0 ⟨0.5, 1.0⟩ true, .distance 14 1 2 25.0 ⟨0.5, 1.0⟩ false,
      .distance 15 0 1 9.0 ⟨0.5, 1.0⟩ true]
  labels := .empty

-- The same without the line, the dimension that went to it and one placement.
def bareSpanSketch : Sketch where
  elements :=
    [.point 0 ⟨0.0, 0.0⟩, .point 1 ⟨30.0, 0.0⟩, .point 2 ⟨10.0, 10.0⟩, .line 4 1 2,
      .fixed 10 0 ⟨0.0, 0.0⟩, .fixed 11 1 ⟨30.0, 0.0⟩, .distance 12 0 2 25.0 ⟨0.25, -6.0⟩ false,
      .distance 14 1 2 25.0 ⟨0.5, 1.0⟩ false, .distance 15 0 1 9.0 ⟨0.75, 2.0⟩ true]
  labels := ⟨[(2, "tip"), (12, "left")]⟩

theorem solve_redrawn_span :
    ∃ plain redrawn, solve .standard spanSketch .standard = .ok plain ∧
      solve .standard bareSpanSketch .standard = .ok redrawn ∧
      plain.resolved.get? 2 = some ⟨15.0, 20.0⟩ ∧ redrawn.facts = plain.facts ∧
      redrawn.passes = plain.passes ∧ redrawn.converged = plain.converged ∧
      redrawn.resolved = plain.resolved := by
  have hcheck : spanSketch.check = .ok () := Sketch.check_eq_ok_of_isOk (by decide +kernel)
  have hfound : (solve .standard spanSketch .standard).toOption.map (fun solution =>
      solution.resolved.get? 2) = some (some ⟨15.0, 20.0⟩) := by decide +kernel
  have hredrawn : Redrawn spanSketch.elements bareSpanSketch.elements :=
    .keep _ ⟨0.5, 0.0⟩ (.keep _ ⟨0.5, 0.0⟩ (.keep _ ⟨0.5, 0.0⟩ (.dropLine 3 0 1
      (.keep _ ⟨0.5, 0.0⟩ (.keep _ ⟨0.5, 0.0⟩ (.keep _ ⟨0.5, 0.0⟩ (.keep _ ⟨0.25, -6.0⟩
        (.dropDimension rfl (.keep _ ⟨0.5, 1.0⟩ (.keep _ ⟨0.75, 2.0⟩ .nil))))))))))
  have hunused : ∀ line ∈ spanSketch.elements, line.kind = .line →
      line ∉ bareSpanSketch.elements → ∀ e ∈ bareSpanSketch.elements, ∀ r ∈ e.references,
        r.1 ≠ line.id := by decide +kernel
  obtain ⟨plain, redrawn, hplain, hsolve, hsame⟩ :=
    solve_redrawn hcheck hredrawn hunused .standard
  rw [hplain] at hfound
  exact ⟨plain, redrawn, hplain, hsolve, Option.some.inj hfound, hsame⟩

end Solve

end PlaneSketch

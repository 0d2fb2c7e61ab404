import PlaneSketch.Proofs.Sketch.Moved
import PlaneSketch.Proofs.Solve.Conclusion
import PlaneSketch.Solve.Solution

namespace PlaneSketch.Solve

-- The facts an element states; none where a lookup it needs would fail.
def stated (s : Sketch) (e : Element) : List (Fact Float) :=
  match statements s e with
  | .ok facts => facts
  | .error _ => []

-- The store propagation starts from: everything the elements state, in their order.
def seeded (s : Sketch) (epsilon : Float) : Store Float :=
  (Store.empty epsilon).addAll (s.elements.flatMap (stated s))

variable {ruler : Ruler Float} {s : Sketch} {e : Element} {fact : Fact Float}

theorem statements_eq_ok (hs : s.WellFormed) (he : e ∈ s.elements) :
    statements s e = .ok (stated s e) := by
  have hok : ∃ facts, statements s e = .ok facts := by
    cases e with
    | distance id a b value placement measureOnly => cases measureOnly <;> simp [statements]
    | axisAligned id axis a b => cases axis <;> simp [statements]
    | lineDistance id p line value placement measureOnly =>
        obtain ⟨a, b, hline⟩ := hs.exists_line (l := line) he (by simp [Element.references])
        cases measureOnly <;>
          simp [statements, Sketch.lineEnds_eq_ok.mpr hline, bind, Except.bind]
    | pointOnLine id p line =>
        obtain ⟨a, b, hline⟩ := hs.exists_line (l := line) he (by simp [Element.references])
        simp [statements, Sketch.lineEnds_eq_ok.mpr hline, bind, Except.bind]
    | pointOnArc id p arc =>
        obtain ⟨a, b, center, harc⟩ := hs.exists_arc (c := arc) he (by simp [Element.references])
        simp [statements, Sketch.arcRadius_eq_ok.mpr ⟨b, harc⟩, bind, Except.bind]
    | _ => exact ⟨_, rfl⟩
  obtain ⟨facts, hfacts⟩ := hok
  simp [stated, hfacts]

-- The only thing an element asks of the rest of the sketch is what its lines and arcs are.
theorem stated_congr {t : Sketch} (hs : s.WellFormed) (he : e ∈ s.elements)
    (hget : ∀ r ∈ e.references, r.2 ≠ .point → t.get? r.1 = s.get? r.1) :
    stated t e = stated s e := by
  have hends (line : Handle) (hl : (line, .line) ∈ e.references) :
      ∃ a b, s.lineEnds line = .ok (a, b) ∧ t.lineEnds line = .ok (a, b) := by
    obtain ⟨a, b, hline⟩ := hs.exists_line he hl
    exact ⟨a, b, Sketch.lineEnds_eq_ok.mpr hline,
      Sketch.lineEnds_eq_ok.mpr ((hget _ hl (by simp)).trans hline)⟩
  cases e with
  | lineDistance id p line value placement measureOnly =>
      obtain ⟨a, b, hs, ht⟩ := hends line (by simp [Element.references])
      simp only [stated, statements, hs, ht]
  | pointOnLine id p line =>
      obtain ⟨a, b, hs, ht⟩ := hends line (by simp [Element.references])
      simp only [stated, statements, hs, ht]
  | pointOnArc id p arc =>
      have href : (arc, Element.Kind.arc) ∈ (Element.pointOnArc id p arc).references := by
        simp [Element.references]
      obtain ⟨a, b, center, harc⟩ := hs.exists_arc he href
      have hradius := Sketch.arcRadius_eq_ok.mpr ⟨b, harc⟩
      have hradius' := Sketch.arcRadius_eq_ok.mpr ⟨b, (hget _ href (by simp)).trans harc⟩
      simp only [stated, statements, hradius, hradius']
  | axisAligned id axis a b => cases axis <;> rfl
  | _ => rfl

-- Elements state nothing about where the points are drawn.
theorem statements_withPositions (s : Sketch) (m : OrderedMap Handle (Point Float)) (e : Element) :
    statements (s.withPositions m) (Sketch.moveElement m e) = statements s e := by
  cases e with
  | axisAligned id axis a b => cases axis <;> rfl
  | lineDistance id p line value placement measureOnly =>
      simp only [Sketch.moveElement, statements, Sketch.lineEnds_withPositions]
  | pointOnLine id p line =>
      simp only [Sketch.moveElement, statements, Sketch.lineEnds_withPositions]
  | pointOnArc id p arc =>
      simp only [Sketch.moveElement, statements, Sketch.arcRadius_withPositions]
  | _ => rfl

theorem seed_withPositions (s : Sketch) (m : OrderedMap Handle (Point Float))
    (store : Store Float) : seed (s.withPositions m) store = seed s store := by
  have helements : (s.withPositions m).elements = s.elements.map (Sketch.moveElement m) := rfl
  rw [seed, helements, List.foldlM_map]
  simp only [statements_withPositions]
  rfl

theorem seeded_withPositions (s : Sketch) (m : OrderedMap Handle (Point Float))
    (epsilon : Float) : seeded (s.withPositions m) epsilon = seeded s epsilon := by
  have hstated : (s.withPositions m).elements.flatMap (stated (s.withPositions m)) =
      s.elements.flatMap (stated s) := by
    rw [Sketch.withPositions, List.flatMap_map]
    refine List.flatMap_congr fun e _ => ?_
    rw [stated, ← Sketch.withPositions, statements_withPositions, stated]
  rw [seeded, seeded, hstated]

-- Seeding a well-formed sketch never fails: the statements are added element by element.
theorem seed_eq_addAll (hs : s.WellFormed) (store : Store Float) :
    seed s store = .ok (store.addAll (s.elements.flatMap (stated s))) := by
  have hfold : ∀ (elements : List Element) (store : Store Float), (∀ e ∈ elements, e ∈ s.elements) →
      elements.foldlM (fun store e => do
        let facts ← statements s e
        .ok (store.addAll facts)) store = .ok (store.addAll (elements.flatMap (stated s))) := by
    intro elements
    induction elements with
    | nil => exact fun store _ => rfl
    | cons e rest ih =>
        intro store hmem
        rw [List.foldlM_cons, statements_eq_ok hs (hmem e List.mem_cons_self), List.flatMap_cons,
          Store.addAll, List.foldl_append]
        exact ih _ fun e he => hmem e (List.mem_cons_of_mem _ he)
  exact hfold s.elements store fun e he => he

theorem seed_eq_ok (hs : s.WellFormed) (epsilon : Float) :
    seed s (.empty epsilon) = .ok (seeded s epsilon) :=
  seed_eq_addAll hs (.empty epsilon)

-- Which elements state which facts. What holds in both directions is stated twice.
inductive States (s : Sketch) : Element → Fact Float → Prop
  | arc (id a b center : Handle) : States s (.arc id a b center) (.equidistant center a b)
  | fixed (id p : Handle) (position : Point Float) :
      States s (.fixed id p position) (.fixed p position)
  | vertical (id a b : Handle) : States s (.axisAligned id .vertical a b) (.vertical a b)
  | verticalBack (id a b : Handle) : States s (.axisAligned id .vertical a b) (.vertical b a)
  | horizontal (id a b : Handle) : States s (.axisAligned id .horizontal a b) (.horizontal a b)
  | horizontalBack (id a b : Handle) :
      States s (.axisAligned id .horizontal a b) (.horizontal b a)
  | distance (id a b : Handle) (value : Float) (placement : Placement Float) :
      States s (.distance id a b value placement false) (.distance a b value)
  | distanceBack (id a b : Handle) (value : Float) (placement : Placement Float) :
      States s (.distance id a b value placement false) (.distance b a value)
  | lineDistance (id p : Handle) {line a b : Handle} (value : Float) (placement : Placement Float)
      (hends : s.lineEnds line = .ok (a, b)) :
      States s (.lineDistance id p line value placement false) (.lineDistance p a b value)
  | lineDistanceBack (id p : Handle) {line a b : Handle} (value : Float)
      (placement : Placement Float) (hends : s.lineEnds line = .ok (a, b)) :
      States s (.lineDistance id p line value placement false) (.lineDistance p b a (-value))
  | pointOnLine (id p : Handle) {line a b : Handle} (hends : s.lineEnds line = .ok (a, b)) :
      States s (.pointOnLine id p line) (.collinear (Handle.sort [p, a, b]))
  | pointOnArc (id p : Handle) {arc a center : Handle}
      (hradius : s.arcRadius arc = .ok (center, a)) :
      States s (.pointOnArc id p arc) (.equidistant center a p)

theorem states_of_mem (h : fact ∈ stated s e) : States s e fact := by
  cases e with
  | arc id a b center =>
      obtain rfl := List.mem_singleton.mp h
      exact .arc id a b center
  | fixed id p position =>
      obtain rfl := List.mem_singleton.mp h
      exact .fixed id p position
  | axisAligned id axis a b =>
      cases axis <;> obtain rfl | h := List.mem_cons.mp h
      · exact .horizontal id a b
      · obtain rfl := List.mem_singleton.mp h
        exact .horizontalBack id a b
      · exact .vertical id a b
      · obtain rfl := List.mem_singleton.mp h
        exact .verticalBack id a b
  | distance id a b value placement measureOnly =>
      cases measureOnly with
      | true => simp [stated, statements] at h
      | false =>
          obtain rfl | h := List.mem_cons.mp h
          · exact .distance id a b value placement
          · obtain rfl := List.mem_singleton.mp h
            exact .distanceBack id a b value placement
  | lineDistance id p line value placement measureOnly =>
      cases measureOnly with
      | true => simp [stated, statements] at h
      | false =>
          cases hends : s.lineEnds line with
          | error error => simp [stated, statements, hends, bind, Except.bind] at h
          | ok ends =>
              simp only [stated, statements, hends, bind, Except.bind] at h
              obtain rfl | h := List.mem_cons.mp h
              · exact .lineDistance id p value placement hends
              · obtain rfl := List.mem_singleton.mp h
                exact .lineDistanceBack id p value placement hends
  | pointOnLine id p line =>
      cases hends : s.lineEnds line with
      | error error => simp [stated, statements, hends, bind, Except.bind] at h
      | ok ends =>
          simp only [stated, statements, hends, bind, Except.bind] at h
          obtain rfl := List.mem_singleton.mp h
          exact .pointOnLine id p hends
  | pointOnArc id p arc =>
      cases hradius : s.arcRadius arc with
      | error error => simp [stated, statements, hradius, bind, Except.bind] at h
      | ok radius =>
          simp only [stated, statements, hradius, bind, Except.bind] at h
          obtain rfl := List.mem_singleton.mp h
          exact .pointOnArc id p hradius
  | _ => simp [stated, statements] at h

theorem States.handles_ne_nil (h : States s e fact) : fact.handles ≠ [] := by
  cases h with
  | pointOnLine => simp [Fact.handles, Handle.sort_eq_nil]
  | _ => simp [Fact.handles]

-- The points a statement is about are those its element refers to, or the element it is put on.
theorem States.reaches (h : States s e fact) {p : Handle} (hp : p ∈ fact.handles) :
    (p, .point) ∈ e.references ∨ ∃ target ∈ s.elements,
      (target.id, target.kind) ∈ e.references ∧ (p, .point) ∈ target.references := by
  have hend {line a b : Handle} (hends : s.lineEnds line = .ok (a, b)) (hp : p = a ∨ p = b)
      (hline : (line, Element.Kind.line) ∈ e.references) : ∃ target ∈ s.elements,
        (target.id, target.kind) ∈ e.references ∧ (p, .point) ∈ target.references :=
    ⟨_, (Sketch.mem_of_get? (Sketch.lineEnds_eq_ok.mp hends)).1, hline,
      by simpa [Element.references] using hp⟩
  cases h with
  | pointOnLine id q hends =>
      simp only [Fact.handles, Handle.mem_sort, List.mem_cons, List.not_mem_nil, or_false] at hp
      rcases hp with rfl | hp
      · exact .inl (by simp [Element.references])
      · exact .inr (hend hends hp (by simp [Element.references]))
  | lineDistance id q value placement hends =>
      simp only [Fact.handles, List.mem_cons, List.not_mem_nil, or_false] at hp
      rcases hp with rfl | hp
      · exact .inl (by simp [Element.references])
      · exact .inr (hend hends hp (by simp [Element.references]))
  | lineDistanceBack id q value placement hends =>
      simp only [Fact.handles, List.mem_cons, List.not_mem_nil, or_false] at hp
      rcases hp with rfl | hp
      · exact .inl (by simp [Element.references])
      · exact .inr (hend hends hp.symm (by simp [Element.references]))
  | pointOnArc id q hradius =>
      obtain ⟨b, harc⟩ := Sketch.arcRadius_eq_ok.mp hradius
      have harc := (Sketch.mem_of_get? harc).1
      simp only [Fact.handles, List.mem_cons, List.not_mem_nil, or_false] at hp
      rcases hp with rfl | rfl | rfl
      · exact .inr ⟨_, harc, by simp [Element.references, Element.id, Element.kind],
          by simp [Element.references]⟩
      · exact .inr ⟨_, harc, by simp [Element.references, Element.id, Element.kind],
          by simp [Element.references]⟩
      · exact .inl (by simp [Element.references])
  | _ =>
      left
      simp only [Fact.handles, List.mem_cons, List.not_mem_nil, or_false] at hp
      simp only [Element.references, List.mem_cons, Prod.mk.injEq, List.not_mem_nil]
      tauto

-- What a well-formed sketch states is about its points.
theorem States.hasPoint (h : States s e fact) (hs : s.WellFormed) (he : e ∈ s.elements)
    {p : Handle} (hp : p ∈ fact.handles) : s.HasPoint p := by
  rcases h.reaches hp with hp | ⟨target, htarget, -, hp⟩
  · exact hs.exists_point he hp
  · exact hs.exists_point htarget hp

theorem exists_stated_of_mem_seeded {epsilon : Float} (h : fact ∈ (seeded s epsilon).facts) :
    ∃ e ∈ s.elements, fact ∈ stated s e := by
  rcases Store.mem_addAll h with h | h
  · simp [Store.empty] at h
  · exact List.mem_flatMap.mp h

-- The position of a point before solving is the one it has in the sketch.
theorem get?_initialPositions (hdistinct : (s.elements.map Element.id).Nodup) {p : Handle}
    {q : Point Float} :
    (initialPositions s).get? p = some q ↔ .point p q ∈ s.elements := by
  rw [initialPositions, OrderedMap.get?_ofList_eq_some_iff (Sketch.nodup_points hdistinct),
    Sketch.mem_points]

-- What a run of the solver goes through on a well-formed sketch.
def propagated (ruler : Ruler Float) (s : Sketch) (options : Options Float) :
    Propagation Float :=
  propagate ⟨ruler, initialPositions s, options⟩ (seeded s options.epsilon)

@[simp] theorem finish_facts (s : Sketch) (p : Propagation Float) :
    (finish s p).facts = p.store.facts := rfl

@[simp] theorem finish_passes (s : Sketch) (p : Propagation Float) :
    (finish s p).passes = p.passes := rfl

@[simp] theorem finish_converged (s : Sketch) (p : Propagation Float) :
    (finish s p).converged = p.converged := rfl

@[simp] theorem finish_resolved (s : Sketch) (p : Propagation Float) :
    (finish s p).resolved = resolvedPositions p.store := rfl

@[simp] theorem finish_updated (s : Sketch) (p : Propagation Float) :
    (finish s p).updated = s.withPositions (resolvedPositions p.store) := rfl

theorem solve_eq_ok (hs : s.WellFormed) (options : Options Float) :
    solve ruler s options = .ok (finish s (propagated ruler s options)) := by
  rw [solve, seed_eq_ok hs]
  rfl

-- However the points of a well-formed sketch are moved, it can still be solved.
theorem solve_withPositions (hs : s.WellFormed) (m : OrderedMap Handle (Point Float))
    (options : Options Float) : solve ruler (s.withPositions m) options =
      .ok (finish (s.withPositions m) (propagated ruler (s.withPositions m) options)) := by
  rw [solve, seed_withPositions, seed_eq_ok hs, propagated, seeded_withPositions]
  rfl

theorem steps_propagated (ruler : Ruler Float) (s : Sketch) (options : Options Float) :
    Steps ⟨ruler, initialPositions s, options⟩ (seeded s options.epsilon)
      (propagated ruler s options).store :=
  steps_propagateFrom _ _ _ _

-- Nothing is ever learned about anything but the points of the sketch.
theorem hasPoint_of_mem_propagated (hs : s.WellFormed) {options : Options Float}
    (h : fact ∈ (propagated ruler s options).store.facts) {p : Handle} (hp : p ∈ fact.handles) :
    s.HasPoint p := by
  refine (steps_propagated ruler s options).forall_handles (fun known hknown q hq => ?_) fact h p hp
  obtain ⟨e, he, hstated⟩ := exists_stated_of_mem_seeded hknown
  exact (states_of_mem hstated).hasPoint hs he hq

theorem distinct_propagated (ruler : Ruler Float) (s : Sketch) (options : Options Float) :
    (propagated ruler s options).store.Distinct :=
  (steps_propagated ruler s options).distinct ((Store.distinct_empty _).addAll _)

theorem resolvedPositions_eq (store : Store Float) :
    resolvedPositions store = .ofList store.positions := by
  refine congrArg OrderedMap.ofList (List.filterMap_congr fun fact _ => ?_)
  cases fact <;> rfl

theorem get?_resolvedPositions {store : Store Float} (h : store.Distinct) (p : Handle) :
    (resolvedPositions store).get? p = store.position? p := by
  ext q
  rw [resolvedPositions_eq, OrderedMap.get?_ofList_eq_some_iff h.nodup_positions,
    h.position?_eq_some_iff, Store.mem_positions]

end PlaneSketch.Solve

import PlaneSketch.Proofs.Geometry.Distance
import PlaneSketch.Proofs.Solve.Seeding
import PlaneSketch.Proofs.Solve.Settling

namespace PlaneSketch

namespace Store

variable {α : Type} {s t : Store α}

theorem distance?_isSome {p q : Handle} :
    (s.distance? p q).isSome ↔ ∃ d, .distance p q d ∈ s.facts := by
  rw [distance?, List.lookup_isSome_iff]
  constructor
  · rintro ⟨⟨r, d⟩, hmem, hr⟩
    obtain rfl : q = r := by simpa using hr
    exact ⟨d, mem_distancesFrom.mp hmem⟩
  · rintro ⟨d, hd⟩
    exact ⟨(q, d), mem_distancesFrom.mpr hd, by simp⟩

theorem Grows.position?_isSome (h : Grows s t) {p : Handle} (hp : (s.position? p).isSome) :
    (t.position? p).isSome := by
  obtain ⟨q, hq⟩ := Option.isSome_iff_exists.mp hp
  simp [h.position? hq]

theorem Grows.position?_isNone (h : Grows s t) {p : Handle}
    (hp : (t.position? p).isNone = true) : (s.position? p).isNone = true := by
  rw [Option.isNone_iff_eq_none, ← Option.not_isSome_iff_eq_none] at hp ⊢
  exact mt h.position?_isSome hp

variable [Scalar α]

theorem knownDistance?_isSome {p q : Handle} :
    (s.knownDistance? p q).isSome ↔ p = q ∨ ((s.position? p).isSome ∧ (s.position? q).isSome) ∨
      (∃ d, .distance p q d ∈ s.facts) ∨ ∃ d, .distance q p d ∈ s.facts := by
  rw [← distance?_isSome, ← distance?_isSome]
  unfold knownDistance?
  by_cases h : p = q
  · simp [h]
  · cases s.position? p <;> cases s.position? q <;> simp [h]

theorem Grows.knownDistance?_isSome (h : Grows s t) {p q : Handle}
    (hpq : (s.knownDistance? p q).isSome) : (t.knownDistance? p q).isSome := by
  rw [Store.knownDistance?_isSome] at hpq ⊢
  rcases hpq with hpq | ⟨hp, hq⟩ | ⟨d, hd⟩ | ⟨d, hd⟩
  · exact .inl hpq
  · exact .inr (.inl ⟨h.position?_isSome hp, h.position?_isSome hq⟩)
  · exact .inr (.inr (.inl ⟨d, h.mem hd⟩))
  · exact .inr (.inr (.inr ⟨d, h.mem hd⟩))

-- Points at one distance from a center, not both at a known one.
def isOpen (s : Store α) : Fact α → Bool
  | .equidistant center p q =>
      (s.knownDistance? center p).isNone || (s.knownDistance? center q).isNone
  | _ => false

-- What propagation can still find out of its own: the points without a position, and the radii
-- that it may carry over from one point to another.
def remaining (points : List Handle) (s : Store α) : Nat :=
  points.countP (fun p => (s.position? p).isNone) + s.facts.countP s.isOpen

theorem Grows.isOpen (h : Grows s t) {fact : Fact α} (hopen : t.isOpen fact = true) :
    s.isOpen fact = true := by
  cases fact with
  | equidistant center p q =>
      simp only [Store.isOpen, Bool.or_eq_true, Option.isNone_iff_eq_none,
        ← Option.not_isSome_iff_eq_none] at hopen ⊢
      exact hopen.imp (mt h.knownDistance?_isSome) (mt h.knownDistance?_isSome)
  | _ => cases hopen

end Store

namespace Solve

variable {α : Type} [Scalar α] {ctx : Context α} {s t : Store α} {points : List Handle}

theorem countP_lt_countP {β : Type} {p q : β → Bool} {xs : List β} {x : β}
    (himp : ∀ y, p y = true → q y = true) (hx : x ∈ xs) (hp : p x = false) (hq : q x = true) :
    xs.countP p < xs.countP q := by
  have hle (ys : List β) : ys.countP p ≤ ys.countP q := List.countP_mono_left fun y _ => himp y
  obtain ⟨before, after, rfl⟩ := List.append_of_mem hx
  have hbefore := hle before
  have hafter := hle after
  simp only [List.countP_append, List.countP_cons, hp, hq]
  simp only [Bool.false_eq_true, if_false, if_true]
  omega

theorem Concludes.isOpen_eq_false {fact : Fact α} (h : Concludes ctx s fact) (t : Store α) :
    t.isOpen fact = false := by
  cases h <;> rfl

-- No new equidistance is ever learned, so only those there at the start can be open.
theorem Step.countP_isOpen (h : Step ctx s t) :
    t.facts.countP t.isOpen = s.facts.countP t.isOpen := by
  obtain ⟨rule, s, fact, hfact, -⟩ := h
  obtain ⟨learned, happend, hsublist, -⟩ :=
    s.exists_append_addAll (rule.conclusions ctx s fact)
  generalize s.addAll (rule.conclusions ctx s fact) = t at happend
  rw [happend, List.countP_append, Nat.add_eq_left, List.countP_eq_zero]
  intro known hknown
  simp [(concludes_of_mem hfact (hsublist.subset hknown)).isOpen_eq_false t]

theorem Step.countP_isOpen_le (h : Step ctx s t) :
    t.facts.countP t.isOpen ≤ s.facts.countP s.isOpen := by
  rw [h.countP_isOpen]
  exact List.countP_mono_left fun fact _ => h.grows.isOpen

theorem Step.countP_position?_le (h : Step ctx s t) (points : List Handle) :
    points.countP (fun p => (t.position? p).isNone) ≤
      points.countP (fun p => (s.position? p).isNone) :=
  List.countP_mono_left fun _ _ => h.grows.position?_isNone

theorem Step.remaining_le (h : Step ctx s t) (points : List Handle) :
    t.remaining points ≤ s.remaining points :=
  Nat.add_le_add (h.countP_position?_le points) h.countP_isOpen_le

theorem Step.remaining_lt_of_position? (h : Step ctx s t) {p : Handle} {q : Point α}
    (hp : p ∈ points) (hs : s.position? p = none) (ht : .fixed p q ∈ t.facts) :
    t.remaining points < s.remaining points := by
  have hfound : (t.position? p).isNone = false := by
    rw [Option.isNone_eq_false_iff]
    exact Store.position?_isSome.mpr ⟨q, ht⟩
  refine Nat.add_lt_add_of_lt_of_le ?_ h.countP_isOpen_le
  exact countP_lt_countP (fun _ => h.grows.position?_isNone) hp hfound (by simp [hs])

theorem Step.remaining_lt_of_isOpen (h : Step ctx s t) {fact : Fact α} (hfact : fact ∈ s.facts)
    (hs : s.isOpen fact = true) (ht : t.isOpen fact = false) :
    t.remaining points < s.remaining points := by
  refine Nat.add_lt_add_of_le_of_lt (h.countP_position?_le points) ?_
  rw [h.countP_isOpen]
  exact countP_lt_countP (fun _ => h.grows.isOpen) hfact ht hs

-- Each new premise uses up one of the things that remained to be found.
theorem Step.premises_eq_or_remaining_lt (h : Step ctx s t)
    (hpoints : ∀ fact ∈ s.facts, ∀ p ∈ fact.handles, p ∈ points) :
    t.premises = s.premises ∨ t.remaining points < s.remaining points := by
  have hstep := h
  obtain ⟨rule, s, fact, hfact, -⟩ := h
  obtain ⟨learned, happend, hlearned⟩ :=
    s.exists_append_premises (rule.conclusions ctx s fact)
  cases learned with
  | nil => exact .inl (by simpa using happend)
  | cons found rest =>
      obtain ⟨hmem, hfound, hcurve, hnew⟩ := hlearned found List.mem_cons_self
      have hconcludes := concludes_of_mem hfact hmem
      generalize s.addAll (rule.conclusions ctx s fact) = t at *
      refine .inr ?_
      cases hconcludes with
      | lineWithCircle hline _ _ =>
          exact hstep.remaining_lt_of_position? (hpoints _ hline _ List.mem_cons_self)
            (by simpa [Store.knows_fixed] using hnew) hfound
      | circles hcircle _ _ _ =>
          exact hstep.remaining_lt_of_position? (hpoints _ hcircle _ List.mem_cons_self)
            (by simpa [Store.knows_fixed] using hnew) hfound
      | lines hline _ _ =>
          exact hstep.remaining_lt_of_position? (hpoints _ hline _ List.mem_cons_self)
            (by simpa [Store.knows_fixed] using hnew) hfound
      | secondRadius hequal hknown hopen =>
          refine hstep.remaining_lt_of_isOpen hequal (by simp [Store.isOpen, hopen]) ?_
          have hfirst := hstep.grows.knownDistance?_isSome (Option.isSome_of_eq_some hknown)
          have hsecond := Store.knownDistance?_isSome.mpr (.inr (.inr (.inl ⟨_, hfound⟩)))
          simp [Store.isOpen, hfirst, hsecond]
      | firstRadius hequal hknown hopen =>
          refine hstep.remaining_lt_of_isOpen hequal (by simp [Store.isOpen, hopen]) ?_
          have hsecond := hstep.grows.knownDistance?_isSome (Option.isSome_of_eq_some hknown)
          have hfirst := Store.knownDistance?_isSome.mpr (.inr (.inr (.inl ⟨_, hfound⟩)))
          simp [Store.isOpen, hfirst, hsecond]
      | _ => cases hcurve

theorem Steps.premises_eq_or_remaining_lt (h : Steps ctx s t)
    (hpoints : ∀ fact ∈ s.facts, ∀ p ∈ fact.handles, p ∈ points) :
    t.remaining points ≤ s.remaining points ∧
      (t.premises = s.premises ∨ t.remaining points < s.remaining points) := by
  induction h with
  | refl => exact ⟨Nat.le_refl _, .inl rfl⟩
  | tail hsteps hstep ih =>
      have hle := hstep.remaining_le points
      refine ⟨Nat.le_trans hle ih.1, ?_⟩
      rcases ih.2 with heq | hlt
      · rw [← heq]
        have hor := hstep.premises_eq_or_remaining_lt (Steps.forall_handles hsteps hpoints)
        exact hor.imp_right fun hlt => Nat.lt_of_lt_of_le hlt ih.1
      · exact .inr (Nat.lt_of_le_of_lt hle hlt)

-- A pass either finds something that remained, or settles the store, or learns nothing. So two
-- passes are enough for each thing that remains, and two more at the end.
theorem converged_of_remaining (points : List Handle) (left done : Nat) (s : Store α)
    (hpoints : ∀ fact ∈ s.facts, ∀ p ∈ fact.handles, p ∈ points)
    (hself : ∀ fact ∈ (propagateFrom ctx left done s).store.facts,
      fact.sameAs s.epsilon fact = true)
    (hleft : 2 * s.remaining points + 2 ≤ left ∨
      Settled ctx s ∧ 2 * s.remaining points + 1 ≤ left) :
    (propagateFrom ctx left done s).converged = true := by
  induction left generalizing done s with
  | zero => omega
  | succ left ih =>
      by_cases hstable : pass ctx s = s
      · rw [propagateFrom_of_stable left done hstable]
      rw [propagateFrom_of_learning left done hstable] at hself ⊢
      have hsteps := steps_pass ctx s
      rw [← hsteps.grows.epsilon] at hself
      refine ih (done + 1) (pass ctx s) (hsteps.forall_handles hpoints) hself ?_
      obtain ⟨hle, heq | hlt⟩ := hsteps.premises_eq_or_remaining_lt hpoints
      · rcases hleft with hleft | ⟨hsettled, -⟩
        · refine .inr ⟨settled_pass (fun fact hfact => ?_) heq, by omega⟩
          rw [← hsteps.grows.epsilon]
          exact hself fact ((grows_propagateFrom ctx left _ _).mem hfact)
        · exact absurd (pass_eq_self_of_settled hsettled heq) hstable
      · exact .inl (by omega)

end Solve

-- The coordinates, radii and distances of a fact.
def Fact.numbers : Fact Float → List Float
  | .fixed _ position => [position.x, position.y]
  | .onLine _ a b => [a.x, a.y, b.x, b.y]
  | .onCircle _ center radius => [center.x, center.y, radius]
  | .distance _ _ value => [value]
  | .lineDistance _ _ _ value => [value]
  | _ => []

namespace Solve

variable {ruler : Ruler Float} {s : Sketch} {options : Options Float}

theorem zero_lt_of_check (h : options.check = .ok options)
    (hnumber : options.epsilon.isNaN = false) :
    (Float.Model.UnpackedFloat.zero .positive).compare options.epsilon.toModel.unpack =
      some .lt := by
  have hpositive : ¬options.epsilon ≤ 0.0 := by
    intro hle
    unfold Options.check at h
    split at h <;> cases h
  rw [Binary.le_iff] at hpositive
  change options.epsilon.toModel.unpack.isNaN = false at hnumber
  change ¬((options.epsilon.toModel.unpack.compare (.zero .positive)).any (·.isLE) = true)
    at hpositive
  generalize options.epsilon.toModel.unpack = epsilon at *
  cases epsilon with
  | infinity sign =>
      cases sign with
      | positive => rfl
      | negative => exact absurd rfl hpositive
  | notANumber => cases hnumber
  | zero sign => exact absurd rfl hpositive
  | finite sign mantissa exponent hm =>
      cases sign with
      | positive => rfl
      | negative => exact absurd rfl hpositive

-- A fact of finite numbers repeats itself.
theorem sameAs_self {epsilon : Float}
    (hpositive : (Float.Model.UnpackedFloat.zero .positive).compare epsilon.toModel.unpack =
      some .lt) {fact : Fact Float}
    (h : ∀ x ∈ fact.numbers, x.isFinite = true) : fact.sameAs epsilon fact = true := by
  have hnear {p : Point Float} (hx : p.x.isFinite = true) (hy : p.y.isFinite = true) :
      p.near epsilon p = true := by
    refine decide_eq_true ?_
    rw [Binary.lt_iff, Point.dist_self ⟨hx, hy⟩]
    exact hpositive
  have hclose {x : Float} (hx : x.isFinite = true) : Scalar.close epsilon x x = true := by
    have hself : (x == x) = true := by
      rw [Binary.beq_self, Binary.isNaN_of_isFinite hx]
      rfl
    exact Bool.or_eq_true_iff.mpr (.inl hself)
  cases fact <;> simp_all [Fact.sameAs, Fact.numbers]

-- Only arcs and points on arcs state that points are at one distance from a center.
theorem countP_stated_le (s : Sketch) (e : Element) :
    (stated s e).countP (fun fact => fact.kind == .equidistant) ≤
      (if e.kind == .arc then 1 else 0) + if e.kind == .pointOnArc then 1 else 0 := by
  cases e with
  | arc id a b center => exact Nat.le_refl 1
  | pointOnArc id p arc =>
      cases hradius : s.arcRadius arc <;>
        simp [stated, statements, hradius, bind, Except.bind, Element.kind, Fact.kind]
  | _ =>
      refine Nat.le_of_eq (List.countP_eq_zero.mpr fun fact hfact => ?_)
      cases states_of_mem hfact <;> simp [Fact.kind]

theorem countP_flatMap_stated_le (s : Sketch) (elements : List Element) :
    (elements.flatMap (stated s)).countP (fun fact => fact.kind == .equidistant) ≤
      (elements.filter fun e => e.kind == .arc).length +
        (elements.filter fun e => e.kind == .pointOnArc).length := by
  rw [← List.countP_eq_length_filter, ← List.countP_eq_length_filter]
  induction elements with
  | nil => exact Nat.le_refl 0
  | cons e rest ih =>
      have he := countP_stated_le s e
      rw [List.flatMap_cons, List.countP_append, List.countP_cons, List.countP_cons]
      omega

theorem remaining_seeded_le (s : Sketch) (epsilon : Float) :
    (seeded s epsilon).remaining (s.points.map (·.1)) ≤
      s.points.length + (s.arcs.length + (s.ofKinds (· == .pointOnArc)).length) := by
  have hpoints : (s.points.map (·.1)).countP
      (fun p => ((seeded s epsilon).position? p).isNone) ≤ s.points.length := by
    rw [← List.length_map (·.1)]
    exact List.countP_le_length
  obtain ⟨learned, happend, hsublist, -⟩ :=
    (Store.empty epsilon).exists_append_addAll (s.elements.flatMap (stated s))
  have hopen : (seeded s epsilon).facts.countP (seeded s epsilon).isOpen ≤
      learned.countP fun fact => fact.kind == .equidistant := by
    change (seeded s epsilon).facts = learned at happend
    rw [happend]
    refine List.countP_mono_left fun fact _ hopen => ?_
    cases fact <;> first | rfl | cases hopen
  have hstated := Nat.le_trans hsublist.countP_le (countP_flatMap_stated_le s s.elements)
  exact Nat.add_le_add hpoints (Nat.le_trans hopen hstated)

-- Propagation stops of its own within a bound that can be read off the sketch, as long as all
-- numbers stay finite.
theorem solve_converges (hs : s.check = .ok ()) (hoptions : options.check = .ok options)
    (hepsilon : options.epsilon.isNaN = false)
    (hpasses : (2 * (s.points.length +
      (s.arcs.length + (s.ofKinds (· == .pointOnArc)).length)) + 2 : Nat) ≤ options.maxPasses) :
    ∃ solution, solve ruler s options = .ok solution ∧
      ((∀ fact ∈ solution.facts, ∀ x ∈ fact.numbers, x.isFinite = true) →
        solution.converged = true) := by
  have hs := Sketch.wellFormed_of_check hs
  refine ⟨_, solve_eq_ok hs options, fun hfinite => ?_⟩
  have hbound := remaining_seeded_le s options.epsilon
  refine converged_of_remaining (s.points.map (·.1)) _ 0 (seeded s options.epsilon) ?_ ?_ (.inl ?_)
  · intro fact hfact p hp
    obtain ⟨e, he, hstated⟩ := exists_stated_of_mem_seeded hfact
    obtain ⟨position, hpoint⟩ := (states_of_mem hstated).hasPoint hs he hp
    exact List.mem_map.mpr ⟨(p, position), List.mem_filterMap.mpr ⟨_, hpoint, rfl⟩, rfl⟩
  · intro fact hfact
    have hbound : (seeded s options.epsilon).epsilon = options.epsilon :=
      (Store.grows_addAll _ _).epsilon
    rw [hbound]
    exact sameAs_self (zero_lt_of_check hoptions hepsilon) (hfinite fact hfact)
  · change _ ≤ options.maxPasses.toNat
    omega

-- An arch about a fixed center from one fixed foot to its top, above the center. The cap is the
-- bound for three points and one arc.
def archSketch : Sketch where
  elements :=
    [.point 0 ⟨0.0, 0.0⟩, .point 1 ⟨5.0, 0.0⟩, .point 2 ⟨1.0, 4.0⟩, .arc 10 1 2 0,
      .fixed 11 0 ⟨0.0, 0.0⟩, .fixed 12 1 ⟨5.0, 0.0⟩, .axisAligned 13 .vertical 0 2]
  labels := .empty

def archOptions : Options Float := ⟨10, Scalar.tolerance, 100.0⟩

theorem solve_converges_arch :
    ∃ solution, solve .standard archSketch archOptions = .ok solution ∧
      (∀ fact ∈ solution.facts, ∀ x ∈ fact.numbers, x.isFinite = true) ∧
      solution.converged = true := by
  have hcheck : archSketch.check = .ok () := Sketch.check_eq_ok_of_isOk (by decide +kernel)
  have hoptions : archOptions.check = .ok archOptions := by
    rw [Options.check, if_neg (by decide), if_neg (by decide +kernel), if_neg (by decide +kernel)]
  have hnumbers : (solve .standard archSketch archOptions).toOption.map (fun solution =>
      solution.facts.all fun fact => fact.numbers.all Float.isFinite) = some true := by
    decide +kernel
  obtain ⟨solution, hsolve, hconverges⟩ :=
    solve_converges hcheck hoptions (by decide +kernel) (by decide)
  rw [hsolve] at hnumbers
  have hfinite : ∀ fact ∈ solution.facts, ∀ x ∈ fact.numbers, x.isFinite = true := by
    simpa [Except.toOption] using hnumbers
  exact ⟨solution, hsolve, hfinite, hconverges hfinite⟩

end Solve

end PlaneSketch

import PlaneSketch.Proofs.Binary.Identities
import PlaneSketch.Proofs.Fact.Identity
import PlaneSketch.Proofs.Solve.Seeding

namespace PlaneSketch

-- The distance that an element demands between two points, whichever of them it names first.
def Element.spacing? (p q : Handle) : Element → Option Float
  | distance _ a b value _ false => if a = p ∧ b = q ∨ a = q ∧ b = p then some value else none
  | _ => none

theorem Element.spacing?_comm (p q : Handle) (e : Element) : e.spacing? p q = e.spacing? q p := by
  cases e with
  | distance id a b value placement measureOnly =>
      cases measureOnly with
      | true => rfl
      | false => simp only [spacing?, or_comm]
  | _ => rfl

namespace Sketch

-- The distance that an element demands of a point to the left of the way from one end of a line to
-- the other. To the left of the way back it is the opposite.
def offset? (s : Sketch) (p a b : Handle) : Element → Option Float
  | .lineDistance _ q line value _ false =>
      if q ≠ p then none
      else if s.get? line = some (.line line a b) then some value
      else if s.get? line = some (.line line b a) then some (-value)
      else none
  | _ => none

-- Some element puts two points above or beside each other.
def Aligned (s : Sketch) (axis : Axis) (p q : Handle) : Prop :=
  ∃ id, .axisAligned id axis p q ∈ s.elements ∨ .axisAligned id axis q p ∈ s.elements

variable {s : Sketch} {e : Element}

theorem aligned_comm {axis : Axis} {p q : Handle} : s.Aligned axis p q ↔ s.Aligned axis q p :=
  exists_congr fun _ => or_comm

-- The lines of a valid sketch have two ends, so no line runs both ways between them.
theorem offset?_back (hs : s.Valid) (p a b : Handle) (e : Element) :
    s.offset? p b a e = (s.offset? p a b e).map (-·) := by
  have hproper {line a b : Handle} (hline : s.get? line = some (.line line a b)) : a ≠ b :=
    hs.proper _ (mem_of_get? hline).1
  cases e with
  | lineDistance id q line value placement measureOnly =>
      cases measureOnly with
      | true => rfl
      | false =>
          by_cases hq : q = p
          · by_cases hforth : s.get? line = some (.line line a b)
            · simp [offset?, hq, hforth, hproper hforth]
            · by_cases hback : s.get? line = some (.line line b a)
              · simp [offset?, hq, hback, hproper hback, Binary.neg_neg_double]
              · simp [offset?, hq, hforth, hback]
          · simp [offset?, hq]
  | _ => rfl

theorem findSome?_offset?_back (hs : s.Valid) (p a b : Handle) :
    s.elements.findSome? (s.offset? p b a) =
      (s.elements.findSome? (s.offset? p a b)).map (-·) := by
  rw [List.map_findSome?]
  exact congrArg (List.findSome? · s.elements) (funext (offset?_back hs p a b))

end Sketch

namespace Solve

-- The fact that puts one point above or beside another.
def alignment : Axis → Handle → Handle → Fact Float
  | .horizontal => .horizontal
  | .vertical => .vertical

variable {s : Sketch} {e : Element} {p q a b : Handle} {epsilon : Float}

theorem find?_stated_distance (s : Sketch) (p q : Handle) (e : Element) :
    (stated s e).find? (·.tells (.distance p q)) = (e.spacing? p q).map (.distance p q) := by
  cases e with
  | distance id a b value placement measureOnly =>
      cases measureOnly with
      | true => rfl
      | false =>
          have hstated : stated s (.distance id a b value placement false) =
              [.distance a b value, .distance b a value] := rfl
          rw [hstated, List.find?_cons, List.find?_cons]
          by_cases hforth : a = p ∧ b = q
          · obtain ⟨rfl, rfl⟩ := hforth
            simp [Fact.tells, Fact.identity?, Element.spacing?]
          · by_cases hback : b = p ∧ a = q
            · obtain ⟨rfl, rfl⟩ := hback
              simp [Fact.tells, Fact.identity?, Element.spacing?, hforth]
            · have hneither : ¬(a = q ∧ b = p) := fun h => hback h.symm
              simp [Fact.tells, Fact.identity?, Element.spacing?, hforth, hback, hneither]
  | _ =>
      refine List.find?_eq_none.mpr fun fact hfact => ?_
      cases states_of_mem hfact <;> simp [Fact.tells, Fact.identity?]

theorem find?_stated_lineDistance (hs : s.WellFormed) (p a b : Handle) (he : e ∈ s.elements) :
    (stated s e).find? (·.tells (.lineDistance p a b)) =
      (s.offset? p a b e).map (.lineDistance p a b) := by
  cases e with
  | lineDistance id q line value placement measureOnly =>
      cases measureOnly with
      | true => rfl
      | false =>
          obtain ⟨c, d, hline⟩ := hs.exists_line (l := line) he (by simp [Element.references])
          have hstated : stated s (.lineDistance id q line value placement false) =
              [.lineDistance q c d value, .lineDistance q d c (-value)] := by
            simp [stated, statements, Sketch.lineEnds_eq_ok.mpr hline, bind, Except.bind]
          rw [hstated, List.find?_cons, List.find?_cons]
          by_cases hq : q = p
          · by_cases hforth : c = a ∧ d = b
            · obtain ⟨rfl, rfl⟩ := hforth
              simp [Fact.tells, Fact.identity?, Sketch.offset?, hline, hq]
            · by_cases hback : d = a ∧ c = b
              · obtain ⟨rfl, rfl⟩ := hback
                simp [Fact.tells, Fact.identity?, Sketch.offset?, hline, hq, hforth]
              · have hneither : ¬(c = b ∧ d = a) := fun h => hback h.symm
                simp [Fact.tells, Fact.identity?, Sketch.offset?, hline, hq, hforth, hback,
                  hneither]
          · simp [Fact.tells, Fact.identity?, Sketch.offset?, hq]
  | _ =>
      refine List.find?_eq_none.mpr fun fact hfact => ?_
      cases states_of_mem hfact <;> simp [Fact.tells, Fact.identity?]

-- A value is stored just if the first element that demands any demands this one.
theorem mem_seeded_iff (identity : Fact.Identity) {build : Float → Fact Float}
    (hinjective : Function.Injective build) (htells : ∀ d, (build d).tells identity = true)
    {ask : Element → Option Float}
    (hask : ∀ e ∈ s.elements, (stated s e).find? (·.tells identity) = (ask e).map build)
    (epsilon d : Float) :
    build d ∈ (seeded s epsilon).facts ↔ s.elements.findSome? ask = some d := by
  have hfirst : (s.elements.flatMap (stated s)).find? (·.tells identity) =
      (s.elements.findSome? ask).map build := by
    rw [List.find?_flatMap, List.map_findSome?, ← List.head?_filterMap, ← List.head?_filterMap,
      List.filterMap_congr hask]
    rfl
  calc build d ∈ (seeded s epsilon).facts
      ↔ build d ∈ (seeded s epsilon).facts.filter (·.tells identity) := by simp [htells]
    _ ↔ (s.elements.findSome? ask).map build = (some d).map build := by
        rw [seeded, Store.filter_tells_addAll, Option.mem_toList, hfirst, Option.map_some]
    _ ↔ s.elements.findSome? ask = some d := (Option.map_injective hinjective).eq_iff

theorem distance_mem_seeded_iff (s : Sketch) (p q : Handle) (epsilon d : Float) :
    .distance p q d ∈ (seeded s epsilon).facts ↔
      s.elements.findSome? (Element.spacing? p q) = some d :=
  mem_seeded_iff (.distance p q) (fun _ _ h => by cases h; rfl)
    (fun _ => by simp [Fact.tells, Fact.identity?]) (fun e _ => find?_stated_distance s p q e) _ _

theorem lineDistance_mem_seeded_iff (hs : s.WellFormed) (p a b : Handle) (epsilon d : Float) :
    .lineDistance p a b d ∈ (seeded s epsilon).facts ↔
      s.elements.findSome? (s.offset? p a b) = some d :=
  mem_seeded_iff (.lineDistance p a b) (fun _ _ h => by cases h; rfl)
    (fun _ => by simp [Fact.tells, Fact.identity?])
    (fun _ he => find?_stated_lineDistance hs p a b he) _ _

-- A fact that only repeats itself is stored just if some element states it.
theorem mem_seeded_iff_of_exact {fact : Fact Float}
    (hexact : ∀ {bound : Float} {known : Fact Float}, known.sameAs bound fact = true →
      known = fact) : fact ∈ (seeded s epsilon).facts ↔ ∃ e ∈ s.elements, fact ∈ stated s e := by
  refine ⟨exists_stated_of_mem_seeded, fun ⟨e, he, hfact⟩ => ?_⟩
  exact Store.mem_addAll_of_exact hexact (List.mem_flatMap.mpr ⟨e, he, hfact⟩)

theorem alignment_mem_stated_iff {axis : Axis} : alignment axis p q ∈ stated s e ↔
    ∃ id, e = .axisAligned id axis p q ∨ e = .axisAligned id axis q p := by
  constructor
  · intro h
    cases axis <;> cases states_of_mem h <;> simp
  · rintro ⟨id, rfl | rfl⟩ <;> cases axis <;> simp [stated, statements, alignment]

theorem alignment_mem_seeded_iff (s : Sketch) (axis : Axis) (p q : Handle) (epsilon : Float) :
    alignment axis p q ∈ (seeded s epsilon).facts ↔ s.Aligned axis p q := by
  have hexact {bound : Float} {known : Fact Float}
      (hsame : known.sameAs bound (alignment axis p q) = true) : known = alignment axis p q := by
    cases axis <;> cases known <;> simp_all [alignment, Fact.sameAs]
  rw [mem_seeded_iff_of_exact hexact]
  simp only [alignment_mem_stated_iff]
  constructor
  · rintro ⟨e, he, id, rfl | rfl⟩
    · exact ⟨id, .inl he⟩
    · exact ⟨id, .inr he⟩
  · rintro ⟨id, he | he⟩
    · exact ⟨_, he, id, .inl rfl⟩
    · exact ⟨_, he, id, .inr rfl⟩

theorem collinear_mem_seeded_iff (hs : s.WellFormed) {points : List Handle} :
    .collinear points ∈ (seeded s epsilon).facts ↔
      ∃ id p line a b, .pointOnLine id p line ∈ s.elements ∧ .line line a b ∈ s.elements ∧
        points.Perm [p, a, b] ∧ points.Pairwise (· ≤ ·) := by
  rw [mem_seeded_iff_of_exact fun {_ known} hsame => by cases known <;> simp_all [Fact.sameAs]]
  constructor
  · rintro ⟨e, he, hfact⟩
    cases states_of_mem hfact with
    | @pointOnLine id p line a b hends =>
        have hline := (Sketch.mem_of_get? (Sketch.lineEnds_eq_ok.mp hends)).1
        exact ⟨id, p, line, a, b, he, hline, Handle.eq_sort_iff.mp rfl⟩
  · rintro ⟨id, p, line, a, b, he, hline, hsorted⟩
    have hends : s.lineEnds line = .ok (a, b) :=
      Sketch.lineEnds_eq_ok.mpr (Sketch.get?_of_mem hs.distinct hline)
    refine ⟨_, he, ?_⟩
    simp [stated, statements, hends, bind, Except.bind, Handle.eq_sort_iff.mpr hsorted]

-- What holds between two points holds whichever of them comes first, and what is to the left on
-- the way along a line is to the right on the way back.
structure BothWays (facts : List (Fact Float)) : Prop where
  vertical : ∀ p q, .vertical p q ∈ facts ↔ .vertical q p ∈ facts
  horizontal : ∀ p q, .horizontal p q ∈ facts ↔ .horizontal q p ∈ facts
  distance : ∀ p q d, .distance p q d ∈ facts ↔ .distance q p d ∈ facts
  lineDistance : ∀ p a b d, .lineDistance p a b d ∈ facts ↔ .lineDistance p b a (-d) ∈ facts

-- What the constraints of a sketch demand, the first of them where several demand a distance.
structure FirstDemands (s : Sketch) (facts : List (Fact Float)) : Prop where
  vertical : ∀ p q, .vertical p q ∈ facts ↔ s.Aligned .vertical p q
  horizontal : ∀ p q, .horizontal p q ∈ facts ↔ s.Aligned .horizontal p q
  distance : ∀ p q d,
    .distance p q d ∈ facts ↔ s.elements.findSome? (Element.spacing? p q) = some d
  lineDistance : ∀ p a b d,
    .lineDistance p a b d ∈ facts ↔ s.elements.findSome? (s.offset? p a b) = some d
  -- A point at an end of its own line comes twice.
  collinear : ∀ points, .collinear points ∈ facts ↔
    ∃ id p line a b, .pointOnLine id p line ∈ s.elements ∧ .line line a b ∈ s.elements ∧
      points.Perm [p, a, b] ∧ points.Pairwise (· ≤ ·)
  once : (facts.filter (·.kind == .collinear)).Nodup

theorem firstDemands_seeded (hs : s.WellFormed) (epsilon : Float) :
    FirstDemands s (seeded s epsilon).facts where
  vertical p q := alignment_mem_seeded_iff s .vertical p q epsilon
  horizontal p q := alignment_mem_seeded_iff s .horizontal p q epsilon
  distance p q d := distance_mem_seeded_iff s p q epsilon d
  lineDistance p a b d := lineDistance_mem_seeded_iff hs p a b epsilon d
  collinear points := collinear_mem_seeded_iff hs
  once := by
    have hdistinct : (seeded s epsilon).Distinct := (Store.distinct_empty epsilon).addAll _
    refine (hdistinct.filter _).imp_of_mem fun {known later} hknown _ hsame heq => ?_
    subst heq
    have hkind : known.kind = .collinear := by simpa using (List.mem_filter.mp hknown).2
    cases known <;> simp_all [Fact.kind, Fact.sameAs]

-- Both halves of what a constraint states are kept or dropped together, whatever other
-- constraints state of the same points.
theorem FirstDemands.bothWays {facts : List (Fact Float)} (h : FirstDemands s facts)
    (hs : s.Valid) : BothWays facts where
  vertical p q := by rw [h.vertical, h.vertical, Sketch.aligned_comm]
  horizontal p q := by rw [h.horizontal, h.horizontal, Sketch.aligned_comm]
  distance p q d := by
    have hcomm : Element.spacing? p q = Element.spacing? q p := funext (Element.spacing?_comm p q)
    rw [h.distance, h.distance, hcomm]
  lineDistance p a b d := by
    rw [h.lineDistance, h.lineDistance, Sketch.findSome?_offset?_back hs p a b]
    have hneg : Function.Injective fun d : Float => -d :=
      Function.LeftInverse.injective Binary.neg_neg_double
    exact ((Option.map_injective hneg).eq_iff' rfl).symm

-- Seeding stores every statement in both directions, and where constraints contradict each other
-- it stores what the first of them says, whichever of its points or which end of its line it names
-- first. The points keep the positions they are drawn at.
theorem seed_states_first (hs : s.check = .ok ()) (epsilon : Float) :
    ∃ store, seed s (.empty epsilon) = .ok store ∧ BothWays store.facts ∧
      FirstDemands s store.facts ∧
      ∀ p position,
        (initialPositions s).get? p = some position ↔ .point p position ∈ s.elements := by
  have hvalid := Sketch.check_eq_ok_iff.mp hs
  have hdemands := firstDemands_seeded hvalid.toWellFormed epsilon
  exact ⟨_, seed_eq_ok hvalid.toWellFormed epsilon, hdemands.bothWays hvalid, hdemands,
    fun p position => get?_initialPositions hvalid.distinct⟩

-- Two lines run between the same ends in opposite directions, and the distances to them quarrel,
-- as do those between the ends. The first dimension of each kind only measures.
def rivalsSketch : Sketch where
  elements :=
    [.point 0 ⟨0.0, 0.0⟩, .point 1 ⟨4.0, 0.0⟩, .point 2 ⟨1.0, 2.0⟩, .line 10 0 1, .line 11 1 0,
      .lineDistance 20 2 10 9.0 ⟨0.5, 1.0⟩ true, .lineDistance 21 2 11 (-2.0) ⟨0.5, 1.0⟩ false,
      .lineDistance 22 2 10 3.0 ⟨0.5, 1.0⟩ false, .distance 23 0 1 8.0 ⟨0.5, 1.0⟩ true,
      .distance 24 1 0 4.0 ⟨0.5, 1.0⟩ false, .distance 25 0 1 5.0 ⟨0.5, 1.0⟩ false,
      .axisAligned 26 .horizontal 1 0, .pointOnLine 27 0 10, .pointOnLine 28 0 11]
  labels := .empty

theorem seed_states_first_rivals :
    ∃ store, seed rivalsSketch (.empty Scalar.tolerance) = .ok store ∧
      .lineDistance 2 0 1 2.0 ∈ store.facts ∧ .lineDistance 2 0 1 3.0 ∉ store.facts ∧
      .distance 0 1 4.0 ∈ store.facts ∧ .distance 0 1 5.0 ∉ store.facts ∧
      .horizontal 0 1 ∈ store.facts ∧ .vertical 0 1 ∉ store.facts ∧
      .collinear [0, 0, 1] ∈ store.facts := by
  have hcheck : rivalsSketch.check = .ok () := Sketch.check_eq_ok_of_isOk (by decide +kernel)
  obtain ⟨store, hseed, -, hfirst, -⟩ := seed_states_first hcheck Scalar.tolerance
  have hoffset : rivalsSketch.elements.findSome? (rivalsSketch.offset? 2 0 1) = some 2.0 := by
    decide +kernel
  have hspacing : rivalsSketch.elements.findSome? (Element.spacing? 0 1) = some 4.0 := by
    decide +kernel
  refine ⟨store, hseed, (hfirst.lineDistance 2 0 1 2.0).mpr hoffset, fun h => ?_,
    (hfirst.distance 0 1 4.0).mpr hspacing, fun h => ?_,
    (hfirst.horizontal 0 1).mpr ⟨26, .inr (by decide +kernel)⟩, fun h => ?_,
    (hfirst.collinear [0, 0, 1]).mpr ⟨27, 0, 10, 0, 1, by decide +kernel, by decide +kernel,
      .refl _, by decide⟩⟩
  · have hequal := hoffset.symm.trans ((hfirst.lineDistance 2 0 1 3.0).mp h)
    exact absurd hequal (by decide)
  · have hequal := hspacing.symm.trans ((hfirst.distance 0 1 5.0).mp h)
    exact absurd hequal (by decide)
  · obtain ⟨id, hid⟩ := (hfirst.vertical 0 1).mp h
    simp [rivalsSketch] at hid

end Solve

end PlaneSketch

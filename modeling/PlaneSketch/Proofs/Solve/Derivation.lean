import PlaneSketch.Proofs.Solve.Nearest
import PlaneSketch.Proofs.Solve.Seeding
import PlaneSketch.Proofs.Solve.Settling

namespace PlaneSketch

variable {α : Type}

namespace Store

variable {s t : Store α}

-- The store as it was when it held so many facts.
def upTo (s : Store α) (i : Nat) : Store α := { s with facts := s.facts.take i }

theorem Grows.upTo_eq (h : Grows s t) {i : Nat} (hi : i ≤ s.size) : t.upTo i = s.upTo i := by
  obtain ⟨learned, hlearned⟩ := h.facts
  simp only [upTo, h.epsilon, ← hlearned, List.take_append_of_le_length hi]

theorem agreeOnCurves_of_curves_eq
    (h : s.facts.filter Fact.isCurve = t.facts.filter Fact.isCurve) (p : Handle) :
    AgreeOnCurves s t p :=
  agreeOnCurves_of_filter_eq Fact.isCurve h (fun _ _ _ hcurve => hcurve)
    (fun _ _ _ hcurve => hcurve)

end Store

namespace Solve

section Order

variable [Scalar α] {ctx : Context α} {s t : Store α} {rule : Rule} {fact : Fact α}

theorem Rule.length_conclusions_equalRadii (ctx : Context α) (s : Store α) (fact : Fact α) :
    (Rule.equalRadii.conclusions ctx s fact).length ≤ 1 := by
  cases fact with
  | equidistant center p q =>
      change (equalRadiiFrom s center p q).length ≤ 1
      unfold equalRadiiFrom
      split <;> simp
  | _ => exact Nat.zero_le 1

-- A rule does not see its own conclusions: positions are not read where curves are intersected,
-- and curves are read nowhere else. A radius would be seen, but comes alone.
theorem Rule.conclusions_append {earlier : List (Fact α)}
    (hearlier : ∀ known ∈ earlier, known ∈ rule.conclusions ctx s fact)
    (halone : rule = .equalRadii → earlier = []) :
    rule.conclusions ctx { s with facts := s.facts ++ earlier } fact =
      rule.conclusions ctx s fact := by
  cases hrule : rule.intersects with
  | true =>
      have hpositions : earlier.filter Fact.isCurve = [] := by
        refine List.filter_eq_nil_iff.mpr fun known hknown => ?_
        simp [isCurve_of_mem_conclusions hrule (hearlier known hknown)]
      exact conclusions_congr_of_intersects hrule rfl rfl (fun _ _ => rfl) fun p _ =>
        Store.agreeOnCurves_of_curves_eq (by simp [hpositions]) p
  | false =>
      by_cases hradii : rule = .equalRadii
      · rw [halone hradii, List.append_nil]
      · have hcurves : earlier.filter (fun known => !known.isCurve) = [] := by
          refine List.filter_eq_nil_iff.mpr fun known hknown => ?_
          simp [isCurve_of_mem_conclusions_of_derives hrule hradii (hearlier known hknown)]
        exact conclusions_congr_of_derives hrule rfl fun p _ =>
          Store.agreeOn_of_premises_eq (by simp [Store.premises, hcurves]) p

-- A fact that some rule concludes from the store.
def Follows (ctx : Context α) (s : Store α) (conclusion : Fact α) : Prop :=
  ∃ rule : Rule, ∃ fact ∈ s.facts, conclusion ∈ rule.conclusions ctx s fact

theorem Step.follows (h : Step ctx s t) {i : Nat} (hi : s.size ≤ i)
    (hfact : t.facts[i]? = some fact) : Follows ctx (t.upTo i) fact := by
  obtain ⟨rule, s, trigger, hmem, -⟩ := h
  obtain ⟨learned, happend, hsublist, -⟩ :=
    s.exists_append_addAll (rule.conclusions ctx s trigger)
  have hlearned : learned[i - s.size]? = some fact := by
    rwa [happend, List.getElem?_append_right hi] at hfact
  have hupTo : (s.addAll (rule.conclusions ctx s trigger)).upTo i =
      { s with facts := s.facts ++ learned.take (i - s.size) } := by
    rw [Store.upTo, happend, (s.grows_addAll _).epsilon, List.take_append,
      List.take_of_length_le hi]
    rfl
  have halone : rule = .equalRadii → learned.take (i - s.size) = [] := by
    rintro rfl
    have hlength := Rule.length_conclusions_equalRadii ctx s trigger
    have hle := hsublist.length_le
    obtain ⟨hlt, -⟩ := List.getElem?_eq_some_iff.mp hlearned
    rw [show i - s.size = 0 by omega, List.take_zero]
  rw [hupTo]
  refine ⟨rule, trigger, List.mem_append_left _ hmem, ?_⟩
  rw [Rule.conclusions_append (fun known hknown => hsublist.subset (List.mem_of_mem_take hknown))
    halone]
  exact hsublist.subset (List.mem_of_getElem? hlearned)

-- Whatever a run adds follows from what was there before it.
theorem Steps.follows (h : Steps ctx s t) {i : Nat} (hi : s.size ≤ i)
    (hfact : t.facts[i]? = some fact) : Follows ctx (t.upTo i) fact := by
  induction h with
  | refl =>
      obtain ⟨hlt, -⟩ := List.getElem?_eq_some_iff.mp hfact
      exact absurd hlt (Nat.not_lt.mpr hi)
  | @tail u t _ hstep ih =>
      by_cases hu : u.size ≤ i
      · exact hstep.follows hu hfact
      · have hlt : i < u.facts.length := Nat.not_le.mp hu
        have hgrows := hstep.grows
        rw [hgrows.upTo_eq (Nat.le_of_lt hlt)]
        obtain ⟨learned, hlearned⟩ := hgrows.facts
        rw [← hlearned, List.getElem?_append_left hlt] at hfact
        exact ih hfact

end Order

-- The distance between two points, with the facts it is read off.
inductive Measures (p q : Handle) : List (Fact Float) → Float → Prop
  | same (h : p = q) : Measures p q [] 0.0
  | positions (a b : Point Float) : Measures p q [.fixed p a, .fixed q b] (a.dist b)
  | forth (d : Float) : Measures p q [.distance p q d] d
  | back (d : Float) : Measures p q [.distance q p d] d

theorem exists_measures {store : Store Float} {p q : Handle} {d : Float}
    (h : store.knownDistance? p q = some d) :
    ∃ premises, Measures p q premises d ∧ ∀ premise ∈ premises, premise ∈ store.facts := by
  rcases Store.mem_of_knownDistance? h with ⟨heq, rfl⟩ | ⟨a, b, ha, hb, rfl⟩ | hd | hd
  · exact ⟨[], .same heq, by simp⟩
  · exact ⟨_, .positions a b, by simp [ha, hb]⟩
  · exact ⟨_, .forth d, by simp [hd]⟩
  · exact ⟨_, .back d, by simp [hd]⟩

-- What is inferred in a sketch, with the facts it is inferred from. Where several positions are
-- possible, the one that the ruler puts nearest to where the point is drawn is taken.
inductive Infers (ruler : Ruler Float) (s : Sketch) (options : Options Float) :
    List (Fact Float) → Fact Float → Prop
  | upright (p q : Handle) (a : Point Float) :
      Infers ruler s options [.fixed p a, .vertical p q]
        (.onLine q a (a + ⟨0.0, options.axisLength⟩))
  | level (p q : Handle) (a : Point Float) :
      Infers ruler s options [.fixed p a, .horizontal p q]
        (.onLine q a (a + ⟨options.axisLength, 0.0⟩))
  | around (p q : Handle) (a : Point Float) (d : Float) :
      Infers ruler s options [.fixed p a, .distance p q d] (.onCircle q a d)
  | lineWithCircle {p : Handle} {drawn q : Point Float} (line : Line Float) (circle : Circle Float)
      (hdrawn : .point p drawn ∈ s.elements)
      (hnearest : ruler.IsNearest (line.meetCircle circle) drawn q) :
      Infers ruler s options [.onLine p line.a line.b, .onCircle p circle.center circle.radius]
        (.fixed p q)
  | circles {p : Handle} {drawn q : Point Float} (circle other : Circle Float)
      (hdrawn : .point p drawn ∈ s.elements)
      (hapart : ¬circle.center.dist other.center ≤ options.epsilon)
      (hnearest : ruler.IsNearest (circle.meetCircle other) drawn q) :
      Infers ruler s options
        [.onCircle p circle.center circle.radius, .onCircle p other.center other.radius]
        (.fixed p q)
  | lines (p : Handle) {q : Point Float} (line other : Line Float)
      (hmeet : line.meetLine other = some q) :
      Infers ruler s options [.onLine p line.a line.b, .onLine p other.a other.b] (.fixed p q)
  | offset (p start stop : Handle) (value : Float) {a b : Point Float}
      (hapart : ¬a.dist b ≤ options.epsilon) :
      Infers ruler s options [.lineDistance p start stop value, .fixed start a, .fixed stop b]
        (.onLine p (a + (b - a).normalize.rotate90.scale value)
          (b + (b - a).normalize.rotate90.scale value))
  | collinear {points : List Handle} {p first second : Handle} {a b : Point Float}
      (hp : p ∈ points) (hfirst : first ∈ points) (hsecond : second ∈ points)
      (hapart : b.near options.epsilon a = false) :
      Infers ruler s options [.collinear points, .fixed first a, .fixed second b] (.onLine p a b)
  | bisector (center p q : Handle) {a b : Point Float} (hapart : ¬a.dist b ≤ options.epsilon) :
      Infers ruler s options [.equidistant center p q, .fixed p a, .fixed q b]
        (.onLine center (a.midpoint b) (a.midpoint b + ⟨b.y - a.y, -(b.x - a.x)⟩))
  | secondRadius {center p q : Handle} {premises : List (Fact Float)} {r : Float}
      (hr : Measures center p premises r) :
      Infers ruler s options (.equidistant center p q :: premises) (.distance center q r)
  | firstRadius {center p q : Handle} {premises : List (Fact Float)} {r : Float}
      (hr : Measures center q premises r) :
      Infers ruler s options (.equidistant center p q :: premises) (.distance center p r)

theorem exists_infers {ruler : Ruler Float} (hruler : ruler.Lawful) {s : Sketch}
    (hs : s.WellFormed) {options : Options Float} {store : Store Float}
    (hpoints : ∀ fact ∈ store.facts, ∀ p ∈ fact.handles, s.HasPoint p) {fact : Fact Float}
    (h : Concludes ⟨ruler, initialPositions s, options⟩ store fact) :
    ∃ premises, Infers ruler s options premises fact ∧
      ∀ premise ∈ premises, premise ∈ store.facts := by
  have hchoice {p : Handle} {q : Point Float} {candidates : List (Point Float)}
      (hp : s.HasPoint p)
      (hnearest : ruler.nearest candidates ((initialPositions s).get? p) = some q) :
      ∃ drawn, .point p drawn ∈ s.elements ∧ ruler.IsNearest candidates drawn q := by
    obtain ⟨drawn, hdrawn⟩ := hp
    rw [(get?_initialPositions hs.distinct).mpr hdrawn] at hnearest
    exact ⟨drawn, hdrawn, hruler.isNearest_of_nearest hnearest⟩
  cases h with
  | @upright p q a hfixed hvertical =>
      exact ⟨_, .upright p q a, by simp [hfixed, hvertical]⟩
  | @level p q a hfixed hhorizontal =>
      exact ⟨_, .level p q a, by simp [hfixed, hhorizontal]⟩
  | @around p q a d hfixed hdistance =>
      exact ⟨_, .around p q a d, by simp [hfixed, hdistance]⟩
  | @lineWithCircle p line circle q hline hcircle hnearest =>
      obtain ⟨drawn, hdrawn, hnearest⟩ :=
        hchoice (hpoints _ hline p List.mem_cons_self) hnearest
      exact ⟨_, .lineWithCircle line circle hdrawn hnearest, by simp [hline, hcircle]⟩
  | @circles p circle other q hcircle hother hapart hnearest =>
      obtain ⟨drawn, hdrawn, hnearest⟩ :=
        hchoice (hpoints _ hcircle p List.mem_cons_self) hnearest
      exact ⟨_, .circles circle other hdrawn hapart hnearest, by simp [hcircle, hother]⟩
  | @lines p line other q hline hother hmeet =>
      exact ⟨_, .lines p line other hmeet, by simp [hline, hother]⟩
  | @offset p start stop value a b hoffset ha hb hapart =>
      have ha := Store.mem_of_position? ha
      have hb := Store.mem_of_position? hb
      exact ⟨_, .offset p start stop value hapart, by simp [hoffset, ha, hb]⟩
  | collinear hcollinear hanchors hp =>
      obtain ⟨first, hfirst, second, hsecond, ha, hb, hapart⟩ := Rule.exists_of_anchors hanchors
      have ha := Store.mem_of_position? ha
      have hb := Store.mem_of_position? hb
      exact ⟨_, .collinear hp hfirst hsecond hapart, by simp [hcollinear, ha, hb]⟩
  | @bisector center p q a b hequal ha hb hapart =>
      have ha := Store.mem_of_position? ha
      have hb := Store.mem_of_position? hb
      exact ⟨_, .bisector center p q hapart, by simp [hequal, ha, hb]⟩
  | secondRadius hequal hknown _ =>
      obtain ⟨premises, hr, hpremises⟩ := exists_measures hknown
      exact ⟨_, .secondRadius hr, List.forall_mem_cons.mpr ⟨hequal, hpremises⟩⟩
  | firstRadius hequal hknown _ =>
      obtain ⟨premises, hr, hpremises⟩ := exists_measures hknown
      exact ⟨_, .firstRadius hr, List.forall_mem_cons.mpr ⟨hequal, hpremises⟩⟩

-- Every fact beyond those the sketch states is what a rule concludes from the facts before it, and
-- is inferred from some of these, whichever ruler measures and chooses.
theorem solve_derived {ruler : Ruler Float} (hruler : ruler.Lawful) {s : Sketch}
    (hs : s.check = .ok ()) (options : Options Float) :
    ∃ seeds solution, seed s (.empty options.epsilon) = .ok seeds ∧
      solve ruler s options = .ok solution ∧ seeds.facts <+: solution.facts ∧
      ∀ i fact, seeds.size ≤ i → solution.facts[i]? = some fact →
        (∃ rule : Rule, ∃ trigger ∈ solution.facts.take i, fact ∈
          rule.conclusions ⟨ruler, initialPositions s, options⟩
            ⟨options.epsilon, solution.facts.take i⟩ trigger) ∧
        ∃ premises, Infers ruler s options premises fact ∧
          ∀ premise ∈ premises, ∃ j < i, solution.facts[j]? = some premise := by
  have hs := Sketch.wellFormed_of_check hs
  have hsteps := steps_propagated ruler s options
  refine ⟨_, _, seed_eq_ok hs options.epsilon, solve_eq_ok hs options, hsteps.grows.facts, ?_⟩
  intro i fact hi hfact
  simp only [finish_facts] at hfact ⊢
  obtain ⟨rule, trigger, htrigger, hconclusion⟩ := hsteps.follows hi hfact
  have hpoints : ∀ known ∈ ((propagated ruler s options).store.upTo i).facts, ∀ p ∈ known.handles,
      s.HasPoint p := fun known hknown p hp =>
    hasPoint_of_mem_propagated hs (List.mem_of_mem_take hknown) hp
  obtain ⟨premises, hinfers, hpremises⟩ :=
    exists_infers hruler hs hpoints (concludes_of_mem htrigger hconclusion)
  have hepsilon : (propagated ruler s options).store.upTo i =
      ⟨options.epsilon, (propagated ruler s options).store.facts.take i⟩ := by
    rw [Store.upTo, hsteps.grows.epsilon, seeded, (Store.grows_addAll _ _).epsilon]
    rfl
  rw [hepsilon] at hconclusion
  refine ⟨⟨rule, trigger, htrigger, hconclusion⟩, premises, hinfers, fun premise hpremise => ?_⟩
  obtain ⟨j, hj, heq⟩ := List.mem_take_iff_getElem.mp (hpremises premise hpremise)
  exact ⟨j, by omega, List.getElem?_eq_some_iff.mpr ⟨by omega, heq⟩⟩

-- A ladder of length five that stands on a fixed point and reaches to the height of another, drawn
-- closer to the left of the two ends this leaves. Six facts are stated, then follow a circle, a
-- line and the end.
def ladderSketch : Sketch where
  elements :=
    [.point 0 ⟨0.0, 0.0⟩, .point 1 ⟨9.0, 4.0⟩, .point 2 ⟨-2.0, 5.0⟩, .fixed 10 0 ⟨0.0, 0.0⟩,
      .fixed 11 1 ⟨9.0, 4.0⟩, .axisAligned 12 .horizontal 1 2,
      .distance 13 0 2 5.0 ⟨0.5, 1.0⟩ false]
  labels := .empty

theorem solve_derived_ladder :
    ∃ solution, solve .standard ladderSketch .standard = .ok solution ∧
      solution.facts[8]? = some (.fixed 2 ⟨-3.0, 4.0⟩) ∧
      ∃ premises, Infers .standard ladderSketch .standard premises (.fixed 2 ⟨-3.0, 4.0⟩) ∧
        ∀ premise ∈ premises, ∃ j < 8, solution.facts[j]? = some premise := by
  have hcheck : ladderSketch.check = .ok () := Sketch.check_eq_ok_of_isOk (by decide +kernel)
  have hsize : (seed ladderSketch (.empty Scalar.tolerance)).toOption.map Store.size = some 6 := by
    decide +kernel
  have hend : (solve .standard ladderSketch .standard).toOption.map
      (fun solution => solution.facts[8]?) = some (some (.fixed 2 ⟨-3.0, 4.0⟩)) := by decide +kernel
  obtain ⟨seeds, solution, hseed, hsolve, -, hderived⟩ :=
    solve_derived Ruler.lawful_standard hcheck .standard
  change seed ladderSketch (.empty Scalar.tolerance) = .ok seeds at hseed
  rw [hseed] at hsize
  rw [hsolve] at hend
  have hsix : seeds.size = 6 := Option.some.inj hsize
  have hfact : solution.facts[8]? = some (.fixed 2 ⟨-3.0, 4.0⟩) := Option.some.inj hend
  exact ⟨solution, hsolve, hfact, (hderived 8 _ (by omega) hfact).2⟩

end Solve

end PlaneSketch

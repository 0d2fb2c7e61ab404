import PlaneSketch.Proofs.Geometry.Exact
import PlaneSketch.Proofs.Solve.Conclusion

namespace PlaneSketch

-- What a fact says of the positions that points have in the plane.
def Fact.Holds (place : Handle → Point ℝ) : Fact ℝ → Prop
  | fixed p position => place p = position
  | onLine p a b => Line.Contains ⟨a, b⟩ (place p)
  | onCircle p center radius => (place p).dist center = radius
  | vertical p q => (place p).x = (place q).x
  | horizontal p q => (place p).y = (place q).y
  | distance p q value => (place p).dist (place q) = value
  -- The area spanned with the line is the signed distance times the length of the line, positive
  -- to the left. A line without length has no sides, and nothing is said.
  | lineDistance p start stop value =>
      (place stop - place start).cross (place p - place start) =
        value * (place start).dist (place stop)
  | collinear points => ∃ line : Line ℝ, ∀ p ∈ points, line.Contains (place p)
  | equidistant center p q => (place center).dist (place p) = (place center).dist (place q)
  | bare => True

-- Positions for which all that a store knows is true.
def Store.Models (s : Store ℝ) (place : Handle → Point ℝ) : Prop :=
  ∀ fact ∈ s.facts, fact.Holds place

namespace Store.Models

variable {s : Store ℝ} {place : Handle → Point ℝ}

theorem addAll (hs : s.Models place) {facts : List (Fact ℝ)}
    (h : ∀ fact ∈ facts, fact.Holds place) : (s.addAll facts).Models place := by
  intro fact hfact
  rcases mem_addAll hfact with hold | hnew
  · exact hs fact hold
  · exact h fact hnew

theorem position? (hs : s.Models place) {p : Handle} {q : Point ℝ}
    (h : s.position? p = some q) : place p = q :=
  hs _ (mem_of_position? h)

theorem knownDistance? (hs : s.Models place) {p q : Handle} {d : ℝ}
    (h : s.knownDistance? p q = some d) : (place p).dist (place q) = d := by
  rcases mem_of_knownDistance? h with ⟨rfl, rfl⟩ | ⟨a, b, ha, hb, rfl⟩ | hd | hd
  · norm_num
  · rw [show place p = a from hs _ ha, show place q = b from hs _ hb]
  · exact hs _ hd
  · rw [Point.dist_comm]
    exact hs _ hd

end Store.Models

namespace Solve

variable {ctx : Context ℝ} {s : Store ℝ} {place : Handle → Point ℝ}

theorem zero_lt_axisLength {options : Options ℝ} (h : options.check = .ok options) :
    0 < options.axisLength := by
  by_contra hle
  have hzero : options.axisLength ≤ 0.0 := by
    norm_num
    exact not_lt.mp hle
  simp only [Options.check, hzero, if_true] at h
  split at h
  · cases h
  · split at h <;> cases h

-- A point above or below another lies on the upright line through it.
theorem contains_upright {a p : Point ℝ} {length : ℝ} (hlength : 0 < length) (hx : p.x = a.x) :
    Line.Contains ⟨a, a + ⟨0.0, length⟩⟩ p := by
  refine ⟨(p.y - a.y) / length, Point.ext ?_ ?_⟩
  · simp only [Line.pointAt_x, Point.add_x]
    norm_num
    exact hx
  · simp only [Line.pointAt_y, Point.add_y]
    field_simp
    ring

theorem contains_level {a p : Point ℝ} {length : ℝ} (hlength : 0 < length) (hy : p.y = a.y) :
    Line.Contains ⟨a, a + ⟨length, 0.0⟩⟩ p := by
  refine ⟨(p.x - a.x) / length, Point.ext ?_ ?_⟩
  · simp only [Line.pointAt_x, Point.add_x]
    field_simp
    ring
  · simp only [Line.pointAt_y, Point.add_y]
    norm_num
    exact hy

-- Whatever follows from a store without an intersection holds wherever the store does.
theorem Concludes.holds (hoptions : ctx.options.check = .ok ctx.options)
    (hepsilon : Scalar.tolerance ≤ ctx.options.epsilon) (hs : s.Models place) {fact : Fact ℝ}
    (h : Concludes ctx s fact) (hkind : fact.kind ≠ .fixed) : fact.Holds place := by
  have hlength := zero_lt_axisLength hoptions
  have hlong {a b : Point ℝ} (hd : ¬a.dist b ≤ ctx.options.epsilon) :
      Scalar.tolerance ≤ a.dist b := hepsilon.trans (not_le.mp hd).le
  cases h with
  | upright hfixed hvertical =>
      obtain rfl := hs _ hfixed
      exact contains_upright hlength (hs _ hvertical).symm
  | level hfixed hhorizontal =>
      obtain rfl := hs _ hfixed
      exact contains_level hlength (hs _ hhorizontal).symm
  | around hfixed hdistance =>
      obtain rfl := hs _ hfixed
      exact (Point.dist_comm _ _).trans (hs _ hdistance)
  | lineWithCircle => exact absurd rfl hkind
  | circles => exact absurd rfl hkind
  | lines => exact absurd rfl hkind
  | offset hoffset ha hb hapart =>
      obtain rfl := hs.position? ha
      obtain rfl := hs.position? hb
      exact Line.contains_offset (hlong hapart) (hs _ hoffset)
  | collinear hcollinear hanchors hp =>
      obtain ⟨first, hfirst, second, hsecond, ha, hb, hapart⟩ := Rule.exists_of_anchors hanchors
      obtain rfl := hs.position? ha
      obtain rfl := hs.position? hb
      obtain ⟨line, hline⟩ := hs _ hcollinear
      have hne : place first ≠ place second := by
        intro heq
        have hpositive := Scalar.tolerance_pos.trans_le hepsilon
        simp [Point.near, heq, hpositive] at hapart
      exact Line.contains_of_contains (hline _ hfirst) (hline _ hsecond) hne (hline _ hp)
  | bisector hequal ha hb hapart =>
      obtain rfl := hs.position? ha
      obtain rfl := hs.position? hb
      exact Line.contains_bisector (Scalar.tolerance_pos.trans_le (hlong hapart)) (hs _ hequal)
  | secondRadius hequal hknown _ =>
      exact (hs _ hequal).symm.trans (hs.knownDistance? hknown)
  | firstRadius hequal hknown _ =>
      exact (hs _ hequal).trans (hs.knownDistance? hknown)

theorem holds_of_mem_linesFrom (hs : s.Models place) {p : Handle} {line : Line ℝ}
    (hline : .onLine p line.a line.b ∈ s.facts) {fact : Fact ℝ}
    (h : fact ∈ Rule.linesFrom s p line) : fact.Holds place := by
  obtain ⟨other, hother, h⟩ := List.mem_filterMap.mp h
  obtain ⟨q, hmeet, rfl⟩ := Option.map_eq_some_iff.mp h
  exact Line.eq_of_meetLine (hs _ hline) (hs _ (Store.mem_linesOf.mp hother)) hmeet

theorem Rule.holds_of_mem_conclusions {rule : Rule} (hline : rule ≠ .linesWithCircles)
    (hcircle : rule ≠ .circles) (hoptions : ctx.options.check = .ok ctx.options)
    (hepsilon : Scalar.tolerance ≤ ctx.options.epsilon) (hs : s.Models place)
    {fact conclusion : Fact ℝ} (hfact : fact ∈ s.facts)
    (h : conclusion ∈ rule.conclusions ctx s fact) : conclusion.Holds place := by
  by_cases hlines : rule = .lines
  · subst hlines
    cases fact with
    | onLine p a b => exact holds_of_mem_linesFrom hs hfact h
    | _ => cases h
  · have hkind : conclusion.kind ≠ .fixed := by
      intro hfixed
      have htarget := kind_mem_targets h
      rw [hfixed] at htarget
      cases rule <;> simp_all [targets]
    exact (concludes_of_mem hfact h).holds hoptions hepsilon hs hkind

-- A property that each of a rule's steps keeps is kept by a run of the rule.
theorem Rule.run_induction {α : Type} [Scalar α] {ctx : Context α} {rule : Rule}
    {motive : Store α → Prop} (hstep : ∀ s, motive s → ∀ fact ∈ s.facts,
      motive (s.addAll (rule.conclusions ctx s fact)))
    {s : Store α} (hs : motive s) : motive (rule.run ctx s) := by
  have hfold : ∀ (facts : List (Fact α)) (t : Store α), (∀ fact ∈ facts, fact ∈ t.facts) →
      motive t → motive (facts.foldl (fun s fact => s.addAll (rule.conclusions ctx s fact)) t) := by
    intro facts
    induction facts with
    | nil => exact fun t _ ht => ht
    | cons fact rest ih =>
        intro t hmem ht
        refine ih _ (fun known hknown => ?_) (hstep t ht fact (hmem fact List.mem_cons_self))
        exact (t.grows_addAll _).mem (hmem known (List.mem_cons_of_mem _ hknown))
  exact hfold _ s (fun fact hfact => (Store.mem_ofKind.mp hfact).1) hs

-- Every rule that does not choose between candidates is sound: positions for which all that was
-- known is true make all that is learned true as well.
theorem models_run (rule : Rule) (hline : rule ≠ .linesWithCircles) (hcircle : rule ≠ .circles)
    (hoptions : ctx.options.check = .ok ctx.options)
    (hepsilon : Scalar.tolerance ≤ ctx.options.epsilon) (hs : s.Models place) :
    (rule.run ctx s).Models place := by
  refine Rule.run_induction (motive := fun t => t.Models place) (fun t ht fact hfact => ?_) hs
  exact ht.addAll fun conclusion hconclusion =>
    Rule.holds_of_mem_conclusions hline hcircle hoptions hepsilon ht hfact hconclusion

-- A wall of length five between two fixed points, and a point five to its left and a wall's length
-- further on.
noncomputable def wallStore : Store ℝ :=
  ⟨Scalar.tolerance, [.fixed 0 ⟨0, 0⟩, .fixed 1 ⟨3, 4⟩, .lineDistance 2 0 1 5]⟩

noncomputable def wallContext : Context ℝ := ⟨.standard, .empty, .standard⟩

def wallPlace : Handle → Point ℝ
  | 0 => ⟨0, 0⟩
  | 1 => ⟨3, 4⟩
  | _ => ⟨-1, 7⟩

theorem dist_wall : (⟨0, 0⟩ : Point ℝ).dist ⟨3, 4⟩ = 5 := by
  rw [Point.dist_eq, Real.sqrt_eq_iff_mul_self_eq] <;> norm_num

theorem models_wallStore : wallStore.Models wallPlace := by
  simp only [Store.Models, wallStore, List.forall_mem_cons]
  refine ⟨rfl, rfl, ?_, by simp⟩
  change (_ : Point ℝ).cross _ = 5 * (⟨0, 0⟩ : Point ℝ).dist ⟨3, 4⟩
  rw [dist_wall]
  norm_num [Point.cross_eq, wallPlace]

theorem offsetLinesFrom_wall :
    Rule.offsetLinesFrom wallContext wallStore 2 0 1 5 = [.onLine 2 ⟨-4, 3⟩ ⟨-1, 7⟩] := by
  have hstart : wallStore.position? 0 = some ⟨0, 0⟩ := rfl
  have hstop : wallStore.position? 1 = some ⟨3, 4⟩ := rfl
  have hnorm : ((⟨3, 4⟩ : Point ℝ) - ⟨0, 0⟩).norm = 5 := by rw [Point.norm_sub, dist_wall]
  have hlong : ¬(5 : ℝ) ≤ wallContext.options.epsilon := by
    norm_num [wallContext, Options.standard, Scalar.tolerance]
  have hdirection : ((⟨3, 4⟩ : Point ℝ) - ⟨0, 0⟩).normalize = ⟨3 / 5, 4 / 5⟩ := by
    rw [Point.normalize_of_le (by norm_num [hnorm, Scalar.tolerance]), hnorm]
    norm_num
  simp only [Rule.offsetLinesFrom, hstart, hstop, dist_wall, if_neg hlong, hdirection]
  refine congrArg (fun line : Line ℝ => [Fact.onLine 2 line.a line.b])
    (show Line.mk _ _ = ⟨⟨-4, 3⟩, ⟨-1, 7⟩⟩ from ?_)
  norm_num [Point.ext_iff, Point.rotate90]

theorem models_run_wall :
    wallStore.Models wallPlace ∧
    .onLine 2 ⟨-4, 3⟩ ⟨-1, 7⟩ ∈ (Rule.offsetLines.run wallContext wallStore).facts ∧
    (Rule.offsetLines.run wallContext wallStore).Models wallPlace := by
  have hoptions : wallContext.options.check = .ok wallContext.options := by
    rw [Options.check, if_neg, if_neg, if_neg] <;>
      norm_num [wallContext, Options.standard, Scalar.tolerance]
  have hrun : Rule.offsetLines.run wallContext wallStore =
      wallStore.addAll (Rule.offsetLinesFrom wallContext wallStore 2 0 1 5) := rfl
  have hlearned : wallStore.knows (.onLine 2 ⟨-4, 3⟩ ⟨-1, 7⟩) = false := rfl
  refine ⟨models_wallStore, ?_, models_run .offsetLines (by decide) (by decide) hoptions le_rfl
    models_wallStore⟩
  rw [hrun, offsetLinesFrom_wall, Store.addAll_cons, Store.add_of_not_knows hlearned]
  simp

end Solve

end PlaneSketch

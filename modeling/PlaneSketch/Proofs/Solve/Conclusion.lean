import PlaneSketch.Proofs.Fact.Agreement
import PlaneSketch.Proofs.Solve.Step

namespace PlaneSketch.Solve

variable {α : Type} [Scalar α]

-- What can be concluded from a store, each with the facts it rests on.
inductive Concludes (ctx : Context α) (s : Store α) : Fact α → Prop
  | upright {p q : Handle} {position : Point α} (hfixed : .fixed p position ∈ s.facts)
      (hvertical : .vertical p q ∈ s.facts) :
      Concludes ctx s (.onLine q position (position + ⟨0.0, ctx.options.axisLength⟩))
  | level {p q : Handle} {position : Point α} (hfixed : .fixed p position ∈ s.facts)
      (hhorizontal : .horizontal p q ∈ s.facts) :
      Concludes ctx s (.onLine q position (position + ⟨ctx.options.axisLength, 0.0⟩))
  | around {p q : Handle} {position : Point α} {d : α} (hfixed : .fixed p position ∈ s.facts)
      (hdistance : .distance p q d ∈ s.facts) :
      Concludes ctx s (.onCircle q position d)
  | lineWithCircle {p : Handle} {line : Line α} {circle : Circle α} {q : Point α}
      (hline : .onLine p line.a line.b ∈ s.facts)
      (hcircle : .onCircle p circle.center circle.radius ∈ s.facts)
      (hnearest : ctx.ruler.nearest (line.meetCircle circle) (ctx.initial.get? p) = some q) :
      Concludes ctx s (.fixed p q)
  | circles {p : Handle} {circle other : Circle α} {q : Point α}
      (hcircle : .onCircle p circle.center circle.radius ∈ s.facts)
      (hother : .onCircle p other.center other.radius ∈ s.facts)
      (hapart : ¬circle.center.dist other.center ≤ ctx.options.epsilon)
      (hnearest : ctx.ruler.nearest (circle.meetCircle other) (ctx.initial.get? p) = some q) :
      Concludes ctx s (.fixed p q)
  | lines {p : Handle} {line other : Line α} {q : Point α}
      (hline : .onLine p line.a line.b ∈ s.facts) (hother : .onLine p other.a other.b ∈ s.facts)
      (hmeet : line.meetLine other = some q) :
      Concludes ctx s (.fixed p q)
  | offset {p start stop : Handle} {value : α} {a b : Point α}
      (hoffset : .lineDistance p start stop value ∈ s.facts) (ha : s.position? start = some a)
      (hb : s.position? stop = some b) (hapart : ¬a.dist b ≤ ctx.options.epsilon) :
      Concludes ctx s (.onLine p (a + (b - a).normalize.rotate90.scale value)
        (b + (b - a).normalize.rotate90.scale value))
  | collinear {points : List Handle} {p : Handle} {a b : Point α}
      (hcollinear : .collinear points ∈ s.facts)
      (hanchors : Rule.anchors ctx s points = some (a, b)) (hp : p ∈ points) :
      Concludes ctx s (.onLine p a b)
  | bisector {center p q : Handle} {a b : Point α} (hequal : .equidistant center p q ∈ s.facts)
      (ha : s.position? p = some a) (hb : s.position? q = some b)
      (hapart : ¬a.dist b ≤ ctx.options.epsilon) :
      Concludes ctx s (.onLine center (a.midpoint b)
        (a.midpoint b + ⟨b.y - a.y, -(b.x - a.x)⟩))
  | secondRadius {center p q : Handle} {r : α} (hequal : .equidistant center p q ∈ s.facts)
      (hknown : s.knownDistance? center p = some r) (hopen : s.knownDistance? center q = none) :
      Concludes ctx s (.distance center q r)
  | firstRadius {center p q : Handle} {r : α} (hequal : .equidistant center p q ∈ s.facts)
      (hknown : s.knownDistance? center q = some r) (hopen : s.knownDistance? center p = none) :
      Concludes ctx s (.distance center p r)

variable {ctx : Context α} {s : Store α}

namespace Rule

theorem concludes_of_axisLinesAndCirclesFrom {p : Handle} {position : Point α}
    {conclusion : Fact α} (hfixed : .fixed p position ∈ s.facts)
    (h : conclusion ∈ axisLinesAndCirclesFrom ctx s p position) :
    Concludes ctx s conclusion := by
  simp only [axisLinesAndCirclesFrom, List.mem_append, List.mem_map] at h
  rcases h with (⟨q, hq, rfl⟩ | ⟨q, hq, rfl⟩) | ⟨⟨q, d⟩, hq, rfl⟩
  · exact .upright hfixed (Store.mem_verticalsFrom.mp hq)
  · exact .level hfixed (Store.mem_horizontalsFrom.mp hq)
  · exact .around hfixed (Store.mem_distancesFrom.mp hq)

theorem concludes_of_linesWithCirclesFrom {p : Handle} {line : Line α} {conclusion : Fact α}
    (hline : .onLine p line.a line.b ∈ s.facts)
    (h : conclusion ∈ linesWithCirclesFrom ctx s p line) : Concludes ctx s conclusion := by
  obtain ⟨circle, hcircle, h⟩ := List.mem_filterMap.mp h
  obtain ⟨q, hq, rfl⟩ := Option.map_eq_some_iff.mp h
  exact .lineWithCircle hline (Store.mem_circlesOf.mp hcircle) hq

theorem concludes_of_circlesFrom {p : Handle} {circle : Circle α} {conclusion : Fact α}
    (hcircle : .onCircle p circle.center circle.radius ∈ s.facts)
    (h : conclusion ∈ circlesFrom ctx s p circle) : Concludes ctx s conclusion := by
  obtain ⟨other, hother, h⟩ := List.mem_filterMap.mp h
  by_cases hapart : circle.center.dist other.center ≤ ctx.options.epsilon
  · simp [hapart] at h
  · rw [if_neg hapart] at h
    obtain ⟨q, hq, rfl⟩ := Option.map_eq_some_iff.mp h
    exact .circles hcircle (Store.mem_circlesOf.mp hother) hapart hq

theorem concludes_of_linesFrom {p : Handle} {line : Line α} {conclusion : Fact α}
    (hline : .onLine p line.a line.b ∈ s.facts) (h : conclusion ∈ linesFrom s p line) :
    Concludes ctx s conclusion := by
  obtain ⟨other, hother, h⟩ := List.mem_filterMap.mp h
  obtain ⟨q, hq, rfl⟩ := Option.map_eq_some_iff.mp h
  exact .lines hline (Store.mem_linesOf.mp hother) hq

theorem concludes_of_offsetLinesFrom {p start stop : Handle} {value : α} {conclusion : Fact α}
    (hoffset : .lineDistance p start stop value ∈ s.facts)
    (h : conclusion ∈ offsetLinesFrom ctx s p start stop value) :
    Concludes ctx s conclusion := by
  unfold offsetLinesFrom at h
  split at h
  · rename_i a b ha hb
    by_cases hapart : a.dist b ≤ ctx.options.epsilon
    · simp [hapart] at h
    · rw [if_neg hapart, List.mem_singleton] at h
      subst h
      exact .offset hoffset ha hb hapart
  · simp at h

theorem concludes_of_collinearLinesFrom {points : List Handle} {conclusion : Fact α}
    (hcollinear : .collinear points ∈ s.facts)
    (h : conclusion ∈ collinearLinesFrom ctx s points) : Concludes ctx s conclusion := by
  unfold collinearLinesFrom at h
  split at h
  · rename_i a b hanchors
    obtain ⟨p, hp, rfl⟩ := List.mem_map.mp h
    exact .collinear hcollinear hanchors hp
  · simp at h

theorem concludes_of_bisectorLinesFrom {center p q : Handle} {conclusion : Fact α}
    (hequal : .equidistant center p q ∈ s.facts)
    (h : conclusion ∈ bisectorLinesFrom ctx s center p q) : Concludes ctx s conclusion := by
  unfold bisectorLinesFrom at h
  split at h
  · rename_i a b ha hb
    by_cases hapart : a.dist b ≤ ctx.options.epsilon
    · simp [hapart] at h
    · rw [if_neg hapart, List.mem_singleton] at h
      subst h
      exact .bisector hequal ha hb hapart
  · simp at h

theorem concludes_of_equalRadiiFrom {center p q : Handle} {conclusion : Fact α}
    (hequal : .equidistant center p q ∈ s.facts)
    (h : conclusion ∈ equalRadiiFrom s center p q) : Concludes ctx s conclusion := by
  unfold equalRadiiFrom at h
  split at h
  · rename_i r hknown hopen
    obtain rfl := List.mem_singleton.mp h
    exact .secondRadius hequal hknown hopen
  · rename_i r hopen hknown
    obtain rfl := List.mem_singleton.mp h
    exact .firstRadius hequal hknown hopen
  · simp at h

end Rule

-- Whatever a rule adds has a reason in the store.
theorem concludes_of_mem {rule : Rule} {fact conclusion : Fact α} (hfact : fact ∈ s.facts)
    (h : conclusion ∈ rule.conclusions ctx s fact) : Concludes ctx s conclusion := by
  unfold Rule.conclusions at h
  split at h
  · exact Rule.concludes_of_axisLinesAndCirclesFrom hfact h
  · exact Rule.concludes_of_linesWithCirclesFrom hfact h
  · exact Rule.concludes_of_circlesFrom hfact h
  · exact Rule.concludes_of_linesFrom hfact h
  · exact Rule.concludes_of_offsetLinesFrom hfact h
  · exact Rule.concludes_of_collinearLinesFrom hfact h
  · exact Rule.concludes_of_bisectorLinesFrom hfact h
  · exact Rule.concludes_of_equalRadiiFrom hfact h
  · simp at h

-- Nothing is concluded about a point that the store does not speak of.
theorem Concludes.exists_mem_handles {conclusion : Fact α} (h : Concludes ctx s conclusion)
    {p : Handle} (hp : p ∈ conclusion.handles) : ∃ fact ∈ s.facts, p ∈ fact.handles := by
  cases h with
  | upright _ hvertical => exact ⟨_, hvertical, by simp_all [Fact.handles]⟩
  | level _ hhorizontal => exact ⟨_, hhorizontal, by simp_all [Fact.handles]⟩
  | around _ hdistance => exact ⟨_, hdistance, by simp_all [Fact.handles]⟩
  | lineWithCircle hline _ _ => exact ⟨_, hline, hp⟩
  | circles hcircle _ _ _ => exact ⟨_, hcircle, hp⟩
  | lines hline _ _ => exact ⟨_, hline, hp⟩
  | offset hoffset _ _ _ => exact ⟨_, hoffset, by simp_all [Fact.handles]⟩
  | collinear hcollinear _ hmem => exact ⟨_, hcollinear, by simp_all [Fact.handles]⟩
  | bisector hequal _ _ _ => exact ⟨_, hequal, by simp_all [Fact.handles]⟩
  | secondRadius hequal _ _ =>
      refine ⟨_, hequal, ?_⟩
      simp only [Fact.handles, List.mem_cons] at hp ⊢
      rcases hp with hp | hp <;> simp_all
  | firstRadius hequal _ _ =>
      refine ⟨_, hequal, ?_⟩
      simp only [Fact.handles, List.mem_cons] at hp ⊢
      rcases hp with hp | hp <;> simp_all

-- What holds of all conclusions holds of all facts, if it does so at the start.
theorem Steps.forall_facts {t : Store α} {P : Fact α → Prop} (h : Steps ctx s t)
    (hs : ∀ fact ∈ s.facts, P fact) (hP : ∀ u fact, Concludes ctx u fact → P fact) :
    ∀ fact ∈ t.facts, P fact := by
  induction h with
  | refl => exact hs
  | tail _ hstep ih =>
      obtain ⟨rule, u, fact, hfact, -⟩ := hstep
      intro known hknown
      rcases Store.mem_addAll hknown with hknown | hknown
      · exact ih known hknown
      · exact hP _ known (concludes_of_mem hfact hknown)

-- No new points ever come in.
theorem Steps.forall_handles {t : Store α} {P : Handle → Prop} (h : Steps ctx s t)
    (hs : ∀ fact ∈ s.facts, ∀ p ∈ fact.handles, P p) :
    ∀ fact ∈ t.facts, ∀ p ∈ fact.handles, P p := by
  induction h with
  | refl => exact hs
  | tail _ hstep ih =>
      obtain ⟨rule, u, fact, hfact, -⟩ := hstep
      intro known hknown p hp
      rcases Store.mem_addAll hknown with hknown | hknown
      · exact ih known hknown p hp
      · obtain ⟨source, hsource, hp⟩ := (concludes_of_mem hfact hknown).exists_mem_handles hp
        exact ih source hsource p hp

namespace Rule

-- The rules that find positions, by intersecting curves. The others only read positions and what
-- relates points, and never conclude a position.
def intersects : Rule → Bool
  | linesWithCircles => true
  | circles => true
  | lines => true
  | _ => false

theorem conclusions_congr_of_derives {rule : Rule} (hrule : rule.intersects = false)
    {ctx' : Context α} {t : Store α} {fact : Fact α} (hoptions : ctx.options = ctx'.options)
    (hagree : ∀ p ∈ fact.handles, s.AgreeOn t p) :
    rule.conclusions ctx s fact = rule.conclusions ctx' t fact := by
  unfold conclusions
  split
  · have hp := hagree _ List.mem_cons_self
    simp only [axisLinesAndCirclesFrom, hoptions, hp.verticals, hp.horizontals, hp.distances]
  · cases hrule
  · cases hrule
  · cases hrule
  · rename_i p start stop value
    have hstart := hagree start (by simp [Fact.handles])
    have hstop := hagree stop (by simp [Fact.handles])
    simp only [offsetLinesFrom, hoptions, hstart.position, hstop.position]
  · rename_i points
    have hpositions : points.filterMap s.position? = points.filterMap t.position? :=
      List.filterMap_congr fun p hp => (hagree p hp).position
    simp only [collinearLinesFrom, anchors, hoptions, hpositions]
  · rename_i center p q
    have hp := hagree p (by simp [Fact.handles])
    have hq := hagree q (by simp [Fact.handles])
    simp only [bisectorLinesFrom, hoptions, hp.position, hq.position]
  · rename_i center p q
    have hcenter := hagree center (by simp [Fact.handles])
    have hp := hagree p (by simp [Fact.handles])
    have hq := hagree q (by simp [Fact.handles])
    simp only [equalRadiiFrom, hcenter.knownDistance? hp, hcenter.knownDistance? hq]
  · rfl

theorem conclusions_congr_of_intersects {rule : Rule} (hrule : rule.intersects = true)
    {ctx' : Context α} {t : Store α} {fact : Fact α} (hruler : ctx.ruler = ctx'.ruler)
    (hoptions : ctx.options = ctx'.options)
    (hinitial : ∀ p ∈ fact.handles, ctx.initial.get? p = ctx'.initial.get? p)
    (hagree : ∀ p ∈ fact.handles, s.AgreeOnCurves t p) :
    rule.conclusions ctx s fact = rule.conclusions ctx' t fact := by
  unfold conclusions
  split
  · cases hrule
  · have hp := hagree _ List.mem_cons_self
    simp only [linesWithCirclesFrom, hruler, hp.circles, hinitial _ List.mem_cons_self]
  · have hp := hagree _ List.mem_cons_self
    simp only [circlesFrom, hruler, hoptions, hp.circles, hinitial _ List.mem_cons_self]
  · have hp := hagree _ List.mem_cons_self
    simp only [linesFrom, hp.lines]
  · cases hrule
  · cases hrule
  · cases hrule
  · cases hrule
  · rfl

-- The kinds of facts that a rule concludes.
def targets : Rule → List Fact.Kind
  | axisLinesAndCircles => [.onLine, .onCircle]
  | linesWithCircles => [.fixed]
  | circles => [.fixed]
  | lines => [.fixed]
  | offsetLines => [.onLine]
  | collinearLines => [.onLine]
  | bisectorLines => [.onLine]
  | equalRadii => [.distance]

theorem kind_mem_targets {rule : Rule} {fact conclusion : Fact α}
    (h : conclusion ∈ rule.conclusions ctx s fact) : conclusion.kind ∈ rule.targets := by
  unfold conclusions at h
  split at h
  · simp only [axisLinesAndCirclesFrom, List.mem_append, List.mem_map] at h
    rcases h with (⟨q, -, rfl⟩ | ⟨q, -, rfl⟩) | ⟨d, -, rfl⟩ <;> simp [targets, Fact.kind]
  · obtain ⟨circle, -, h⟩ := List.mem_filterMap.mp h
    obtain ⟨q, -, rfl⟩ := Option.map_eq_some_iff.mp h
    exact List.mem_cons_self
  · obtain ⟨other, -, h⟩ := List.mem_filterMap.mp h
    split at h
    · cases h
    · obtain ⟨q, -, rfl⟩ := Option.map_eq_some_iff.mp h
      exact List.mem_cons_self
  · obtain ⟨other, -, h⟩ := List.mem_filterMap.mp h
    obtain ⟨q, -, rfl⟩ := Option.map_eq_some_iff.mp h
    exact List.mem_cons_self
  · rename_i p start stop value
    cases ha : s.position? start <;> cases hb : s.position? stop <;>
      simp [offsetLinesFrom, ha, hb] at h
    simp [h, targets, Fact.kind]
  · rename_i points
    cases hanchors : anchors ctx s points <;> simp [collinearLinesFrom, hanchors] at h
    obtain ⟨p, -, rfl⟩ := h
    exact List.mem_cons_self
  · rename_i center p q
    cases ha : s.position? p <;> cases hb : s.position? q <;>
      simp [bisectorLinesFrom, ha, hb] at h
    simp [h, targets, Fact.kind]
  · rename_i center p q
    cases hp : s.knownDistance? center p <;> cases hq : s.knownDistance? center q <;>
      simp [equalRadiiFrom, hp, hq] at h
    all_goals simp [h, targets, Fact.kind]
  · cases h

theorem exists_of_anchors {points : List Handle} {a b : Point α}
    (h : anchors ctx s points = some (a, b)) :
    ∃ p ∈ points, ∃ q ∈ points, s.position? p = some a ∧ s.position? q = some b ∧
      b.near ctx.options.epsilon a = false := by
  have hposition {c : Point α} (hc : c ∈ points.filterMap s.position?) :
      ∃ p ∈ points, s.position? p = some c := List.mem_filterMap.mp hc
  unfold anchors at h
  split at h
  · cases h
  · rename_i first rest hfound
    obtain ⟨second, hsecond, hpair⟩ := Option.map_eq_some_iff.mp h
    obtain ⟨rfl, rfl⟩ := Prod.mk.inj hpair
    obtain ⟨p, hp, ha⟩ := hposition (hfound ▸ List.mem_cons_self)
    obtain ⟨q, hq, hb⟩ :=
      hposition (hfound ▸ List.mem_cons_of_mem _ (List.mem_of_find?_eq_some hsecond))
    exact ⟨p, hp, q, hq, ha, hb, by simpa using List.find?_some hsecond⟩

end Rule

end PlaneSketch.Solve

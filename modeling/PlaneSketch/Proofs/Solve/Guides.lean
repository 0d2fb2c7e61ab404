import Mathlib.Data.List.Forall2
import PlaneSketch.Proofs.Geometry.Helper
import PlaneSketch.Proofs.Solve.Derivation

namespace PlaneSketch

namespace Fact

variable {α : Type}

-- Two points are aligned along an axis.
def aligned : Axis → Handle → Handle → Fact α
  | .horizontal, p, q => .horizontal p q
  | .vertical, p, q => .vertical p q

-- What lines are derived from other than along an axis.
def spans : Fact α → Bool
  | lineDistance .. => true
  | collinear _ => true
  | equidistant .. => true
  | _ => false

end Fact

namespace Solve

variable {ruler : Ruler Float} {s : Sketch} {options : Options Float} {length : Float}
  {facts : List (Fact Float)} {q : Handle} {line : Float → Line Float}

-- A line inferred for a point, in dependence on the length that is chosen to describe lines along
-- an axis: the facts it is inferred from are the same for all lengths.
def Guides (ruler : Ruler Float) (s : Sketch) (options : Options Float)
    (facts : List (Fact Float)) (q : Handle) (line : Float → Line Float) : Prop :=
  ∃ premises, (∀ premise ∈ premises, premise ∈ facts) ∧ ∀ length,
    Infers ruler s { options with axisLength := length } premises
      (.onLine q (line length).a (line length).b)

theorem Guides.of_helper {axis : Axis} {p : Handle} {a : Point Float}
    (hfixed : .fixed p a ∈ facts) (haligned : Fact.aligned axis p q ∈ facts) :
    Guides ruler s options facts q (axis.helper a) := by
  refine ⟨[.fixed p a, Fact.aligned axis p q], by simp [hfixed, haligned], fun length => ?_⟩
  cases axis with
  | horizontal => exact .level p q a
  | vertical => exact .upright p q a

theorem infers_helper_iff {axis : Axis} {p : Handle} {a b c : Point Float} :
    Infers ruler s options [.fixed p a, Fact.aligned axis p q] (.onLine q b c) ↔
      (⟨b, c⟩ : Line Float) = axis.helper a options.axisLength := by
  constructor
  · intro h
    cases axis <;> cases h <;> rfl
  · intro h
    cases axis <;> cases h
    · exact .level p q a
    · exact .upright p q a

-- A line is either drawn along an axis or does not depend on the length.
theorem Infers.of_onLine {premises : List (Fact Float)} {a b : Point Float}
    (h : Infers ruler s options premises (.onLine q a b)) :
    (∃ axis p c, premises = [.fixed p c, Fact.aligned axis p q]) ∨
      (∃ premise ∈ premises, premise.spans = true) ∧
        ∀ (options' : Options Float) (a' b' : Point Float),
          Infers ruler s options' premises (.onLine q a' b') → a' = a ∧ b' = b := by
  cases h with
  | upright p _ _ => exact .inl ⟨.vertical, p, a, rfl⟩
  | level p _ _ => exact .inl ⟨.horizontal, p, a, rfl⟩
  | _ =>
      refine .inr ⟨⟨_, List.mem_cons_self, rfl⟩, fun options' a' b' h => ?_⟩
      cases h
      exact ⟨rfl, rfl⟩

theorem Guides.cases (h : Guides ruler s options facts q line) :
    (∃ axis p a, .fixed p a ∈ facts ∧ Fact.aligned axis p q ∈ facts ∧ line = axis.helper a) ∨
      (∃ fact ∈ facts, fact.spans = true) ∧ ∀ length length', line length' = line length := by
  obtain ⟨premises, hmem, hinfers⟩ := h
  rcases Infers.of_onLine (hinfers 0.0) with ⟨axis, p, a, rfl⟩ | ⟨⟨fact, hfact, hspans⟩, hsame⟩
  · rw [List.forall_mem_cons, List.forall_mem_singleton] at hmem
    exact .inl ⟨axis, p, a, hmem.1, hmem.2,
      funext fun length => infers_helper_iff.mp (hinfers length)⟩
  · have hzero (length : Float) : line length = line 0.0 := by
      obtain ⟨ha, hb⟩ := hsame _ _ _ (hinfers length)
      cases hline : line length
      cases hline' : line 0.0
      simp_all
    exact .inr ⟨⟨fact, hmem fact hfact, hspans⟩, fun length length' => by rw [hzero, hzero length]⟩

section Rules

variable {initial : OrderedMap Handle (Point Float)} {store : Store Float} {a b : Point Float}

theorem guides_of_mem_offsetLinesFrom {p start stop : Handle} {value : Float}
    (hoffset : .lineDistance p start stop value ∈ store.facts)
    (h : .onLine q a b ∈ Rule.offsetLinesFrom ⟨ruler, initial, options⟩ store p start stop value) :
    Guides ruler s options store.facts q fun _ => ⟨a, b⟩ := by
  unfold Rule.offsetLinesFrom at h
  split at h
  · rename_i c d hc hd
    by_cases hapart : c.dist d ≤ options.epsilon
    · simp [hapart] at h
    · rw [if_neg hapart, List.mem_singleton] at h
      cases h
      have hc := Store.mem_of_position? hc
      have hd := Store.mem_of_position? hd
      exact ⟨[.lineDistance q start stop value, .fixed start c, .fixed stop d],
        by simp [hoffset, hc, hd], fun _ => .offset q start stop value hapart⟩
  · cases h

theorem guides_of_mem_collinearLinesFrom {points : List Handle}
    (hcollinear : .collinear points ∈ store.facts)
    (h : .onLine q a b ∈ Rule.collinearLinesFrom ⟨ruler, initial, options⟩ store points) :
    Guides ruler s options store.facts q fun _ => ⟨a, b⟩ := by
  unfold Rule.collinearLinesFrom at h
  split at h
  · rename_i c d hanchors
    obtain ⟨p, hp, heq⟩ := List.mem_map.mp h
    cases heq
    obtain ⟨first, hfirst, second, hsecond, hc, hd, hapart⟩ := Rule.exists_of_anchors hanchors
    have hc := Store.mem_of_position? hc
    have hd := Store.mem_of_position? hd
    exact ⟨[.collinear points, .fixed first a, .fixed second b], by simp [hcollinear, hc, hd],
      fun _ => .collinear hp hfirst hsecond hapart⟩
  · cases h

theorem guides_of_mem_bisectorLinesFrom {center p r : Handle}
    (hequal : .equidistant center p r ∈ store.facts)
    (h : .onLine q a b ∈ Rule.bisectorLinesFrom ⟨ruler, initial, options⟩ store center p r) :
    Guides ruler s options store.facts q fun _ => ⟨a, b⟩ := by
  unfold Rule.bisectorLinesFrom at h
  split at h
  · rename_i c d hc hd
    by_cases hapart : c.dist d ≤ options.epsilon
    · simp [hapart] at h
    · rw [if_neg hapart, List.mem_singleton] at h
      cases h
      have hc := Store.mem_of_position? hc
      have hd := Store.mem_of_position? hd
      exact ⟨[.equidistant q p r, .fixed p c, .fixed r d], by simp [hequal, hc, hd],
        fun _ => .bisector q p r hapart⟩
  · cases h

-- All rules but one conclude lines that do not depend on the length.
theorem guides_of_mem_conclusions {rule : Rule} (hrule : rule ≠ .axisLinesAndCircles)
    {fact : Fact Float} (hfact : fact ∈ store.facts)
    (h : .onLine q a b ∈ rule.conclusions ⟨ruler, initial, options⟩ store fact) :
    Guides ruler s options store.facts q fun _ => ⟨a, b⟩ := by
  have hkind := Rule.kind_mem_targets h
  unfold Rule.conclusions at h
  split at h
  · exact absurd rfl hrule
  · simp [Rule.targets, Fact.kind] at hkind
  · simp [Rule.targets, Fact.kind] at hkind
  · simp [Rule.targets, Fact.kind] at hkind
  · exact guides_of_mem_offsetLinesFrom hfact h
  · exact guides_of_mem_collinearLinesFrom hfact h
  · exact guides_of_mem_bisectorLinesFrom hfact h
  · simp [Rule.targets, Fact.kind] at hkind
  · cases h

theorem Guides.mono {facts' : List (Fact Float)} (h : Guides ruler s options facts q line)
    (hsub : ∀ fact ∈ facts, fact ∈ facts') : Guides ruler s options facts' q line := by
  obtain ⟨premises, hmem, hinfers⟩ := h
  exact ⟨premises, fun premise hpremise => hsub _ (hmem premise hpremise), hinfers⟩

end Rules

end Solve

end PlaneSketch

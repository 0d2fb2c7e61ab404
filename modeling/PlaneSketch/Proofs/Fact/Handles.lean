import Mathlib.Data.List.Nodup
import PlaneSketch.Proofs.Fact.Growth

namespace PlaneSketch

namespace Fact

variable {α : Type}

-- The points a fact is about.
def handles : Fact α → List Handle
  | fixed p _ => [p]
  | onLine p _ _ => [p]
  | onCircle p _ _ => [p]
  | vertical p q => [p, q]
  | horizontal p q => [p, q]
  | distance p q _ => [p, q]
  | lineDistance p a b _ => [p, a, b]
  | collinear ps => ps
  | equidistant c p q => [c, p, q]
  | bare => []

-- A line or a circle that a point lies on. Such facts only serve to be intersected.
def isCurve : Fact α → Bool
  | onLine .. => true
  | onCircle .. => true
  | _ => false

theorem isCurve_eq (fact : Fact α) :
    fact.isCurve = (fact.kind == .onLine || fact.kind == .onCircle) := by
  cases fact <;> rfl

theorem kind_eq_of_sameAs [Scalar α] {bound : α} {known fact : Fact α}
    (h : known.sameAs bound fact = true) : known.kind = fact.kind := by
  cases known <;> cases fact <;> simp_all [sameAs, kind]

-- However loosely facts are compared, a repetition is about the same points.
theorem handles_eq_of_sameAs [Scalar α] {bound : α} {f g : Fact α}
    (h : f.sameAs bound g = true) : f.handles = g.handles := by
  cases f <;> cases g <;> simp_all [sameAs, handles]

end Fact

namespace Store

variable {α : Type} {s t : Store α}

theorem mem_of_position? {p : Handle} {q : Point α} (h : s.position? p = some q) :
    .fixed p q ∈ s.facts := by
  obtain ⟨fact, hmem, hfact⟩ := List.exists_of_findSome?_eq_some h
  cases fact with
  | fixed r position =>
      obtain ⟨rfl, rfl⟩ : r = p ∧ position = q := by simpa using hfact
      exact hmem
  | _ => simp at hfact

theorem position?_isSome {p : Handle} :
    (s.position? p).isSome ↔ ∃ q, .fixed p q ∈ s.facts := by
  constructor
  · intro h
    obtain ⟨q, hq⟩ := Option.isSome_iff_exists.mp h
    exact ⟨q, mem_of_position? hq⟩
  · rintro ⟨q, hq⟩
    exact List.findSome?_isSome_iff.mpr ⟨_, hq, by simp⟩

-- A position repeats any other position of its point.
theorem knows_fixed [Scalar α] (s : Store α) (p : Handle) (q : Point α) :
    s.knows (.fixed p q) = (s.position? p).isSome := by
  rw [Bool.eq_iff_iff, position?_isSome, knows, List.any_eq_true]
  constructor
  · rintro ⟨known, hknown, hsame⟩
    cases known <;> simp [Fact.sameAs] at hsame
    subst hsame
    exact ⟨_, hknown⟩
  · rintro ⟨position, hknown⟩
    exact ⟨_, hknown, by simp [Fact.sameAs]⟩

theorem position?_add_fixed [Scalar α] {p : Handle} (h : s.position? p = none) (q : Point α) :
    (s.add (.fixed p q)).position? p = some q := by
  rw [add_of_not_knows (by simp [knows_fixed, h]), position?, List.findSome?_append]
  rw [position?] at h
  simp [h]

-- A question that one fact answers in a certain way is so answered just if the fact is there.
theorem mem_filterMap_facts {β : Type} {ask : Fact α → Option β} {answer : β} {fact : Fact α}
    (h : ∀ known, ask known = some answer ↔ known = fact) :
    answer ∈ s.facts.filterMap ask ↔ fact ∈ s.facts := by
  rw [List.mem_filterMap]
  constructor
  · rintro ⟨known, hmem, hask⟩
    rwa [← (h known).mp hask]
  · exact fun hmem => ⟨fact, hmem, (h fact).mpr rfl⟩

-- The points with a known position, each with its position.
def positions (s : Store α) : List (Handle × Point α) :=
  s.facts.filterMap fun
    | .fixed p position => some (p, position)
    | _ => none

theorem mem_positions {p : Handle} {q : Point α} :
    (p, q) ∈ s.positions ↔ .fixed p q ∈ s.facts :=
  mem_filterMap_facts fun known => by cases known <;> simp

-- No point is given two positions.
theorem Distinct.nodup_positions [Scalar α] (h : s.Distinct) : (s.positions.map (·.1)).Nodup := by
  refine List.pairwise_map.mpr (List.pairwise_filterMap.mpr (h.imp ?_))
  rintro known later hne ⟨p, a⟩ hknown ⟨q, b⟩ hlater
  cases known <;> cases later <;> simp_all [Fact.sameAs]

theorem Distinct.position?_eq_some_iff [Scalar α] (h : s.Distinct) {p : Handle} {q : Point α} :
    s.position? p = some q ↔ .fixed p q ∈ s.facts := by
  refine ⟨mem_of_position?, fun hmem => ?_⟩
  obtain ⟨found, hfound⟩ := Option.isSome_iff_exists.mp (position?_isSome.mpr ⟨q, hmem⟩)
  have hfirst := mem_positions.mpr (mem_of_position? hfound)
  have heq := List.inj_on_of_nodup_map h.nodup_positions hfirst (mem_positions.mpr hmem) rfl
  rw [hfound, (Prod.mk.inj heq).2]

@[simp] theorem mem_verticalsFrom {p q : Handle} :
    q ∈ s.verticalsFrom p ↔ .vertical p q ∈ s.facts :=
  mem_filterMap_facts fun known => by cases known <;> simp

@[simp] theorem mem_horizontalsFrom {p q : Handle} :
    q ∈ s.horizontalsFrom p ↔ .horizontal p q ∈ s.facts :=
  mem_filterMap_facts fun known => by cases known <;> simp

@[simp] theorem mem_distancesFrom {p q : Handle} {d : α} :
    (q, d) ∈ s.distancesFrom p ↔ .distance p q d ∈ s.facts :=
  mem_filterMap_facts fun known => by cases known <;> simp

@[simp] theorem mem_linesOf {p : Handle} {line : Line α} :
    line ∈ s.linesOf p ↔ .onLine p line.a line.b ∈ s.facts := by
  cases line
  exact mem_filterMap_facts fun known => by cases known <;> simp

@[simp] theorem mem_circlesOf {p : Handle} {circle : Circle α} :
    circle ∈ s.circlesOf p ↔ .onCircle p circle.center circle.radius ∈ s.facts := by
  cases circle
  exact mem_filterMap_facts fun known => by cases known <;> simp

theorem mem_of_distance? {p q : Handle} {d : α} (h : s.distance? p q = some d) :
    .distance p q d ∈ s.facts := by
  obtain ⟨before, after, heq, -⟩ := List.lookup_eq_some_iff.mp h
  exact mem_distancesFrom.mp (by simp [heq])

-- The facts that a known distance is read off.
theorem mem_of_knownDistance? [Scalar α] {p q : Handle} {d : α}
    (h : s.knownDistance? p q = some d) :
    p = q ∧ d = 0.0 ∨ (∃ a b, .fixed p a ∈ s.facts ∧ .fixed q b ∈ s.facts ∧ d = a.dist b) ∨
      .distance p q d ∈ s.facts ∨ .distance q p d ∈ s.facts := by
  unfold knownDistance? at h
  split at h
  · rename_i heq
    exact .inl ⟨heq, (Option.some.inj h).symm⟩
  · split at h
    · rename_i a b ha hb
      have hd := (Option.some.inj h).symm
      exact .inr (.inl ⟨a, b, mem_of_position? ha, mem_of_position? hb, hd⟩)
    · rcases Option.or_eq_some_iff.mp h with h | ⟨-, h⟩
      · exact .inr (.inr (.inl (mem_of_distance? h)))
      · exact .inr (.inr (.inr (mem_of_distance? h)))

end Store

end PlaneSketch

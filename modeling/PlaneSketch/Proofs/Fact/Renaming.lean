import Mathlib.Data.Set.Function
import PlaneSketch.Proofs.Fact.Agreement
import PlaneSketch.Proofs.Fact.Selection

namespace PlaneSketch

namespace Fact

variable {α : Type}

-- The same fact about other points.
def rename (f : Handle → Handle) : Fact α → Fact α
  | fixed p position => fixed (f p) position
  | onLine p a b => onLine (f p) a b
  | onCircle p center radius => onCircle (f p) center radius
  | vertical p q => vertical (f p) (f q)
  | horizontal p q => horizontal (f p) (f q)
  | distance p q value => distance (f p) (f q) value
  | lineDistance p a b value => lineDistance (f p) (f a) (f b) value
  | collinear ps => collinear (ps.map f)
  | equidistant c p q => equidistant (f c) (f p) (f q)
  | bare => bare

-- A fact that is about some of the given points only.
def About (points : Set Handle) (fact : Fact α) : Prop := ∀ p ∈ fact.handles, p ∈ points

variable {f : Handle → Handle} {points : Set Handle} {fact known : Fact α}

@[simp] theorem kind_rename : (fact.rename f).kind = fact.kind := by
  cases fact <;> rfl

@[simp] theorem handles_rename : (fact.rename f).handles = fact.handles.map f := by
  cases fact <;> rfl

theorem map_beq_map (hf : Set.InjOn f points) {ps qs : List Handle} (hps : ∀ p ∈ ps, p ∈ points)
    (hqs : ∀ q ∈ qs, q ∈ points) : (ps.map f == qs.map f) = (ps == qs) := by
  induction ps generalizing qs with
  | nil => cases qs <;> rfl
  | cons p rest ih =>
      cases qs with
      | nil => rfl
      | cons q others =>
          rw [List.forall_mem_cons] at hps hqs
          have hhead : (f p == f q) = (p == q) := by
            rw [Bool.eq_iff_iff, beq_iff_eq, beq_iff_eq, hf.eq_iff hps.1 hqs.1]
          rw [List.map_cons, List.map_cons, List.cons_beq_cons, List.cons_beq_cons, hhead,
            ih hps.2 hqs.2]

-- Where different points stay different, so do facts about them.
theorem sameAs_rename [Scalar α] (hf : Set.InjOn f points) (hknown : known.About points)
    (hfact : fact.About points) (bound : α) :
    (known.rename f).sameAs bound (fact.rename f) = known.sameAs bound fact := by
  have hpoint {p q : Handle} (hp : p ∈ known.handles) (hq : q ∈ fact.handles) :
      (f p == f q) = (p == q) := by
    rw [Bool.eq_iff_iff, beq_iff_eq, beq_iff_eq, hf.eq_iff (hknown p hp) (hfact q hq)]
  have hfirst {p q : Handle} {ps qs : List Handle} (hp : known.handles = p :: ps)
      (hq : fact.handles = q :: qs) : (f p == f q) = (p == q) :=
    hpoint (hp ▸ List.mem_cons_self) (hq ▸ List.mem_cons_self)
  have hsecond {p q r t : Handle} {ps qs : List Handle} (hp : known.handles = r :: p :: ps)
      (hq : fact.handles = t :: q :: qs) : (f p == f q) = (p == q) :=
    hpoint (hp ▸ .tail _ (.head _)) (hq ▸ .tail _ (.head _))
  have hthird {p q r t r' t' : Handle} (hp : known.handles = [r, r', p])
      (hq : fact.handles = [t, t', q]) : (f p == f q) = (p == q) :=
    hpoint (hp ▸ .tail _ (.tail _ (.head _))) (hq ▸ .tail _ (.tail _ (.head _)))
  cases known with
  | fixed =>
      cases fact with
      | fixed => exact hfirst rfl rfl
      | _ => rfl
  | onLine =>
      cases fact with
      | onLine => simp only [rename, sameAs, hfirst rfl rfl]
      | _ => rfl
  | onCircle =>
      cases fact with
      | onCircle => simp only [rename, sameAs, hfirst rfl rfl]
      | _ => rfl
  | vertical =>
      cases fact with
      | vertical => simp only [rename, sameAs, hfirst rfl rfl, hsecond rfl rfl]
      | _ => rfl
  | horizontal =>
      cases fact with
      | horizontal => simp only [rename, sameAs, hfirst rfl rfl, hsecond rfl rfl]
      | _ => rfl
  | distance =>
      cases fact with
      | distance => simp only [rename, sameAs, hfirst rfl rfl, hsecond rfl rfl]
      | _ => rfl
  | lineDistance =>
      cases fact with
      | lineDistance =>
          simp only [rename, sameAs, hfirst rfl rfl, hsecond rfl rfl, hthird rfl rfl]
      | _ => rfl
  | collinear =>
      cases fact with
      | collinear => exact map_beq_map hf hknown hfact
      | _ => rfl
  | equidistant =>
      cases fact with
      | equidistant =>
          simp only [rename, sameAs, hfirst rfl rfl, hsecond rfl rfl, hthird rfl rfl]
      | _ => rfl
  | bare => cases fact <;> rfl

end Fact

namespace Store

variable {α : Type}

-- The same store about other points.
def rename (f : Handle → Handle) (s : Store α) : Store α :=
  { s with facts := s.facts.map (Fact.rename f) }

-- A test for facts of one kind.
def isOf (kind : Fact.Kind) (fact : Fact α) : Bool := fact.kind == kind

-- Another store that knows the same about other points: of each kind the same facts in the same
-- order. How the kinds mix is left open, since nothing that is asked of a store depends on it.
structure Renamed (f : Handle → Handle) (points : Set Handle) (s t : Store α) : Prop where
  epsilon : t.epsilon = s.epsilon
  about : ∀ fact ∈ s.facts, fact.About points
  ofKind : ∀ kind, t.ofKind kind = (s.ofKind kind).map (Fact.rename f)

variable {f : Handle → Handle} {points : Set Handle} {s t : Store α}

theorem filter_rename (facts : List (Fact α)) (kind : Fact.Kind) :
    (facts.map (Fact.rename f)).filter (isOf kind) =
      (facts.filter (isOf kind)).map (Fact.rename f) := by
  rw [List.filter_map]
  exact congrArg (List.map _) (List.filter_congr fun fact _ => by simp [isOf])

section Adding

variable [Scalar α]

theorem knows_rename (hf : Set.InjOn f points) (hs : ∀ fact ∈ s.facts, fact.About points)
    {fact : Fact α} (hfact : fact.About points) :
    (s.rename f).knows (fact.rename f) = s.knows fact := by
  rw [Bool.eq_iff_iff, knows, knows, Store.rename, List.any_map, List.any_eq_true, List.any_eq_true]
  refine exists_congr fun known => and_congr_right fun hknown => ?_
  rw [Function.comp_apply, Fact.sameAs_rename hf (hs known hknown) hfact]

theorem rename_addAll (hf : Set.InjOn f points) {facts : List (Fact α)}
    (hs : ∀ fact ∈ s.facts, fact.About points) (hfacts : ∀ fact ∈ facts, fact.About points) :
    (s.addAll facts).rename f = (s.rename f).addAll (facts.map (Fact.rename f)) := by
  induction facts generalizing s with
  | nil => rfl
  | cons fact rest ih =>
      rw [List.forall_mem_cons] at hfacts
      have hadd : (s.add fact).rename f = (s.rename f).add (fact.rename f) := by
        cases hk : s.knows fact with
        | true => rw [add_of_knows hk, add_of_knows (by rwa [knows_rename hf hs hfacts.1])]
        | false =>
            rw [add_of_not_knows hk, add_of_not_knows (by rwa [knows_rename hf hs hfacts.1])]
            simp [Store.rename]
      have hnext : ∀ known ∈ (s.add fact).facts, known.About points := by
        intro known hknown
        rcases mem_add hknown with hknown | rfl
        · exact hs known hknown
        · exact hfacts.1
      rw [addAll_cons, ih hnext hfacts.2, hadd, List.map_cons, addAll_cons]

-- Facts that are the same for each kind are added alike.
theorem Renamed.addAll (hf : Set.InjOn f points) (h : Renamed f points s t)
    {facts facts' : List (Fact α)} (hfacts : ∀ fact ∈ facts, fact.About points)
    (hkinds : ∀ kind, facts'.filter (isOf kind) =
      (facts.filter (isOf kind)).map (Fact.rename f)) :
    Renamed f points (s.addAll facts) (t.addAll facts') := by
  have hepsilon : (t.addAll facts').epsilon = (s.addAll facts).epsilon := by
    rw [(grows_addAll t facts').epsilon, (grows_addAll s facts).epsilon, h.epsilon]
  refine ⟨hepsilon, fun known hknown => ?_, fun kind => ?_⟩
  · rcases mem_addAll hknown with hknown | hknown
    · exact h.about known hknown
    · exact hfacts known hknown
  · have hkeep {bound : α} {known fact : Fact α} (hsame : known.sameAs bound fact = true) :
        isOf kind known = isOf kind fact := by rw [isOf, isOf, Fact.kind_eq_of_sameAs hsame]
    have hselect : t.select (isOf kind) = (s.select (isOf kind)).rename f :=
      congrArg₂ Store.mk h.epsilon (h.ofKind kind)
    have habout : ∀ fact ∈ (s.select (isOf kind)).facts, fact.About points :=
      fun fact hfact => h.about fact (mem_select.mp hfact).1
    have hkept : ∀ fact ∈ facts.filter (isOf kind), fact.About points :=
      fun fact hfact => hfacts fact (List.mem_filter.mp hfact).1
    calc (t.addAll facts').ofKind kind
        = ((t.select (isOf kind)).addAll (facts'.filter (isOf kind))).facts :=
          congrArg Store.facts (select_addAll hkeep t facts')
      _ = (((s.select (isOf kind)).addAll (facts.filter (isOf kind))).rename f).facts := by
          rw [hselect, hkinds, rename_addAll hf habout hkept]
      _ = ((s.addAll facts).ofKind kind).map (Fact.rename f) := by
          rw [← select_addAll hkeep s facts]
          rfl

end Adding

namespace Renamed

-- A question that only facts of one kind answer has the same answers.
theorem filterMap_eq {β γ : Type} (h : Renamed f points s t) (kind : Fact.Kind)
    (answer : β → γ) {ask : Fact α → Option β} {ask' : Fact α → Option γ}
    (hother : ∀ fact, fact.kind ≠ kind → ask fact = none ∧ ask' fact = none)
    (hrename : ∀ fact, fact.kind = kind → fact.About points →
      ask' (fact.rename f) = (ask fact).map answer) :
    t.facts.filterMap ask' = (s.facts.filterMap ask).map answer := by
  have hof {δ : Type} {u : Store α} {ask : Fact α → Option δ}
      (hask : ∀ fact, fact.kind ≠ kind → ask fact = none) :
      u.facts.filterMap ask = (u.ofKind kind).filterMap ask := by
    refine (filterMap_filter_of_isSome ask u.facts fun fact _ hsome => ?_).symm
    by_contra hkind
    rw [hask fact (by simpa using hkind)] at hsome
    cases hsome
  rw [hof fun fact hfact => (hother fact hfact).1, hof fun fact hfact => (hother fact hfact).2,
    h.ofKind, List.filterMap_map, List.map_filterMap]
  refine List.filterMap_congr fun fact hfact => ?_
  obtain ⟨hmem, hkind⟩ := mem_ofKind.mp hfact
  exact hrename fact hkind (h.about fact hmem)

section Queries

variable (hf : Set.InjOn f points) (h : Renamed f points s t) {p q : Handle}

include hf h

theorem position?_eq (hp : p ∈ points) : t.position? (f p) = s.position? p := by
  rw [Store.position?, Store.position?, ← List.head?_filterMap, ← List.head?_filterMap]
  refine congrArg List.head? ((h.filterMap_eq .fixed id ?_ ?_).trans (List.map_id _))
  · rintro (_ | _) hkind <;> first | exact ⟨rfl, rfl⟩ | exact absurd rfl hkind
  · intro fact hkind habout
    cases fact with
    | fixed r position => simp [Fact.rename, hf.eq_iff (habout r (.head _)) hp]
    | _ => cases hkind

theorem verticalsFrom_eq (hp : p ∈ points) :
    t.verticalsFrom (f p) = (s.verticalsFrom p).map f := by
  refine h.filterMap_eq .vertical f ?_ ?_
  · rintro (_ | _) hkind <;> first | exact ⟨rfl, rfl⟩ | exact absurd rfl hkind
  · intro fact hkind habout
    cases fact with
    | vertical r q => simp [Fact.rename, hf.eq_iff (habout r (.head _)) hp]
    | _ => cases hkind

theorem horizontalsFrom_eq (hp : p ∈ points) :
    t.horizontalsFrom (f p) = (s.horizontalsFrom p).map f := by
  refine h.filterMap_eq .horizontal f ?_ ?_
  · rintro (_ | _) hkind <;> first | exact ⟨rfl, rfl⟩ | exact absurd rfl hkind
  · intro fact hkind habout
    cases fact with
    | horizontal r q => simp [Fact.rename, hf.eq_iff (habout r (.head _)) hp]
    | _ => cases hkind

theorem distancesFrom_eq (hp : p ∈ points) :
    t.distancesFrom (f p) = (s.distancesFrom p).map fun d => (f d.1, d.2) := by
  refine h.filterMap_eq .distance _ ?_ ?_
  · rintro (_ | _) hkind <;> first | exact ⟨rfl, rfl⟩ | exact absurd rfl hkind
  · intro fact hkind habout
    cases fact with
    | distance r q value => simp [Fact.rename, hf.eq_iff (habout r (.head _)) hp]
    | _ => cases hkind

theorem linesOf_eq (hp : p ∈ points) : t.linesOf (f p) = s.linesOf p := by
  refine (h.filterMap_eq .onLine id ?_ ?_).trans (List.map_id _)
  · rintro (_ | _) hkind <;> first | exact ⟨rfl, rfl⟩ | exact absurd rfl hkind
  · intro fact hkind habout
    cases fact with
    | onLine r a b => simp [Fact.rename, hf.eq_iff (habout r (.head _)) hp]
    | _ => cases hkind

theorem circlesOf_eq (hp : p ∈ points) : t.circlesOf (f p) = s.circlesOf p := by
  refine (h.filterMap_eq .onCircle id ?_ ?_).trans (List.map_id _)
  · rintro (_ | _) hkind <;> first | exact ⟨rfl, rfl⟩ | exact absurd rfl hkind
  · intro fact hkind habout
    cases fact with
    | onCircle r center radius => simp [Fact.rename, hf.eq_iff (habout r (.head _)) hp]
    | _ => cases hkind

theorem distance?_eq (hp : p ∈ points) (hq : q ∈ points) :
    t.distance? (f p) (f q) = s.distance? p q := by
  have hends : ∀ d ∈ s.distancesFrom p, d.1 ∈ points := by
    rintro ⟨r, value⟩ hd
    exact h.about _ (mem_distancesFrom.mp hd) r (.tail _ (.head _))
  rw [Store.distance?, Store.distance?, h.distancesFrom_eq hf hp]
  generalize s.distancesFrom p = distances at hends ⊢
  induction distances with
  | nil => rfl
  | cons d rest ih =>
      rw [List.forall_mem_cons] at hends
      have hkey : (f q == f d.1) = (q == d.1) := by
        rw [Bool.eq_iff_iff, beq_iff_eq, beq_iff_eq, hf.eq_iff hq hends.1]
      rw [List.map_cons, List.lookup_cons, List.lookup_cons, hkey, ih hends.2]

theorem knownDistance?_eq [Scalar α] (hp : p ∈ points) (hq : q ∈ points) :
    t.knownDistance? (f p) (f q) = s.knownDistance? p q := by
  simp only [Store.knownDistance?, h.position?_eq hf hp, h.position?_eq hf hq,
    h.distance?_eq hf hp hq, h.distance?_eq hf hq hp, hf.eq_iff hp hq]

end Queries

-- So many facts of each kind are so many facts.
theorem size_eq (h : Renamed f points s t) : t.size = s.size := by
  classical
  have hperm : t.facts.Perm (s.facts.map (Fact.rename f)) := by
    refine List.perm_iff_count.mpr fun fact => ?_
    have hcount (facts : List (Fact α)) :
        facts.count fact = (facts.filter (isOf fact.kind)).count fact :=
      (List.count_filter (by simp [isOf])).symm
    rw [hcount, hcount (s.facts.map _), filter_rename]
    exact congrArg (List.count fact) (h.ofKind fact.kind)
  simpa [Store.size] using hperm.length_eq

end Renamed

end Store

end PlaneSketch

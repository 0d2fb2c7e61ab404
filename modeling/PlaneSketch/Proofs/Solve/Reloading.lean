import Mathlib
import PlaneSketch.Proofs.Document.Isomorphism
import PlaneSketch.Proofs.Solve.Parts
import PlaneSketch.Proofs.Solve.Seeding

namespace PlaneSketch

namespace Handle

-- Where the order is kept, so is sorting.
theorem sort_map {f : Handle → Handle} {hs : List Handle}
    (hf : ∀ h ∈ hs, ∀ k ∈ hs, h ≤ k ↔ f h ≤ f k) : sort (hs.map f) = (sort hs).map f := by
  rw [sort_eq, sort_eq, List.map_insertionSort _ _ f hs hf]

end Handle

namespace Solve

open Document (Reloaded index listNames listOf listOf_mem inLists inList)

variable {s t : Sketch} {e : Element} {part : Handle → Nat}

-- What an element states under other handles.
theorem stated_rename {f : Handle → Handle} (hs : s.Linked) (he : e ∈ s.elements)
    (hget : ∀ target ∈ s.elements, t.get? (f target.id) = some (target.rename f))
    (hsorted : ∀ group, .collinear group ∈ stated s e →
      ∀ p ∈ group, ∀ q ∈ group, p ≤ q ↔ f p ≤ f q) :
    stated t (e.rename f) = (stated s e).map (Fact.rename f) := by
  have hends (line : Handle) (hline : (line, .line) ∈ e.references) :
      ∃ a b, s.lineEnds line = .ok (a, b) ∧ t.lineEnds (f line) = .ok (f a, f b) := by
    obtain ⟨a, b, hfound⟩ := hs.exists_line he hline
    have hmoved := hget _ (Sketch.mem_of_get? hfound).1
    exact ⟨a, b, Sketch.lineEnds_eq_ok.mpr hfound, Sketch.lineEnds_eq_ok.mpr hmoved⟩
  cases e with
  | axisAligned id axis a b => cases axis <;> rfl
  | distance id a b value placement measureOnly => cases measureOnly <;> rfl
  | lineDistance id p line value placement measureOnly =>
      obtain ⟨a, b, hbefore, hafter⟩ := hends line (by simp [Element.references])
      cases measureOnly with
      | true => rfl
      | false =>
          simp only [stated, Element.rename, statements, hbefore, hafter]
          rfl
  | pointOnLine id p line =>
      obtain ⟨a, b, hbefore, hafter⟩ := hends line (by simp [Element.references])
      have hstated : stated s (.pointOnLine id p line) =
          [.collinear (Handle.sort [p, a, b])] := by
        simp only [stated, statements, hbefore]
        rfl
      have hmap : Handle.sort ([p, a, b].map f) = (Handle.sort [p, a, b]).map f :=
        Handle.sort_map fun h hh k hk => hsorted _ (by simp [hstated]) h
          (Handle.mem_sort.mpr hh) k (Handle.mem_sort.mpr hk)
      rw [hstated]
      simp only [stated, Element.rename, statements, hafter]
      exact congrArg (fun group => [Fact.collinear group]) hmap
  | pointOnArc id p arc =>
      obtain ⟨a, b, center, hfound⟩ := hs.exists_arc (c := arc) he (by simp [Element.references])
      have hmoved := hget _ (Sketch.mem_of_get? hfound).1
      have hbefore := Sketch.arcRadius_eq_ok.mpr ⟨b, hfound⟩
      have hafter : t.arcRadius (f arc) = .ok (f center, f a) :=
        Sketch.arcRadius_eq_ok.mpr ⟨f b, hmoved⟩
      simp only [stated, Element.rename, statements, hbefore, hafter]
      rfl
  | _ => rfl

-- What elements give in their order is what the lists of a document give in theirs, if an arc
-- that gives something never follows a constraint that does.
theorem flatMap_inLists {β : Type} {give : Element → List β} {elements : List Element}
    (hgeometry : ∀ e, listOf e.kind = "points" ∨ listOf e.kind = "lines" → give e = [])
    (harcs : elements.Pairwise fun e later =>
      listOf e.kind = "constraints" → listOf later.kind = "arcs" → give e = [] ∨ give later = []) :
    (inLists elements).flatMap give = elements.flatMap give := by
  have hnone (elements : List Element) {list : String} (hlist : list = "points" ∨ list = "lines") :
      (inList elements list).flatMap give = [] := by
    refine List.flatMap_eq_nil_iff.mpr fun e he => hgeometry e ?_
    have hown : listOf e.kind = list := by simpa using (List.mem_filter.mp he).2
    exact hown ▸ hlist
  rw [Document.inLists_eq]
  simp only [List.flatMap_append, hnone elements (.inl rfl), hnone elements (.inr rfl),
    List.nil_append]
  induction elements with
  | nil => rfl
  | cons e rest ih =>
      rw [List.pairwise_cons] at harcs
      have hrest := ih harcs.2
      have hcons (list : String) : inList (e :: rest) list =
          if listOf e.kind = list then e :: inList rest list else inList rest list := by
        simp [inList, List.filter_cons]
      rw [hcons, hcons, List.flatMap_cons, ← hrest]
      have hlist := listOf_mem e.kind
      simp only [listNames, List.mem_cons, List.not_mem_nil, or_false] at hlist
      rcases hlist with hlist | hlist | hlist | hlist
      · simp [hlist, hgeometry e (.inl hlist)]
      · simp [hlist, hgeometry e (.inr hlist)]
      · simp [hlist]
      · by_cases hgive : give e = []
        · simp [hlist, hgive]
        · have hlater : (inList rest "arcs").flatMap give = [] := by
            refine List.flatMap_eq_nil_iff.mpr fun later hmem => ?_
            obtain ⟨hmem, harc⟩ := List.mem_filter.mp hmem
            exact (harcs.1 later hmem hlist (by simpa using harc)).resolve_left hgive
          simp [hlist, hlater]

-- A sketch whose document keeps the order that matters to solving. Its elements may be divided into
-- parts without references between them; then in no part was an arc added after a constraint of a
-- point to an arc, and of the points of a line and one to lie on it, those with smaller handles
-- stand before the others.
structure KeepsOrder (s : Sketch) (part : Handle → Nat) : Prop where
  apart : ∀ e ∈ s.elements, ∀ r ∈ e.references, part r.1 = part e.id
  arcs : s.elements.Pairwise fun e later =>
    e.kind = .pointOnArc → later.kind = .arc → part e.id ≠ part later.id
  groups : ∀ {id p l a b}, .pointOnLine id p l ∈ s.elements → .line l a b ∈ s.elements →
    ∀ x ∈ [p, a, b], ∀ y ∈ [p, a, b], x < y → [x, y].Sublist (s.points.map (·.1))

-- Points come back in the order in which they stand in the sketch.
theorem index_lt_of_points (hs : s.Linked) {p q : Handle}
    (h : [p, q].Sublist (s.points.map (·.1))) : index s p < index s q := by
  have hpoints : s.points.map (·.1) = (inList s.elements "points").map Element.id := by
    rw [Sketch.points, List.map_filterMap, inList, ← List.filterMap_eq_map, List.filterMap_filter]
    refine List.filterMap_congr fun e _ => ?_
    cases e <;> rfl
  rw [hpoints] at h
  obtain ⟨pair, hpair, hids⟩ := List.sublist_map_iff.mp h
  obtain ⟨e, rest, rfl, rfl, hrest⟩ := List.map_eq_cons_iff.mp hids.symm
  obtain ⟨e', rfl, rfl⟩ := List.map_eq_singleton_iff.mp hrest
  refine Document.index_lt hs (hpair.trans ?_)
  rw [Document.inLists_eq, List.append_assoc, List.append_assoc]
  exact List.sublist_append_left _ _

theorem KeepsOrder.le_iff (h : KeepsOrder s part) (hs : s.Linked) (he : e ∈ s.elements)
    {group : List Handle} (hgroup : .collinear group ∈ stated s e) :
    ∀ p ∈ group, ∀ q ∈ group, p ≤ q ↔ index s p ≤ index s q := by
  cases states_of_mem hgroup with
  | @pointOnLine id r line a b hends =>
      have hline := (Sketch.mem_of_get? (Sketch.lineEnds_eq_ok.mp hends)).1
      have hlt {p q : Handle} (hp : p ∈ Handle.sort [r, a, b]) (hq : q ∈ Handle.sort [r, a, b])
          (hpq : p < q) : index s p < index s q :=
        index_lt_of_points hs (h.groups he hline p (Handle.mem_sort.mp hp) q
          (Handle.mem_sort.mp hq) hpq)
      intro p hp q hq
      rcases lt_trichotomy p q with hpq | rfl | hpq
      · exact iff_of_true hpq.le (hlt hp hq hpq).le
      · exact iff_of_true le_rfl le_rfl
      · exact iff_of_false (not_le.mpr hpq) (not_le.mpr (hlt hq hp hpq))

-- Seen from one part, an element of it states all it states and any other nothing.
theorem filter_within {facts : List (Fact Float)} {own k : Nat} {part : Handle → Nat}
    (hfacts : ∀ fact ∈ facts, fact.handles ≠ [] ∧ ∀ p ∈ fact.handles, part p = own) :
    facts.filter (Fact.within fun p => part p == k) = if own = k then facts else [] := by
  by_cases hk : own = k
  · rw [if_pos hk]
    refine List.filter_eq_self.mpr fun fact hfact => List.all_eq_true.mpr fun p hp => ?_
    simp [(hfacts fact hfact).2 p hp, hk]
  · rw [if_neg hk]
    refine List.filter_eq_nil_iff.mpr fun fact hfact hwithin => hk ?_
    obtain ⟨hne, hown⟩ := hfacts fact hfact
    obtain ⟨p, hp⟩ := List.exists_mem_of_ne_nil _ hne
    exact (hown p hp).symm.trans (by simpa using List.all_eq_true.mp hwithin p hp)

theorem injOn_index (s : Sketch) : Set.InjOn (index s) {p | s.HasPoint p} := by
  rintro p ⟨a, hp⟩ q - heq
  exact Document.index_inj hp heq

-- The part of a point under the handle it comes back under.
noncomputable def partAfter (s : Sketch) (part : Handle → Nat) (q : Handle) : Nat :=
  part (Function.invFunOn (index s) {p | s.HasPoint p} q)

theorem partAfter_index {p : Handle} (hp : s.HasPoint p) :
    partAfter s part (index s p) = part p :=
  congrArg part ((injOn_index s).leftInvOn_invFunOn hp)

-- What an element states is about points of its part.
theorem KeepsOrder.handles_stated (h : KeepsOrder s part) (he : e ∈ s.elements) :
    ∀ fact ∈ stated s e, fact.handles ≠ [] ∧ ∀ p ∈ fact.handles, part p = part e.id := by
  refine fun fact hfact => ⟨(states_of_mem hfact).handles_ne_nil, fun p hp => ?_⟩
  rcases (states_of_mem hfact).reaches hp with hp | ⟨target, htarget, href, hp⟩
  · exact h.apart e he _ hp
  · exact (h.apart target htarget _ hp).trans (h.apart e he _ href)

theorem KeepsOrder.handles_renamed (h : KeepsOrder s part) (hs : s.WellFormed)
    (he : e ∈ s.elements) :
    ∀ fact ∈ (stated s e).map (Fact.rename (index s)),
      fact.handles ≠ [] ∧ ∀ q ∈ fact.handles, partAfter s part q = part e.id := by
  refine List.forall_mem_map.mpr fun fact hfact => ?_
  obtain ⟨hne, hown⟩ := h.handles_stated he fact hfact
  rw [Fact.handles_rename, Ne, List.map_eq_nil_iff, List.forall_mem_map]
  refine ⟨hne, fun p hp => ?_⟩
  rw [partAfter_index ((states_of_mem hfact).hasPoint hs he hp), hown p hp]

-- What an element of one part states of one kind, under the handles it comes back under.
def renamedOf (s : Sketch) (part : Handle → Nat) (k : Nat) (kind : Fact.Kind) (e : Element) :
    List (Fact Float) :=
  if part e.id = k then ((stated s e).filter (Store.isOf kind)).map (Fact.rename (index s)) else []

theorem exists_states_of_renamedOf {k : Nat} {kind : Fact.Kind}
    (hne : renamedOf s part k kind e ≠ []) :
    part e.id = k ∧ ∃ fact, States s e fact ∧ fact.kind = kind := by
  by_cases hk : part e.id = k
  · rw [renamedOf, if_pos hk, Ne, List.map_eq_nil_iff] at hne
    obtain ⟨fact, hfact⟩ := List.exists_mem_of_ne_nil _ hne
    obtain ⟨hfact, hkind⟩ := List.mem_filter.mp hfact
    exact ⟨hk, fact, states_of_mem hfact, by simpa [Store.isOf] using hkind⟩
  · exact absurd (if_neg hk) hne

-- The lists of a document mix the kinds of statements in another way, but those of one kind on one
-- part come in the order they had.
theorem KeepsOrder.flatMap_renamedOf (h : KeepsOrder s part) (k : Nat) (kind : Fact.Kind) :
    (inLists s.elements).flatMap (renamedOf s part k kind) =
      s.elements.flatMap (renamedOf s part k kind) := by
  refine flatMap_inLists (fun e he => ?_) (h.arcs.imp fun {e later} hapart hlist harc => ?_)
  · cases e <;> simp [listOf, Element.kind] at he <;> simp [renamedOf, stated, statements]
  · -- only arcs and constraints of points to arcs state facts of one kind in two lists
    by_contra hboth
    obtain ⟨hne, hne'⟩ := not_or.mp hboth
    obtain ⟨hpart, fact, hfact, hkind⟩ := exists_states_of_renamedOf hne
    obtain ⟨hpart', fact', hfact', rfl⟩ := exists_states_of_renamedOf hne'
    cases hfact' <;> simp [listOf, Element.kind] at harc
    cases hfact <;> simp [Fact.kind] at hkind
    · simp [listOf, Element.kind] at hlist
    · exact hapart rfl rfl (hpart.trans hpart'.symm)

section Reloaded

variable (h : Reloaded s t)

include h

theorem get?_index (he : e ∈ s.elements) :
    t.get? (index s e.id) = some (e.rename (index s)) := by
  have hmem : e.rename (index s) ∈ t.elements := by
    rw [h.elements]
    exact List.mem_map_of_mem (Document.mem_inLists.mpr he)
  simpa using Sketch.get?_of_mem h.linked.distinct hmem

theorem point_mem_iff {p : Handle} {position : Point Float} :
    .point (index s p) position ∈ t.elements ↔ .point p position ∈ s.elements := by
  rw [h.elements, List.mem_map]
  constructor
  · rintro ⟨e, he, hpoint⟩
    rw [Document.mem_inLists] at he
    cases e with
    | point id found =>
        obtain ⟨hid, rfl⟩ := Element.point.inj hpoint
        have hsame : id = p := Document.index_inj he hid
        exact hsame ▸ he
    | _ => cases hpoint
  · exact fun hmem => ⟨_, Document.mem_inLists.mpr hmem, rfl⟩

theorem exists_of_hasPoint {q : Handle} (hq : t.HasPoint q) :
    ∃ p, s.HasPoint p ∧ index s p = q := by
  obtain ⟨position, hmem⟩ := hq
  rw [h.elements, List.mem_map] at hmem
  obtain ⟨e, he, hpoint⟩ := hmem
  cases e with
  | point id found =>
      exact ⟨id, ⟨found, Document.mem_inLists.mp he⟩, (Element.point.inj hpoint).1⟩
  | _ => cases hpoint

theorem wellFormed_reloaded (hs : s.WellFormed) : t.WellFormed := by
  refine ⟨h.linked, ?_⟩
  rw [h.elements]
  refine List.forall_mem_map.mpr fun e he => ?_
  have hnumbers : (e.rename (index s)).numbers = e.numbers := by cases e <;> rfl
  rw [hnumbers]
  exact hs.finite e (Document.mem_inLists.mp he)

theorem renamed_initial (ruler : Ruler Float) (hs : s.Linked) (options : Options Float) :
    Context.Renamed (index s) {p | s.HasPoint p} ⟨ruler, initialPositions s, options⟩
      ⟨ruler, initialPositions t, options⟩ := by
  refine ⟨rfl, rfl, fun p hp => ?_⟩
  ext q
  rw [get?_initialPositions h.linked.distinct, get?_initialPositions hs.distinct,
    point_mem_iff h]

-- What the loaded sketch states: the same about the points under their new handles.
theorem flatMap_stated_reloaded (hs : s.Linked) (hkeeps : KeepsOrder s part) :
    t.elements.flatMap (stated t) =
      (inLists s.elements).flatMap fun e => (stated s e).map (Fact.rename (index s)) := by
  rw [h.elements, List.flatMap_map]
  refine List.flatMap_congr fun e he => ?_
  rw [Document.mem_inLists] at he
  exact stated_rename hs he (fun _ => get?_index h) fun group => hkeeps.le_iff hs he

-- Of one kind, each part states under the new handles what it stated under the old ones.
theorem renamed_seeded_ofPart (hs : s.WellFormed) (hkeeps : KeepsOrder s part) (epsilon : Float)
    (k : Nat) :
    ((seeded s epsilon).ofPart part k).Renamed (index s) {p | s.HasPoint p}
      ((seeded t epsilon).ofPart (partAfter s part) k) := by
  have hempty : (Store.empty epsilon).Renamed (index s) {p | s.HasPoint p} (Store.empty epsilon) :=
    ⟨rfl, by simp [Store.empty], fun _ => rfl⟩
  rw [Store.ofPart, Store.ofPart, seeded, seeded, Store.restrict_addAll, Store.restrict_addAll,
    flatMap_stated_reloaded h hs.toLinked hkeeps]
  refine hempty.addAll (injOn_index s) (fun fact hfact p hp => ?_) fun kind => ?_
  · obtain ⟨e, he, hfact⟩ := List.mem_flatMap.mp (List.mem_filter.mp hfact).1
    exact (states_of_mem hfact).hasPoint hs he hp
  rw [List.filter_flatMap, List.filter_flatMap, List.filter_flatMap, List.filter_flatMap,
    List.map_flatMap]
  calc (inLists s.elements).flatMap _
      = (inLists s.elements).flatMap (renamedOf s part k kind) := by
        refine List.flatMap_congr fun e he => ?_
        rw [filter_within (hkeeps.handles_renamed hs (Document.mem_inLists.mp he)), renamedOf]
        split
        · exact Store.filter_rename _ _
        · rfl
    _ = s.elements.flatMap (renamedOf s part k kind) := hkeeps.flatMap_renamedOf k kind
    _ = s.elements.flatMap _ := by
        refine List.flatMap_congr fun e he => ?_
        rw [filter_within (hkeeps.handles_stated he), renamedOf]
        split <;> rfl

theorem renamedParts_seeded (hs : s.WellFormed) (hkeeps : KeepsOrder s part) (epsilon : Float) :
    (seeded s epsilon).RenamedParts (index s) {p | s.HasPoint p} part (partAfter s part)
      (seeded t epsilon) := by
  refine ⟨Store.parted_of_forall fun fact hfact => ?_, Store.parted_of_forall fun fact hfact => ?_,
    renamed_seeded_ofPart h hs hkeeps epsilon⟩
  · obtain ⟨e, he, hfact⟩ := exists_stated_of_mem_seeded hfact
    exact (hkeeps.handles_stated he fact hfact).imp_right fun hown => ⟨_, hown⟩
  · have hfact := List.mem_flatMap.mpr (exists_stated_of_mem_seeded hfact)
    rw [flatMap_stated_reloaded h hs.toLinked hkeeps] at hfact
    obtain ⟨e, he, hfact⟩ := List.mem_flatMap.mp hfact
    have hrenamed := hkeeps.handles_renamed hs (Document.mem_inLists.mp he) fact hfact
    exact hrenamed.imp_right fun hown => ⟨_, hown⟩

end Reloaded

-- A point that goes by this name was found there.
def Solution.Puts (solution : Solution) (s : Sketch) (name : Text) (position : Point Float) :
    Prop :=
  ∃ p, s.HasPoint p ∧ s.label p = .ok name ∧ solution.resolved.get? p = some position

instance (solution : Solution) (s : Sketch) (name : Text) (position : Point Float) :
    Decidable (solution.Puts s name position) :=
  decidable_of_iff (∃ point ∈ s.points, s.label point.1 = .ok name ∧
    solution.resolved.get? point.1 = some position) <| by
      simp only [Solution.Puts, Sketch.hasPoint_iff, Prod.exists]
      constructor
      · rintro ⟨p, drawn, hp, hfound⟩
        exact ⟨p, ⟨drawn, hp⟩, hfound⟩
      · rintro ⟨p, ⟨drawn, hp⟩, hfound⟩
        exact ⟨p, drawn, hp, hfound⟩

-- Handles with gaps and in no order, but for the points of the one line. An arc that comes late
-- has nothing to do with the rest.
def gateSketch : Sketch where
  elements :=
    [.pointOnLine 12 7 (-3), .point 9 ⟨5.0, 5.0⟩, .line (-3) 40 2, .point 2 ⟨0.0, 0.0⟩,
      .arc 20 2 40 9, .point 7 ⟨3.0, 1.0⟩, .pointOnArc 21 30 20, .point 40 ⟨10.0, 0.0⟩,
      .fixed 5 40 ⟨10.0, 0.0⟩, .distance 1 2 7 4.0 ⟨0.5, 1.0⟩ false, .fixed 6 2 ⟨0.0, 0.0⟩,
      .point 30 ⟨6.0, 12.0⟩, .arc 58 50 52 51, .point 50 ⟨20.0, 0.0⟩, .point 51 ⟨21.0, 0.0⟩,
      .point 52 ⟨21.0, 1.0⟩]
  labels := ⟨[(7, "latch"), (40, "#8")]⟩

-- The sketch that operations on an empty one build.
def built (ops : List Builder.Op) : Sketch :=
  (ops.foldl (fun (b : Builder) op => (b.step op).2) Builder.empty).build

-- Two arcs about one center that cannot both be as they should; a point was put on the first
-- before the second was there.
def quarrelOps : List Builder.Op :=
  [.addPoint ⟨0.0, 0.0⟩ (some "A"), .addPoint ⟨10.0, 0.0⟩ (some "B"),
    .addPoint ⟨0.0, 10.0⟩ (some "P"), .addPoint ⟨0.0, 16.0⟩ (some "D"),
    .addPoint ⟨1.0, 1.0⟩ (some "O"), .addArc 0 1 4 (some "near"), .pointOnArc 2 5 none,
    .addArc 0 3 4 (some "far"), .fix 0 none none, .fix 1 none none, .fix 2 none none,
    .fix 3 none none]

-- Two arcs that share no point, again with a point put on the first before the second was there.
-- What they have to do with each other is a third point between their centers, which lies as near
-- to the one place where it may be as to the other.
def bridgeOps : List Builder.Op :=
  [.addPoint ⟨-3.0, 1.0⟩ (some "A"), .addPoint ⟨-4.0, 2.0⟩ (some "B"),
    .addPoint ⟨-3.0, -1.0⟩ (some "P"), .addPoint ⟨-2.0, 0.5⟩ (some "O"),
    .addPoint ⟨3.0, 1.0⟩ (some "C"), .addPoint ⟨3.0, -1.0⟩ (some "D"),
    .addPoint ⟨2.0, 0.5⟩ (some "N"), .addPoint ⟨0.0, 0.0⟩ (some "M"),
    .addPoint ⟨1.0, 0.0⟩ (some "Q"), .addArc 0 1 3 (some "left"), .pointOnArc 2 9 none,
    .addArc 4 5 6 (some "right"), .distance 7 3 3.0 .standard false none,
    .distance 7 6 3.0 .standard false none, .distance 3 8 5.0 .standard false none,
    .distance 6 8 5.0 .standard false none, .fix 0 none none, .fix 2 none none, .fix 4 none none,
    .fix 5 none none, .fix 7 none none]

-- A point taken away and put back comes after points with greater handles.
def returnOps : List Builder.Op :=
  [.addPoint ⟨0.0, 0.0⟩ (some "A"), .addPoint ⟨10.0, 0.0⟩ (some "B"),
    .addPoint ⟨0.0, 3.0⟩ (some "P"), .remove 0, .movePoint 0 ⟨0.0, 0.0⟩, .addLine 0 1 none,
    .pointOnLine 2 3 none, .distance 0 2 5.0 .standard false none, .fix 0 none none,
    .fix 1 none none]

-- A sketch that is in order, and a point of it that is not found where it was after saving and
-- loading.
def LosesPlace (s : Sketch) (options : Options Float) (name : Text) (position : Point Float) :
    Prop :=
  s.check = .ok () ∧ (s.elements.map fun e => s.label e.id).Nodup ∧
    ∃ document t before after, Document.dump s = .ok document ∧ Document.load document = .ok t ∧
      solve .standard s options = .ok before ∧ solve .standard t options = .ok after ∧
      before.Puts s name position ∧ ¬after.Puts t name position

theorem eq_ok_of_toOption {ε β : Type} {x : Except ε β} {b : β} (h : x.toOption = some b) :
    x = .ok b := by
  cases x with
  | error error => cases h
  | ok found => rw [Option.some.inj h]

end Solve

end PlaneSketch

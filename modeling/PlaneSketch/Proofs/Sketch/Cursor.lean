import PlaneSketch.Proofs.Binary.Order
import PlaneSketch.Proofs.Geometry.Reach
import PlaneSketch.Proofs.Sketch.Picking

namespace PlaneSketch

open Binary

-- What the scan of the candidates holds on to: nothing as long as all of them are too far, else
-- the first one that none is nearer than. A distance that is not a number is never too far, and
-- nothing is nearer than it.
def Leads (limit : Float) (seen : List (Handle × Float)) : Option (Handle × Float) → Prop
  | none => ∀ c ∈ seen, limit < c.2
  | some best => ∃ before after, seen = before ++ best :: after ∧ ¬limit < best.2 ∧
      (∀ c ∈ seen, ¬c.2 < best.2) ∧ ∀ c ∈ before, ¬c.2 ≤ best.2

namespace Leads

variable {limit : Float} {seen : List (Handle × Float)} {c best : Handle × Float}

theorem concat_far (h : Leads limit seen (some best)) (hc : ¬c.2 < best.2) :
    Leads limit (seen ++ [c]) (some best) := by
  obtain ⟨before, after, rfl, hlimit, hnearest, hfirst⟩ := h
  refine ⟨before, after ++ [c], by simp, hlimit, ?_, hfirst⟩
  exact List.forall_mem_append.mpr ⟨hnearest, List.forall_mem_singleton.mpr hc⟩

theorem concat_near (hlimit : ¬limit < c.2) (hnearer : ∀ d ∈ seen, ¬d.2 ≤ c.2) :
    Leads limit (seen ++ [c]) (some c) := by
  refine ⟨seen, [], rfl, hlimit, List.forall_mem_append.mpr ⟨fun d hd hlt => ?_,
    List.forall_mem_singleton.mpr (not_lt_self _)⟩, hnearer⟩
  exact hnearer d hd (le_of_lt hlt)

end Leads

theorem closest_leads (limit : Float) (candidates : List (Handle × Float)) :
    ∃ best, closest limit candidates = best.map (·.1) ∧ Leads limit candidates best := by
  refine ⟨_, rfl, ?_⟩
  induction candidates using List.reverseRecOn with
  | nil => exact List.forall_mem_nil _
  | append_singleton seen c ih =>
      rw [List.foldl_append, List.foldl_cons, List.foldl_nil]
      generalize List.foldl _ none seen = best at ih ⊢
      split
      · rename_i hfar
        cases best with
        | none => exact List.forall_mem_append.mpr ⟨ih, List.forall_mem_singleton.mpr hfar⟩
        | some best =>
            obtain ⟨-, -, -, hlimit, -⟩ := id ih
            exact ih.concat_far fun hlt => hlimit (trans_lt_lt hfar hlt)
      · rename_i hlimit
        cases best with
        | none => exact Leads.concat_near hlimit fun d hd hle => hlimit (trans_lt_le (ih d hd) hle)
        | some best =>
            dsimp only
            split
            · rename_i hnearer
              obtain ⟨-, -, -, -, hnearest, -⟩ := ih
              exact Leads.concat_near hlimit fun d hd hle =>
                hnearest d hd (trans_le_lt hle hnearer)
            · rename_i hnot
              exact ih.concat_far hnot

section Lists

variable {α β ε : Type} {xs : List α}

theorem mapM_ok {f : α → Except ε β} {g : α → β} (h : ∀ x ∈ xs, f x = .ok (g x)) :
    xs.mapM f = .ok (xs.map g) := by
  induction xs with
  | nil => rfl
  | cons x rest ih =>
      rw [List.mapM_cons, h x List.mem_cons_self, ih fun y hy => h y (List.mem_cons_of_mem x hy)]
      rfl

theorem flatMap_eq {f : α → List β} {test : α → Bool} {g : α → β}
    (h : ∀ x ∈ xs, f x = if test x then [g x] else []) :
    xs.flatMap f = (xs.filter test).map g := by
  induction xs with
  | nil => rfl
  | cons x rest ih =>
      rw [List.flatMap_cons, List.filter_cons, h x List.mem_cons_self,
        ih fun y hy => h y (List.mem_cons_of_mem x hy)]
      cases test x <;> rfl

end Lists

-- The order in which kinds are looked for under the cursor. Those that come last are not drawn.
def Element.Kind.layer : Kind → Nat
  | distance | lineDistance => 0
  | point => 1
  | line | arc => 2
  | _ => 3

theorem Element.Kind.isDimension_eq (kind : Kind) : kind.isDimension = (kind.layer == 0) := by
  cases kind <;> rfl

namespace Sketch

variable {s : Sketch} {near : Point Float} {e : Element} {p : Handle} {position : Point Float}

-- How far an element is from the cursor: a dimension is drawn at its label, a line as a segment.
inductive Hit (s : Sketch) (near : Point Float) : Element → Float → Prop
  | distance {id a b : Handle} {value : Float} {placement : Placement Float} {measureOnly : Bool}
      {start stop : Point Float}
      (h : .distance id a b value placement measureOnly ∈ s.elements)
      (ha : .point a start ∈ s.elements) (hb : .point b stop ∈ s.elements) :
      Hit s near (.distance id a b value placement measureOnly)
        (near.dist (placement.position start stop))
  | lineDistance {id p l a b : Handle} {value : Float} {placement : Placement Float}
      {measureOnly : Bool} {position start stop : Point Float}
      (h : .lineDistance id p l value placement measureOnly ∈ s.elements)
      (hp : .point p position ∈ s.elements) (hl : .line l a b ∈ s.elements)
      (ha : .point a start ∈ s.elements) (hb : .point b stop ∈ s.elements) :
      Hit s near (.lineDistance id p l value placement measureOnly)
        (near.dist (placement.position position (Line.project ⟨start, stop⟩ position).point))
  | point {p : Handle} {position : Point Float} (h : .point p position ∈ s.elements) :
      Hit s near (.point p position) (near.dist position)
  | line {l a b : Handle} {start stop : Point Float} (h : .line l a b ∈ s.elements)
      (ha : .point a start ∈ s.elements) (hb : .point b stop ∈ s.elements) :
      Hit s near (.line l a b) (Line.segmentDist ⟨start, stop⟩ near)
  | arc {c a b m : Handle} {start stop center : Point Float} (h : .arc c a b m ∈ s.elements)
      (ha : .point a start ∈ s.elements) (hb : .point b stop ∈ s.elements)
      (hm : .point m center ∈ s.elements) :
      Hit s near (.arc c a b m) (Arc.dist ⟨start, stop, center⟩ near)

theorem Hit.mem {gap : Float} (h : s.Hit near e gap) : e ∈ s.elements := by
  cases h <;> assumption

theorem Hit.layer_le {gap : Float} (h : s.Hit near e gap) : e.kind.layer ≤ 2 := by
  cases h <;> simp [Element.kind, Element.Kind.layer]

section Linked

variable (hs : s.Linked)
include hs

theorem Linked.eq_of_id {f : Element} (he : e ∈ s.elements) (hf : f ∈ s.elements)
    (hid : e.id = f.id) : e = f :=
  List.inj_on_of_nodup_map hs.distinct he hf hid

theorem Linked.position_unique {other : Point Float} (h : .point p position ∈ s.elements)
    (h' : .point p other ∈ s.elements) : position = other := by
  have heq := hs.eq_of_id h h' rfl
  simpa using heq

theorem Linked.positionAt_eq (h : .point p position ∈ s.elements) :
    s.positionAt p = .ok position := by
  unfold Sketch.positionAt
  have hmem : (p, position) ∈ s.points.filter fun q => q.1 == p := by simp [mem_points, h]
  cases hlast : (s.points.filter fun q => q.1 == p).getLast? with
  | none =>
      rw [List.getLast?_eq_none_iff.mp hlast] at hmem
      cases hmem
  | some found =>
      obtain ⟨q, other⟩ := found
      obtain ⟨hpoint, hid⟩ := List.mem_filter.mp (List.mem_of_getLast? hlast)
      obtain rfl : q = p := beq_iff_eq.mp hid
      rw [hs.position_unique h (mem_points.mp hpoint)]

-- An element is at one distance.
theorem Linked.hit_unique {gap gap' : Float} (h : s.Hit near e gap) (h' : s.Hit near e gap') :
    gap = gap' := by
  cases h with
  | distance h ha hb =>
      cases h' with
      | distance h' ha' hb' => rw [hs.position_unique ha ha', hs.position_unique hb hb']
  | lineDistance h hp hl ha hb =>
      cases h' with
      | lineDistance h' hp' hl' ha' hb' =>
          obtain ⟨-, rfl, rfl⟩ := Element.line.inj (hs.eq_of_id hl hl' rfl)
          rw [hs.position_unique hp hp', hs.position_unique ha ha', hs.position_unique hb hb']
  | point h =>
      cases h' with
      | point h' => rfl
  | line h ha hb =>
      cases h' with
      | line h' ha' hb' => rw [hs.position_unique ha ha', hs.position_unique hb hb']
  | arc h ha hb hm =>
      cases h' with
      | arc h' ha' hb' hm' =>
          rw [hs.position_unique ha ha', hs.position_unique hb hb', hs.position_unique hm hm']

-- Everything that is drawn is at some distance.
theorem Linked.exists_hit (near : Point Float) (he : e ∈ s.elements) (hlayer : e.kind.layer ≤ 2) :
    ∃ gap, s.Hit near e gap := by
  cases e with
  | distance id a b value placement measureOnly =>
      obtain ⟨start, ha⟩ := hs.exists_point (p := a) he (by simp [Element.references])
      obtain ⟨stop, hb⟩ := hs.exists_point (p := b) he (by simp [Element.references])
      exact ⟨_, .distance he ha hb⟩
  | lineDistance id p l value placement measureOnly =>
      obtain ⟨position, hp⟩ := hs.exists_point (p := p) he (by simp [Element.references])
      obtain ⟨a, b, hline⟩ := hs.exists_line (l := l) he (by simp [Element.references])
      have hl := (mem_of_get? hline).1
      obtain ⟨start, ha⟩ := hs.exists_point (p := a) hl (by simp [Element.references])
      obtain ⟨stop, hb⟩ := hs.exists_point (p := b) hl (by simp [Element.references])
      exact ⟨_, .lineDistance he hp hl ha hb⟩
  | point p position => exact ⟨_, .point he⟩
  | line l a b =>
      obtain ⟨start, ha⟩ := hs.exists_point (p := a) he (by simp [Element.references])
      obtain ⟨stop, hb⟩ := hs.exists_point (p := b) he (by simp [Element.references])
      exact ⟨_, .line he ha hb⟩
  | arc c a b m =>
      obtain ⟨start, ha⟩ := hs.exists_point (p := a) he (by simp [Element.references])
      obtain ⟨stop, hb⟩ := hs.exists_point (p := b) he (by simp [Element.references])
      obtain ⟨center, hm⟩ := hs.exists_point (p := m) he (by simp [Element.references])
      exact ⟨_, .arc he ha hb hm⟩
  | _ => exact absurd hlayer (by simp [Element.kind, Element.Kind.layer])

theorem Linked.labelPosition_of_hit {gap : Float} (h : s.Hit near e gap)
    (hlayer : e.kind.layer = 0) :
    ∃ position, s.labelPosition e.id = .ok position ∧ near.dist position = gap := by
  unfold Sketch.labelPosition
  rw [get?_of_mem hs.distinct h.mem]
  cases h with
  | distance h ha hb =>
      simp only [hs.positionAt_eq ha, hs.positionAt_eq hb]
      exact ⟨_, rfl, rfl⟩
  | lineDistance h hp hl ha hb =>
      have hends := lineEnds_eq_ok.mpr (get?_of_mem hs.distinct hl)
      simp only [Element.id] at hends
      simp only [hends, hs.positionAt_eq hp, hs.positionAt_eq ha, hs.positionAt_eq hb, bind,
        Except.bind]
      exact ⟨_, rfl, rfl⟩
  | _ => cases hlayer

theorem Linked.curveGap_of_hit {gap : Float} (h : s.Hit near e gap) (hlayer : e.kind.layer = 2) :
    s.curveGap near e = .ok [(e.id, gap)] := by
  cases h with
  | line h ha hb => simp only [Sketch.curveGap, hs.positionAt_eq ha, hs.positionAt_eq hb]; rfl
  | arc h ha hb hm =>
      simp only [Sketch.curveGap, hs.positionAt_eq ha, hs.positionAt_eq hb, hs.positionAt_eq hm]
      rfl
  | _ => cases hlayer

end Linked

theorem curveGap_of_layer (hlayer : e.kind.layer ≠ 2) : s.curveGap near e = .ok [] := by
  cases e with
  | line l a b => exact absurd rfl hlayer
  | arc c a b m => exact absurd rfl hlayer
  | _ => rfl

-- What is drawn in one layer, in the order of the elements.
def drawn (s : Sketch) (layer : Nat) : List Element := s.ofKinds fun kind => kind.layer == layer

theorem mem_drawn {layer : Nat} : e ∈ s.drawn layer ↔ e ∈ s.elements ∧ e.kind.layer = layer := by
  simp [drawn, ofKinds]

section Gaps

variable {gap : Element → Float}

-- The handles of one layer with the distances.
def gaps (s : Sketch) (gap : Element → Float) (layer : Nat) : List (Handle × Float) :=
  (s.drawn layer).map fun e => (e.id, gap e)

variable (hs : s.Linked) (hgap : ∀ e ∈ s.elements, e.kind.layer ≤ 2 → s.Hit near e (gap e))
include hs hgap

theorem Linked.dimensionGaps_eq : s.dimensionGaps near = .ok (s.gaps gap 0) := by
  unfold Sketch.dimensionGaps gaps drawn
  rw [show Element.Kind.isDimension = fun kind => kind.layer == 0 from
    funext Element.Kind.isDimension_eq]
  refine mapM_ok fun e he => ?_
  obtain ⟨he, hlayer⟩ := mem_drawn.mp he
  obtain ⟨position, hposition, hdist⟩ :=
    hs.labelPosition_of_hit (hgap e he (by omega)) hlayer
  rw [hposition, ← hdist]
  rfl

theorem Linked.pointGaps_eq : (s.points.map fun p => (p.1, near.dist p.2)) = s.gaps gap 1 := by
  unfold points gaps drawn ofKinds
  rw [List.map_filterMap, List.filterMap_eq_flatMap_toList]
  refine flatMap_eq fun e he => ?_
  cases e with
  | point p position =>
      have hdist :=
        hs.hit_unique (.point he) (hgap _ he (by simp [Element.kind, Element.Kind.layer]))
      simp [← hdist, Element.kind, Element.Kind.layer, Element.id]
  | _ => rfl

theorem Linked.curveGaps_eq : s.curveGaps near = .ok (s.gaps gap 2) := by
  have hgaps : s.elements.mapM (s.curveGap near) = .ok (s.elements.map fun e =>
      if e.kind.layer == 2 then [(e.id, gap e)] else []) := by
    refine mapM_ok fun e he => ?_
    by_cases hlayer : e.kind.layer = 2
    · rw [hs.curveGap_of_hit (hgap e he (by omega)) hlayer]
      simp [hlayer]
    · rw [curveGap_of_layer hlayer]
      simp [hlayer]
  unfold Sketch.curveGaps
  rw [hgaps]
  refine congrArg Except.ok ?_
  rw [← List.flatMap_def]
  exact flatMap_eq fun e _ => rfl

theorem Linked.elementNear_eq (viewSize : Float) : s.elementNear near viewSize =
    .ok ((closest (viewSize * pickShare) (s.gaps gap 0)).or
      ((closest (viewSize * pickShare) (s.gaps gap 1)).or
        (closest (viewSize * pickShare) (s.gaps gap 2)))) := by
  unfold Sketch.elementNear pointNear
  simp only [hs.dimensionGaps_eq hgap, hs.pointGaps_eq hgap, hs.curveGaps_eq hgap, bind,
    Except.bind]
  generalize closest _ (s.gaps gap 0) = first
  generalize closest _ (s.gaps gap 1) = second
  cases first <;> cases second <;> rfl

variable {limit : Float} {layer : Nat} (hlayer : layer ≤ 2)
include hlayer

theorem Linked.mem_gaps {f : Element} {g : Float} (hf : s.Hit near f g)
    (hkind : f.kind.layer = layer) : g = gap f ∧ (f.id, gap f) ∈ s.gaps gap layer :=
  ⟨hs.hit_unique hf (hgap f hf.mem (hkind ▸ hlayer)),
    List.mem_map.mpr ⟨f, mem_drawn.mpr ⟨hf.mem, hkind⟩, rfl⟩⟩

theorem Linked.far_of_closest (h : closest limit (s.gaps gap layer) = none) {f : Element}
    {g : Float} (hf : s.Hit near f g) (hkind : f.kind.layer = layer) : limit < g := by
  obtain ⟨best, hbest, hleads⟩ := closest_leads limit (s.gaps gap layer)
  obtain rfl : best = none := Option.map_eq_none_iff.mp (hbest.symm.trans h)
  obtain ⟨rfl, hmem⟩ := hs.mem_gaps hgap hlayer hf hkind
  exact hleads (f.id, gap f) hmem

-- The first of the nearest elements of one layer.
theorem Linked.first_of_closest {id : Handle} (h : closest limit (s.gaps gap layer) = some id) :
    ∃ before e after, s.elements = before ++ e :: after ∧ e.id = id ∧ e.kind.layer = layer ∧
      ¬limit < gap e ∧ ∀ f g, s.Hit near f g → f.kind.layer = layer →
        ¬g < gap e ∧ (f ∈ before → ¬g ≤ gap e) := by
  obtain ⟨best, hbest, hleads⟩ := closest_leads limit (s.gaps gap layer)
  obtain ⟨found, rfl, rfl⟩ := Option.map_eq_some_iff.mp (hbest.symm.trans h)
  obtain ⟨before, after, hsplit, hlimit, hnearest, hfirst⟩ := hleads
  obtain ⟨nearer, rest, hdrawn, rfl, hrest⟩ := List.map_eq_append_iff.mp hsplit
  obtain ⟨e, farther, rfl, rfl, rfl⟩ := List.map_eq_cons_iff.mp hrest
  obtain ⟨head, tail, helements, hhead, htail⟩ := List.filter_eq_append_iff.mp hdrawn
  obtain ⟨between, last, rfl, hbetween, hkind, -⟩ := List.filter_eq_cons_iff.mp htail
  refine ⟨head ++ between, e, last, by rw [helements, List.append_assoc], rfl,
    beq_iff_eq.mp hkind, hlimit, fun f g hf hlayer' => ?_⟩
  obtain ⟨rfl, hmem⟩ := hs.mem_gaps hgap hlayer hf hlayer'
  refine ⟨hnearest (f.id, gap f) hmem, fun hbefore => ?_⟩
  rcases List.mem_append.mp hbefore with hf | hf
  · have hnearer : f ∈ nearer := hhead ▸ List.mem_filter.mpr ⟨hf, beq_iff_eq.mpr hlayer'⟩
    exact hfirst (f.id, gap f) (List.mem_map_of_mem hnearer)
  · exact absurd (beq_iff_eq.mpr hlayer') (hbetween f hf)

end Gaps

-- What an answer says about the sketch. One that found nothing: everything is farther than the
-- limit. One that found an element: what goes before its layer is farther than the limit, nothing
-- of its layer is nearer and nothing that stands before it as near. Its own distance is within the
-- limit if it is a number. Points and lines are always at some distance; a label or an arc may be
-- at none.
def Picked (s : Sketch) (near : Point Float) (limit : Float) : Option Handle → Prop
  | none => ∀ e gap, s.Hit near e gap → limit < gap
  | some id => ∃ before e after gap, s.elements = before ++ e :: after ∧ e.id = id ∧
      s.Hit near e gap ∧
      (∀ f g, s.Hit near f g → f.kind.layer < e.kind.layer → limit < g) ∧
      (∀ f g, s.Hit near f g → f.kind.layer = e.kind.layer →
        ¬g < gap ∧ (f ∈ before → ¬g ≤ gap)) ∧
      (gap ≤ limit ∨ gap.isNaN = true ∧ (e.kind.layer = 0 ∨ e.kind = .arc))

-- Coordinates and placements of ordinary size.
structure Moderate (s : Sketch) : Prop where
  position {p : Handle} {position : Point Float} (h : .point p position ∈ s.elements) :
    position.Within (2 ^ 64)
  distance {id a b : Handle} {value : Float} {placement : Placement Float} {measureOnly : Bool}
    (h : .distance id a b value placement measureOnly ∈ s.elements) :
    Bounded placement.t (2 ^ 64) ∧ Bounded placement.offset (2 ^ 64)
  lineDistance {id p l : Handle} {value : Float} {placement : Placement Float}
    {measureOnly : Bool} (h : .lineDistance id p l value placement measureOnly ∈ s.elements) :
    Bounded placement.t (2 ^ 64) ∧ Bounded placement.offset (2 ^ 64)

-- In such a sketch everything is drawn somewhere.
theorem Moderate.isNaN_of_hit (hs : s.Moderate) (hnear : near.IsFinite) {gap : Float}
    (h : s.Hit near e gap) : gap.isNaN = false := by
  cases h with
  | distance h ha hb =>
      obtain ⟨ht, hoffset⟩ := hs.distance h
      exact Point.isNaN_dist_of_isFinite hnear
        (Placement.isFinite_position (hs.position ha) (hs.position hb) ht hoffset (by norm_num))
  | lineDistance h hp hl ha hb =>
      obtain ⟨ht, hoffset⟩ := hs.lineDistance h
      have hfoot := Line.within_project (l := ⟨_, _⟩) (hs.position ha) (hs.position hb)
        (hs.position hp) (by norm_num) (by norm_num)
      exact Point.isNaN_dist_of_isFinite hnear
        (Placement.isFinite_position ((hs.position hp).weaken (by norm_num)) hfoot ht hoffset
          (by norm_num))
  | point h => exact Point.isNaN_dist_of_isFinite hnear (hs.position h).isFinite
  | line h ha hb =>
      exact Line.isNaN_segmentDist (hs.position ha).isFinite (hs.position hb).isFinite hnear
  | arc h ha hb hm =>
      exact Arc.isNaN_dist (hs.position ha) (hs.position hb) (hs.position hm) (by norm_num) le_rfl
        hnear

-- Only a label or an arc can be at no distance.
theorem WellFormed.isNaN_of_hit (hs : s.WellFormed) (hnear : near.IsFinite) {gap : Float}
    (h : s.Hit near e gap) : gap.isNaN = true → e.kind.layer = 0 ∨ e.kind = .arc := by
  intro hnan
  cases h with
  | distance h ha hb => exact .inl rfl
  | lineDistance h hp hl ha hb => exact .inl rfl
  | arc h ha hb hm => exact .inr rfl
  | point h =>
      rw [Point.isNaN_dist_of_isFinite hnear (hs.isFinite_position h)] at hnan
      cases hnan
  | line h ha hb =>
      rw [Line.isNaN_segmentDist (hs.isFinite_position ha) (hs.isFinite_position hb) hnear] at hnan
      cases hnan

section Layers

variable {gap : Element → Float} {limit : Float} {layer : Nat} {id : Handle}

-- What was found in one layer, with nothing in those before it.
theorem WellFormed.picked (hs : s.WellFormed) (hnear : near.IsFinite)
    (hlimit : limit.isNaN = false)
    (hgap : ∀ e ∈ s.elements, e.kind.layer ≤ 2 → s.Hit near e (gap e)) (hlayer : layer ≤ 2)
    (hbefore : ∀ k < layer, closest limit (s.gaps gap k) = none)
    (h : closest limit (s.gaps gap layer) = some id) : s.Picked near limit (some id) := by
  obtain ⟨before, e, after, helements, hid, hkind, hclose, hfirst⟩ :=
    hs.first_of_closest hgap hlayer h
  have he : e ∈ s.elements := by simp [helements]
  have hhit := hgap e he (hkind ▸ hlayer)
  refine ⟨before, e, after, gap e, helements, hid, hhit, fun f g hf hlt => ?_, ?_, ?_⟩
  · have hlt : f.kind.layer < layer := hkind ▸ hlt
    exact hs.far_of_closest hgap (by omega) (hbefore _ hlt) hf rfl
  · rw [hkind]
    exact hfirst
  · cases hnan : (gap e).isNaN with
    | true => exact .inr ⟨rfl, hs.isNaN_of_hit hnear hhit hnan⟩
    | false => exact .inl ((not_lt_iff_le hlimit hnan).mp hclose)

end Layers

end Sketch

-- Picking finds what is under the cursor, in sketches of ordinary size without exception. Beyond
-- these a label or an arc can be drawn at no place, and such an element counts as under the cursor
-- wherever that is.
theorem elementNear_picked {s : Sketch} (hcheck : s.check = .ok ()) {near : Point Float}
    (hnear : near.IsFinite) {viewSize : Float} (hview : viewSize.isFinite = true) :
    ∃ found, s.elementNear near viewSize = .ok found ∧
      s.Picked near (viewSize * pickShare) found ∧
      (s.Moderate → ∀ e gap, s.Hit near e gap → gap.isNaN = false) := by
  have hs := Sketch.wellFormed_of_check hcheck
  have hlimit : (viewSize * pickShare).isNaN = false := isNaN_mul_of_isFinite hview rfl
  have hhits : ∀ e, e ∈ s.elements → e.kind.layer ≤ 2 → ∃ gap, s.Hit near e gap :=
    fun e he hlayer => hs.exists_hit near he hlayer
  choose! gap hgap using hhits
  refine ⟨_, hs.elementNear_eq hgap viewSize, ?_, fun hmoderate e g h =>
    hmoderate.isNaN_of_hit hnear h⟩
  generalize viewSize * pickShare = limit at *
  cases hfirst : closest limit (s.gaps gap 0) with
  | some id => exact hs.picked hnear hlimit hgap (by decide) (by simp) hfirst
  | none =>
      cases hsecond : closest limit (s.gaps gap 1) with
      | some id =>
          refine hs.picked hnear hlimit hgap (by decide) (fun k hk => ?_) hsecond
          obtain rfl : k = 0 := by omega
          exact hfirst
      | none =>
          have hbefore : ∀ k < 2, closest limit (s.gaps gap k) = none := fun k hk => by
            obtain rfl | rfl : k = 0 ∨ k = 1 := by omega
            · exact hfirst
            · exact hsecond
          cases hthird : closest limit (s.gaps gap 2) with
          | some id => exact hs.picked hnear hlimit hgap le_rfl hbefore hthird
          | none =>
              intro e g h
              rcases h.layer_le.lt_or_eq with hlt | heq
              · exact hs.far_of_closest hgap h.layer_le (hbefore _ hlt) h rfl
              · exact hs.far_of_closest hgap le_rfl hthird h heq

-- A ledge with its length above it.
def ledgeSketch : Sketch where
  elements := [.point 0 ⟨0.0, 0.0⟩, .point 1 ⟨10.0, 0.0⟩, .line 2 0 1,
    .distance 3 0 1 10.0 ⟨0.5, 2.0⟩ false]
  labels := .empty

theorem ledgeSketch_moderate : ledgeSketch.Moderate where
  position h := by
    simp only [ledgeSketch, List.mem_cons, Element.point.injEq, reduceCtorEq, List.not_mem_nil,
      or_false] at h
    obtain ⟨rfl, rfl⟩ | ⟨rfl, rfl⟩ := h
    · exact (Point.within_of_le (by decide +kernel) (by decide +kernel)).weaken (by norm_num)
    · exact (Point.within_of_le (by decide +kernel) (by decide +kernel)).weaken (by norm_num)
  distance h := by
    simp only [ledgeSketch, List.mem_cons, Element.distance.injEq, reduceCtorEq, List.not_mem_nil,
      or_false, false_or] at h
    obtain ⟨-, -, -, -, rfl, -⟩ := h
    exact ⟨(bounded_of_le (by decide +kernel)).weaken (by norm_num),
      (bounded_of_le (by decide +kernel)).weaken (by norm_num)⟩
  lineDistance h := by simp [ledgeSketch] at h

theorem elementNear_picked_ledge :
    ledgeSketch.Picked ⟨5.0, 2.0⟩ (1.0 * pickShare) (some 3) ∧
      ledgeSketch.Picked ⟨5.0, 0.0⟩ (1.0 * pickShare) (some 2) ∧
      ledgeSketch.Picked ⟨5.0, 1.0⟩ (1.0 * pickShare) none ∧
      ∀ e gap, ledgeSketch.Hit ⟨5.0, 1.0⟩ e gap → gap.isNaN = false := by
  have hcheck : ledgeSketch.check = .ok () := Sketch.check_eq_ok_of_isOk (by decide +kernel)
  have hpicked {near : Point Float} {answer : Option Handle} (hnear : near.IsFinite)
      (hanswer : (ledgeSketch.elementNear near 1.0).toOption = some answer) :
      ledgeSketch.Picked near (1.0 * pickShare) answer ∧
        ∀ e gap, ledgeSketch.Hit near e gap → gap.isNaN = false := by
    obtain ⟨found, hfound, hpicked, hnumber⟩ :=
      elementNear_picked hcheck hnear (rfl : (1.0 : Float).isFinite = true)
    rw [hfound] at hanswer
    exact ⟨Option.some.inj hanswer ▸ hpicked, hnumber ledgeSketch_moderate⟩
  exact ⟨(hpicked ⟨rfl, rfl⟩ (by decide +kernel)).1, (hpicked ⟨rfl, rfl⟩ (by decide +kernel)).1,
    hpicked ⟨rfl, rfl⟩ (by decide +kernel)⟩

-- The distance between two points so far apart that their difference is beyond all numbers. Its
-- label belongs at the first of them, and is under the cursor everywhere.
def beamSketch : Sketch where
  elements := [.point 0 ⟨-1e308, 0.0⟩, .point 1 ⟨1e308, 0.0⟩, .distance 2 0 1 10.0 ⟨0.0, 0.0⟩ false]
  labels := .empty

theorem elementNear_beam : beamSketch.check = .ok () ∧
    (beamSketch.elementNear ⟨0.0, 100.0⟩ 1.0).toOption = some (some 2) ∧
    ∃ gap, beamSketch.Hit ⟨0.0, 100.0⟩ (.distance 2 0 1 10.0 ⟨0.0, 0.0⟩ false) gap ∧
      gap.isNaN = true ∧ ¬gap ≤ 1.0 * pickShare := by
  have hleft : .point 0 ⟨-1e308, 0.0⟩ ∈ beamSketch.elements := by simp [beamSketch]
  have hright : .point 1 ⟨1e308, 0.0⟩ ∈ beamSketch.elements := by simp [beamSketch]
  exact ⟨Sketch.check_eq_ok_of_isOk (by decide +kernel), by decide +kernel,
    _, .distance (by simp [beamSketch]) hleft hright, by decide +kernel, by decide +kernel⟩

end PlaneSketch

import Mathlib.Data.List.Nodup
import PlaneSketch.Document.Dump
import PlaneSketch.Document.Load
import PlaneSketch.Proofs.OrderedMap
import PlaneSketch.Proofs.Sketch.WellFormed

namespace PlaneSketch.Document

open Json (Value)
open Sketch (bind_eq_ok)

-- The list of a document that elements of a kind go to.
def listOf : Element.Kind → String
  | .point => "points"
  | .line => "lines"
  | .arc => "arcs"
  | _ => "constraints"

-- An element with the name it was given, if it was given one.
abbrev Item := Option Text × Element

-- The names that were given, each with the handle it stands for.
def named (items : List Item) : List (Text × Handle) :=
  items.filterMap fun item => item.1.map fun name => (name, item.2.id)

theorem named_append (items more : List Item) : named (items ++ more) = named items ++ named more :=
  List.filterMap_append

-- References lead back, each to an element of the kind expected there.
def Backward (items : List Item) : Prop :=
  ∀ before item after, items = before ++ item :: after →
    ∀ r ∈ item.2.references, ∃ target ∈ before, target.2.id = r.1 ∧ target.2.kind = r.2

theorem Backward.append {items : List Item} {item : Item} (h : Backward items)
    (hitem : ∀ r ∈ item.2.references, ∃ target ∈ items, target.2.id = r.1 ∧ target.2.kind = r.2) :
    Backward (items ++ [item]) := by
  intro before other after heq
  rcases List.eq_nil_or_concat after with rfl | ⟨rest, last, rfl⟩
  · obtain ⟨rfl, hlast⟩ := List.append_inj' heq rfl
    obtain rfl := List.singleton_inj.mp hlast
    exact hitem
  · rw [List.concat_eq_append, ← List.cons_append, ← List.append_assoc] at heq
    obtain ⟨hitems, -⟩ := List.append_inj' heq rfl
    exact h before other rest hitems

-- What has been loaded so far: these elements with these names in this order. Handles are counted
-- from zero, and no name is given twice.
structure Loading.Shows (l : Loading) (items : List Item) : Prop where
  elements : l.builder.elements.entries = items.map fun item => (item.2.id, item.2)
  labels : l.builder.labels.entries = (named items).map Prod.swap
  handles : l.handles = (named items).reverse
  next : l.builder.next = items.length
  counted : (items.map fun item => item.2.id) = (List.range items.length).map Int.ofNat
  distinct : ((named items).map (·.1)).Nodup
  backward : Backward items

namespace Loading.Shows

variable {l : Loading} {items : List Item} {name : Text} {id : Handle} {kind : Element.Kind}

theorem empty : Loading.empty.Shows [] where
  elements := rfl
  labels := rfl
  handles := rfl
  next := rfl
  counted := rfl
  distinct := .nil
  backward := by simp [Backward]

theorem nodup_ids (h : l.Shows items) : (items.map fun item => item.2.id).Nodup := by
  rw [h.counted]
  exact List.nodup_range.map fun _ _ => Int.ofNat.inj

theorem nodup_named_ids (h : l.Shows items) : ((named items).map (·.2)).Nodup := by
  refine List.pairwise_map.mpr (List.pairwise_filterMap.mpr ?_)
  refine (List.pairwise_map.mp h.nodup_ids).imp ?_
  intro item item' hne entry hentry entry' hentry'
  obtain ⟨name, -, rfl⟩ := Option.map_eq_some_iff.mp hentry
  obtain ⟨name', -, rfl⟩ := Option.map_eq_some_iff.mp hentry'
  exact hne

theorem keys_elements (h : l.Shows items) :
    l.builder.elements.keys = items.map fun item => item.2.id := by
  rw [OrderedMap.keys, h.elements, List.map_map]
  rfl

theorem lookup_eq_some_iff (h : l.Shows items) :
    l.handles.lookup name = some id ↔ (name, id) ∈ named items := by
  have hnames : (l.handles.map (·.1)).Nodup := by
    rw [h.handles, List.map_reverse, List.nodup_reverse]
    exact h.distinct
  rw [OrderedMap.lookup_eq_some_iff_mem hnames, h.handles, List.mem_reverse]

theorem lookup_eq_none_iff (h : l.Shows items) :
    l.handles.lookup name = none ↔ name ∉ (named items).map (·.1) := by
  rw [← Option.not_isSome_iff_eq_none, Option.isSome_iff_exists, List.mem_map, not_iff_not]
  simp [h.lookup_eq_some_iff]

theorem elements_build (h : l.Shows items) : l.builder.build.elements = items.map (·.2) := by
  change l.builder.elements.entries.map (·.2) = _
  rw [h.elements, List.map_map]
  rfl

theorem get?_labels_build (h : l.Shows items) :
    l.builder.build.labels.get? id = some name ↔ (name, id) ∈ named items := by
  have hkeys : l.builder.build.labels.keys.Nodup := by
    change (l.builder.labels.entries.map (·.1)).Nodup
    rw [h.labels, List.map_map]
    exact h.nodup_named_ids
  rw [OrderedMap.get?_eq_some_iff_mem hkeys]
  change (id, name) ∈ l.builder.labels.entries ↔ _
  rw [h.labels]
  simp

theorem kindOf_eq_ok (h : l.Shows items) :
    l.builder.kindOf id = .ok kind ↔ ∃ item ∈ items, item.2.id = id ∧ item.2.kind = kind := by
  have hkeys : l.builder.elements.keys.Nodup := by
    rw [h.keys_elements]
    exact h.nodup_ids
  have hget (e : Element) : l.builder.elements.get? id = some e ↔
      ∃ item ∈ items, item.2.id = id ∧ item.2 = e := by
    rw [OrderedMap.get?_eq_some_iff_mem hkeys, h.elements, List.mem_map]
    simp only [Prod.mk.injEq]
  unfold Builder.kindOf
  cases hfound : l.builder.elements.get? id with
  | none =>
      simp only [reduceCtorEq, false_iff]
      rintro ⟨item, hitem, hid, -⟩
      have hsome := (hget item.2).mpr ⟨item, hitem, hid, rfl⟩
      rw [hfound] at hsome
      cases hsome
  | some e =>
      obtain ⟨item, hitem, hid, rfl⟩ := (hget e).mp hfound
      simp only [Except.ok.injEq]
      constructor
      · exact fun hkind => ⟨item, hitem, hid, hkind⟩
      · rintro ⟨other, hother, hid', rfl⟩
        rw [List.inj_on_of_nodup_map h.nodup_ids hother hitem (hid'.trans hid.symm)]

-- One more element, under the next handle.
theorem add (h : l.Shows items) (label : Option Text) (make : Handle → Element)
    (hfresh : ∀ name ∈ label, l.handles.lookup name = none)
    (hid : (make l.builder.next).id = l.builder.next)
    (hrefs : ∀ r ∈ (make l.builder.next).references, l.builder.kindOf r.1 = .ok r.2) :
    (l.add label make).Shows (items ++ [(label, make l.builder.next)]) := by
  have hnew : l.builder.next ∉ items.map fun item => item.2.id := by
    rw [h.counted, h.next, List.mem_map]
    rintro ⟨n, hn, heq⟩
    have hlt := List.mem_range.mp hn
    have hcast := Int.ofNat.inj heq
    omega
  have hadded : named [(label, make l.builder.next)] =
      (label.map fun name => (name, l.builder.next)).toList := by
    cases label <;> simp [named, hid]
  exact {
    elements := by
      have hkey : (make l.builder.next).id ∉ l.builder.elements.keys := by
        rw [h.keys_elements, hid]
        exact hnew
      rw [List.map_append, ← h.elements]
      exact OrderedMap.entries_insert hkey _
    labels := by
      rw [named_append, hadded, List.map_append, ← h.labels]
      cases label with
      | none => exact (List.append_nil _).symm
      | some name =>
          refine OrderedMap.entries_insert (fun hkey => hnew ?_) name
          rw [OrderedMap.keys, h.labels, List.map_map, List.mem_map] at hkey
          obtain ⟨entry, hentry, hnext⟩ := hkey
          obtain ⟨item, hitem, hmap⟩ := List.mem_filterMap.mp hentry
          obtain ⟨name, -, rfl⟩ := Option.map_eq_some_iff.mp hmap
          exact List.mem_map.mpr ⟨item, hitem, hnext⟩
    handles := by
      rw [named_append, hadded, List.reverse_append, ← h.handles]
      cases label <;> rfl
    next := by
      rw [List.length_append, List.length_singleton, Int.natCast_add, ← h.next]
      rfl
    counted := by
      rw [List.map_append, h.counted, List.length_append, List.length_singleton, List.range_succ,
        List.map_append, List.map_singleton, List.map_singleton, hid, h.next]
      rfl
    distinct := by
      rw [named_append, hadded, List.map_append]
      cases label with
      | none => simpa using h.distinct
      | some name =>
          have hname := h.lookup_eq_none_iff.mp (hfresh name rfl)
          rw [Option.map_some, Option.toList_some, List.map_singleton]
          exact List.Nodup.append h.distinct (List.nodup_singleton _) (by simpa using hname)
    backward := h.backward.append fun r hr => h.kindOf_eq_ok.mp (hrefs r hr) }

end Loading.Shows

-- The name that an entry gives its element, if it gives one.
def Entry.name (entry : Entry) : Option Text :=
  match entry.get "id" with
  | .null => none
  | value => some value.asName

-- A member of an entry holds the name of an element.
def Entry.Refers (s : Sketch) (entry : Entry) (key : String) (id : Handle) : Prop :=
  ∃ value, entry.get? key = some value ∧ s.labels.get? id = some value.asName

-- The elements that an entry describes, where a sketch tells which elements have the names in it.
-- A point has its position as one member or as two, and a pin without one is where its point is.
inductive Entry.Describes (s : Sketch) (place : Place) (entry : Entry) : Element → Prop
  | point {id : Handle} {x y : Float} (hposition : entry.get? "position" = none)
      (hx : toFloat place (entry.get "x") = .ok x) (hy : toFloat place (entry.get "y") = .ok y) :
      Describes s place entry (.point id ⟨x, y⟩)
  | pointAt {id : Handle} {value : Value} {position : Point Float}
      (hvalue : entry.get? "position" = some value)
      (hposition : toPosition place value = .ok position) :
      Describes s place entry (.point id position)
  | line {id a b : Handle} (ha : entry.Refers s "endpoint_a" a)
      (hb : entry.Refers s "endpoint_b" b) : Describes s place entry (.line id a b)
  | arc {id a b center : Handle} (ha : entry.Refers s "endpoint_a" a)
      (hb : entry.Refers s "endpoint_b" b) (hcenter : entry.Refers s "center" center) :
      Describes s place entry (.arc id a b center)
  | fixed {id p : Handle} {position : Point Float}
      (htype : (entry.get "type").word? = some "fixed") (hp : entry.Refers s "point" p)
      (hposition : entry.get? "position" = none) (hpoint : .point p position ∈ s.elements) :
      Describes s place entry (.fixed id p position)
  | fixedAt {id p : Handle} {value : Value} {position : Point Float}
      (htype : (entry.get "type").word? = some "fixed") (hp : entry.Refers s "point" p)
      (hvalue : entry.get? "position" = some value)
      (hposition : toPosition place value = .ok position) :
      Describes s place entry (.fixed id p position)
  | axisAligned {id a b : Handle} {axis : Axis}
      (htype : (entry.get "type").word? = some "axis_aligned")
      (haxis : toAxis place (entry.get "axis") = .ok axis) (ha : entry.Refers s "point_a" a)
      (hb : entry.Refers s "point_b" b) : Describes s place entry (.axisAligned id axis a b)
  | distance {id a b : Handle} {value : Float} {placement : Placement Float}
      (htype : (entry.get "type").word? = some "point_point_distance")
      (ha : entry.Refers s "point_a" a) (hb : entry.Refers s "point_b" b)
      (hvalue : toFloat place (entry.get "distance") = .ok value)
      (hplacement : toPlacement place (entry.get "cosmetic") = .ok placement) :
      Describes s place entry
        (.distance id a b value placement (entry.get "measure_only").truthy)
  | lineDistance {id p line : Handle} {value : Float} {placement : Placement Float}
      (htype : (entry.get "type").word? = some "point_line_distance")
      (hp : entry.Refers s "point" p) (hline : entry.Refers s "line" line)
      (hvalue : toFloat place (entry.get "distance") = .ok value)
      (hplacement : toPlacement place (entry.get "cosmetic") = .ok placement) :
      Describes s place entry
        (.lineDistance id p line value placement (entry.get "measure_only").truthy)
  | pointOnLine {id p line : Handle} (htype : (entry.get "type").word? = some "point_on_line")
      (hp : entry.Refers s "point" p) (hline : entry.Refers s "line" line) :
      Describes s place entry (.pointOnLine id p line)
  | pointOnArc {id p arc : Handle} (htype : (entry.get "type").word? = some "point_on_arc")
      (hp : entry.Refers s "point" p) (harc : entry.Refers s "arc" arc) :
      Describes s place entry (.pointOnArc id p arc)

-- More names and more points do not take back what an entry describes.
theorem Entry.Describes.mono {s t : Sketch} {place : Place} {entry : Entry} {e : Element}
    (hlabels : ∀ {id name}, s.labels.get? id = some name → t.labels.get? id = some name)
    (helements : ∀ e ∈ s.elements, e ∈ t.elements) (h : entry.Describes s place e) :
    entry.Describes t place e := by
  have hrefers {key : String} {id : Handle} (h : entry.Refers s key id) :
      entry.Refers t key id := by
    obtain ⟨value, hvalue, hname⟩ := h
    exact ⟨value, hvalue, hlabels hname⟩
  cases h with
  | point hposition hx hy => exact .point hposition hx hy
  | pointAt hvalue hposition => exact .pointAt hvalue hposition
  | line ha hb => exact .line (hrefers ha) (hrefers hb)
  | arc ha hb hcenter => exact .arc (hrefers ha) (hrefers hb) (hrefers hcenter)
  | fixed htype hp hposition hpoint =>
      exact .fixed htype (hrefers hp) hposition (helements _ hpoint)
  | fixedAt htype hp hvalue hposition => exact .fixedAt htype (hrefers hp) hvalue hposition
  | axisAligned htype haxis ha hb => exact .axisAligned htype haxis (hrefers ha) (hrefers hb)
  | distance htype ha hb hvalue hplacement =>
      exact .distance htype (hrefers ha) (hrefers hb) hvalue hplacement
  | lineDistance htype hp hline hvalue hplacement =>
      exact .lineDistance htype (hrefers hp) (hrefers hline) hvalue hplacement
  | pointOnLine htype hp hline => exact .pointOnLine htype (hrefers hp) (hrefers hline)
  | pointOnArc htype hp harc => exact .pointOnArc htype (hrefers hp) (hrefers harc)

-- What loading an entry of a list comes to: one more element, which the entry describes and which
-- belongs in the list, under a name not given before, with references to what is there.
inductive Loading.Adds (list : String) (place : Place) (entry : Entry) (l : Loading) :
    Loading → Prop
  | add (make : Handle → Element) (hid : ∀ id, (make id).id = id)
      (hkind : ∀ id, listOf (make id).kind = list ∧ (make id).kind ≠ .foreign)
      (hfresh : ∀ name ∈ entry.name, l.handles.lookup name = none)
      (hrefs : ∀ id, ∀ r ∈ (make id).references, l.builder.kindOf r.1 = .ok r.2)
      (hdescribes : ∀ id, entry.Describes l.builder.build place (make id)) :
      Adds list place entry l (l.add entry.name make)

section Entries

variable {l l' : Loading} {items : List Item} {place : Place} {entry : Entry} {name : Text}

theorem label_eq_ok {label : Option Text} (h : l.label place entry = .ok label) :
    label = entry.name ∧ ∀ name ∈ entry.name, l.handles.lookup name = none := by
  unfold Loading.label at h
  unfold Entry.name
  generalize entry.get "id" = value at h ⊢
  cases value with
  | null =>
      cases h
      simp
  | _ =>
      dsimp only at h ⊢
      split at h
      · cases h
      · rename_i hfresh
        cases h
        simpa only [true_and, Option.mem_some_iff, forall_eq', Option.not_isSome_iff_eq_none]
          using hfresh

theorem requiredLabel_eq_ok (h : l.requiredLabel place entry = .ok name) :
    some name = entry.name ∧ ∀ other ∈ entry.name, l.handles.lookup other = none := by
  obtain ⟨label, hlabel, h⟩ := bind_eq_ok.mp h
  cases label with
  | none => cases h
  | some found =>
      cases h
      exact label_eq_ok hlabel

theorem reference_eq_ok {key : String} {kind : Element.Kind} {id : Handle}
    (h : l.reference place entry key kind = .ok id) :
    (∃ value, entry.get? key = some value ∧ l.handles.lookup value.asName = some id) ∧
      l.builder.kindOf id = .ok kind := by
  unfold Loading.reference at h
  split at h
  · cases h
  · rename_i value hvalue
    split at h
    · cases h
    · rename_i handle hhandle
      split at h
      · rename_i found hfound
        split at h
        · rename_i hkind
          cases h
          exact ⟨⟨value, hvalue, hhandle⟩, by rw [hfound, hkind]⟩
        · cases h
      · cases h

theorem Loading.Shows.refers (hl : l.Shows items) {key : String} {kind : Element.Kind} {id : Handle}
    (h : l.reference place entry key kind = .ok id) : entry.Refers l.builder.build key id := by
  obtain ⟨⟨value, hvalue, hid⟩, -⟩ := reference_eq_ok h
  exact ⟨value, hvalue, hl.get?_labels_build.mpr (hl.lookup_eq_some_iff.mp hid)⟩

theorem Loading.Shows.mem_of_positionOf (hl : l.Shows items) {p : Handle} {position : Point Float}
    (h : l.builder.positionOf p = .ok position) : .point p position ∈ l.builder.build.elements := by
  unfold Builder.positionOf at h
  split at h
  · cases h
  · rename_i id found hfound
    cases h
    have hkeys : l.builder.elements.keys.Nodup := by
      rw [hl.keys_elements]
      exact hl.nodup_ids
    have hmem := (OrderedMap.get?_eq_some_iff_mem hkeys).mp hfound
    rw [hl.elements, List.mem_map] at hmem
    obtain ⟨item, hitem, heq⟩ := hmem
    obtain ⟨hid, hpoint⟩ := Prod.mk.inj heq
    rw [hpoint] at hid
    rw [hl.elements_build, ← hid]
    exact List.mem_map.mpr ⟨item, hitem, hpoint⟩
  · cases h

theorem adds_of_loadPoint (_ : l.Shows items) (h : loadPoint l place entry = .ok l') :
    l.Adds "points" place entry l' := by
  obtain ⟨name, hlabel, h⟩ := bind_eq_ok.mp h
  obtain ⟨hname, hfresh⟩ := requiredLabel_eq_ok hlabel
  obtain ⟨position, hposition, rfl⟩ : ∃ position,
      (∀ id, entry.Describes l.builder.build place (.point id position)) ∧
        l.add (some name) (.point · position) = l' := by
    dsimp only at h
    split at h
    · rename_i value hvalue
      obtain ⟨position, hposition, h⟩ := bind_eq_ok.mp h
      exact ⟨position, fun id => .pointAt hvalue hposition, Except.ok.inj h⟩
    · rename_i hnone
      obtain ⟨x, hx, h⟩ := bind_eq_ok.mp h
      obtain ⟨y, hy, h⟩ := bind_eq_ok.mp h
      exact ⟨⟨x, y⟩, fun id => .point hnone hx hy, Except.ok.inj h⟩
  rw [hname]
  exact .add _ (fun _ => rfl) (fun _ => ⟨rfl, by simp [Element.kind]⟩) hfresh
    (by simp [Element.references]) hposition

theorem adds_of_loadLine (hl : l.Shows items) (h : loadLine l place entry = .ok l') :
    l.Adds "lines" place entry l' := by
  obtain ⟨name, hlabel, h⟩ := bind_eq_ok.mp h
  obtain ⟨a, ha, h⟩ := bind_eq_ok.mp h
  obtain ⟨b, hb, h⟩ := bind_eq_ok.mp h
  cases h
  obtain ⟨hname, hfresh⟩ := requiredLabel_eq_ok hlabel
  rw [hname]
  exact .add _ (fun _ => rfl) (fun _ => ⟨rfl, by simp [Element.kind]⟩) hfresh
    (by simp [Element.references, (reference_eq_ok ha).2, (reference_eq_ok hb).2])
    fun _ => .line (hl.refers ha) (hl.refers hb)

theorem adds_of_loadArc (hl : l.Shows items) (h : loadArc l place entry = .ok l') :
    l.Adds "arcs" place entry l' := by
  obtain ⟨name, hlabel, h⟩ := bind_eq_ok.mp h
  obtain ⟨a, ha, h⟩ := bind_eq_ok.mp h
  obtain ⟨b, hb, h⟩ := bind_eq_ok.mp h
  obtain ⟨center, hcenter, h⟩ := bind_eq_ok.mp h
  cases h
  obtain ⟨hname, hfresh⟩ := requiredLabel_eq_ok hlabel
  rw [hname]
  exact .add _ (fun _ => rfl) (fun _ => ⟨rfl, by simp [Element.kind]⟩) hfresh
    (by simp [Element.references, (reference_eq_ok ha).2, (reference_eq_ok hb).2,
      (reference_eq_ok hcenter).2])
    fun _ => .arc (hl.refers ha) (hl.refers hb) (hl.refers hcenter)

theorem adds_of_loadConstraint (hl : l.Shows items) (h : loadConstraint l place entry = .ok l') :
    l.Adds "constraints" place entry l' := by
  obtain ⟨label, hlabel, h⟩ := bind_eq_ok.mp h
  obtain ⟨rfl, hfresh⟩ := label_eq_ok hlabel
  have hadd {make : Handle → Element} (hid : ∀ id, (make id).id = id)
      (hkind : ∀ id, listOf (make id).kind = "constraints" ∧ (make id).kind ≠ .foreign)
      (hrefs : ∀ id, ∀ r ∈ (make id).references, l.builder.kindOf r.1 = .ok r.2)
      (hdescribes : ∀ id, entry.Describes l.builder.build place (make id)) :
      l.Adds "constraints" place entry (l.add entry.name make) :=
    .add make hid hkind hfresh hrefs hdescribes
  dsimp only at h
  split at h
  · rename_i htype
    obtain ⟨p, hp, h⟩ := bind_eq_ok.mp h
    obtain ⟨position, hposition, h⟩ := bind_eq_ok.mp h
    cases h
    refine hadd (fun _ => rfl) (fun _ => ⟨rfl, by simp [Element.kind]⟩)
      (by simp [Element.references, (reference_eq_ok hp).2]) fun _ => ?_
    unfold pinPosition at hposition
    split at hposition
    · rename_i value hvalue
      exact .fixedAt htype (hl.refers hp) hvalue hposition
    · rename_i hnone
      split at hposition
      · rename_i found hfound
        cases hposition
        exact .fixed htype (hl.refers hp) hnone (hl.mem_of_positionOf hfound)
      · cases hposition
  · rename_i htype
    obtain ⟨axis, haxis, h⟩ := bind_eq_ok.mp h
    obtain ⟨a, ha, h⟩ := bind_eq_ok.mp h
    obtain ⟨b, hb, h⟩ := bind_eq_ok.mp h
    cases h
    exact hadd (fun _ => rfl) (fun _ => ⟨rfl, by simp [Element.kind]⟩)
      (by simp [Element.references, (reference_eq_ok ha).2, (reference_eq_ok hb).2])
      fun _ => .axisAligned htype haxis (hl.refers ha) (hl.refers hb)
  · rename_i htype
    obtain ⟨a, ha, h⟩ := bind_eq_ok.mp h
    obtain ⟨b, hb, h⟩ := bind_eq_ok.mp h
    obtain ⟨value, hvalue, h⟩ := bind_eq_ok.mp h
    obtain ⟨placement, hplacement, h⟩ := bind_eq_ok.mp h
    cases h
    exact hadd (fun _ => rfl) (fun _ => ⟨rfl, by simp [Element.kind]⟩)
      (by simp [Element.references, (reference_eq_ok ha).2, (reference_eq_ok hb).2])
      fun _ => .distance htype (hl.refers ha) (hl.refers hb) hvalue hplacement
  · rename_i htype
    obtain ⟨p, hp, h⟩ := bind_eq_ok.mp h
    obtain ⟨line, hline, h⟩ := bind_eq_ok.mp h
    obtain ⟨value, hvalue, h⟩ := bind_eq_ok.mp h
    obtain ⟨placement, hplacement, h⟩ := bind_eq_ok.mp h
    cases h
    exact hadd (fun _ => rfl) (fun _ => ⟨rfl, by simp [Element.kind]⟩)
      (by simp [Element.references, (reference_eq_ok hp).2, (reference_eq_ok hline).2])
      fun _ => .lineDistance htype (hl.refers hp) (hl.refers hline) hvalue hplacement
  · rename_i htype
    obtain ⟨p, hp, h⟩ := bind_eq_ok.mp h
    obtain ⟨line, hline, h⟩ := bind_eq_ok.mp h
    cases h
    exact hadd (fun _ => rfl) (fun _ => ⟨rfl, by simp [Element.kind]⟩)
      (by simp [Element.references, (reference_eq_ok hp).2, (reference_eq_ok hline).2])
      fun _ => .pointOnLine htype (hl.refers hp) (hl.refers hline)
  · rename_i htype
    obtain ⟨p, hp, h⟩ := bind_eq_ok.mp h
    obtain ⟨arc, harc, h⟩ := bind_eq_ok.mp h
    cases h
    exact hadd (fun _ => rfl) (fun _ => ⟨rfl, by simp [Element.kind]⟩)
      (by simp [Element.references, (reference_eq_ok hp).2, (reference_eq_ok harc).2])
      fun _ => .pointOnArc htype (hl.refers hp) (hl.refers harc)
  · cases h

end Entries

-- The entries of one list, each with its place.
def placed (list : String) (found : List Entry) : List (Place × Entry) :=
  found.zipIdx.map fun entry => (⟨list, entry.2⟩, entry.1)

-- An entry of a document describes an element that belongs in its list, and gives it its name.
def Described (s : Sketch) (entry : Place × Entry) (item : Item) : Prop :=
  item.1 = entry.2.name ∧ listOf item.2.kind = entry.1.list ∧ entry.2.Describes s entry.1 item.2

-- What has been loaded later leaves alone what entries describe.
theorem Loading.Shows.described {l l' : Loading} {items more : List Item} (h : l.Shows items)
    (h' : l'.Shows (items ++ more)) {entry : Place × Entry} {item : Item}
    (hdescribed : Described l.builder.build entry item) :
    Described l'.builder.build entry item := by
  obtain ⟨hname, hlist, hdescribes⟩ := hdescribed
  refine ⟨hname, hlist, hdescribes.mono (fun hname => ?_) fun e he => ?_⟩
  · rw [h'.get?_labels_build, named_append]
    exact List.mem_append_left _ (h.get?_labels_build.mp hname)
  · rw [h'.elements_build, List.map_append]
    rw [h.elements_build] at he
    exact List.mem_append_left _ he

-- Loading a list adds the elements that its entries describe.
theorem shows_of_loadList {document : Entry} {list : String} {l l' : Loading} {items : List Item}
    {loadEntry : Loading → Place → Entry → Except LoadError Loading}
    (hload : ∀ {l items place entry l'}, l.Shows items → loadEntry l place entry = .ok l' →
      l.Adds list place entry l')
    (hl : l.Shows items) (h : loadList document list loadEntry l = .ok l') :
    ∃ found more, entries document list = .ok found ∧ l'.Shows (items ++ more) ∧
      (∀ item ∈ more, listOf item.2.kind = list ∧ item.2.kind ≠ .foreign) ∧
      List.Forall₂ (Described l'.builder.build) (placed list found) more := by
  obtain ⟨found, hfound, hrun⟩ := bind_eq_ok.mp h
  obtain ⟨more, hmore⟩ : ∃ more, l'.Shows (items ++ more) ∧
      (∀ item ∈ more, listOf item.2.kind = list ∧ item.2.kind ≠ .foreign) ∧
      List.Forall₂ (Described l'.builder.build)
        (found.zipIdx.map fun entry => (⟨list, entry.2⟩, entry.1)) more := by
    clear h
    generalize found.zipIdx = rest at hrun
    induction rest generalizing l items with
    | nil =>
        cases hrun
        exact ⟨[], by simpa using hl, by simp, .nil⟩
    | cons entry rest ih =>
        obtain ⟨next, hentry, hrun⟩ := bind_eq_ok.mp hrun
        obtain ⟨make, hid, hkind, hfresh, hrefs, hdescribes⟩ := hload hl hentry
        obtain ⟨more, hmore, hkinds, hrest⟩ :=
          ih (hl.add _ make hfresh (hid _) (hrefs _)) hrun
        rw [List.append_assoc] at hmore
        exact ⟨_ :: more, hmore, List.forall_mem_cons.mpr ⟨hkind _, hkinds⟩,
          .cons (hl.described hmore ⟨rfl, (hkind _).1, hdescribes _⟩) hrest⟩
  exact ⟨found, more, hfound, hmore⟩

-- The elements of one list of a document.
def inList (elements : List Element) (list : String) : List Element :=
  elements.filter fun e => listOf e.kind == list

-- Elements in the order in which a document lists them.
def inLists (elements : List Element) : List Element := listNames.flatMap (inList elements)

theorem inLists_eq (elements : List Element) : inLists elements = inList elements "points" ++
    inList elements "lines" ++ inList elements "arcs" ++ inList elements "constraints" := by
  simp [inLists, listNames]

-- Where the lists already follow one another, the order is that of the document.
theorem inLists_append {points lines arcs constraints : List Element}
    (hpoints : ∀ e ∈ points, listOf e.kind = "points")
    (hlines : ∀ e ∈ lines, listOf e.kind = "lines")
    (harcs : ∀ e ∈ arcs, listOf e.kind = "arcs")
    (hconstraints : ∀ e ∈ constraints, listOf e.kind = "constraints") :
    inLists (points ++ lines ++ arcs ++ constraints) = points ++ lines ++ arcs ++ constraints := by
  have hfilter {elements : List Element} {own : String} (h : ∀ e ∈ elements, listOf e.kind = own)
      (list : String) : inList elements list = if own = list then elements else [] := by
    unfold inList
    split
    · rename_i heq
      exact List.filter_eq_self.mpr fun e he => by simp [h e he, heq]
    · rename_i hne
      exact List.filter_eq_nil_iff.mpr fun e he => by simp [h e he, hne]
  have happend (a b : List Element) (list : String) :
      inList (a ++ b) list = inList a list ++ inList b list := List.filter_append ..
  simp [inLists_eq, happend, hfilter hpoints, hfilter hlines, hfilter harcs, hfilter hconstraints]

-- The entries of all lists of a document in order, each with its place.
def entriesOf (document : Entry) : List (Place × Entry) :=
  listNames.flatMap fun list =>
    match entries document list with
    | .ok found => placed list found
    | .error _ => []

-- What a document loads to: known elements, list by list, as the entries describe them.
theorem load_eq_ok {d : Value} {s : Sketch} (h : load d = .ok s) :
    ∃ (document : Entry) (l : Loading) (items : List Item), d = .obj document ∧
      s = l.builder.build ∧ l.Shows items ∧ inLists (items.map (·.2)) = items.map (·.2) ∧
      (∀ item ∈ items, item.2.kind ≠ .foreign) ∧
      (∀ list ∈ listNames, ∃ found, entries document list = .ok found) ∧
      List.Forall₂ (Described s) (entriesOf document) items := by
  unfold load at h
  split at h
  · rename_i document
    obtain ⟨l₁, h₁, h⟩ := bind_eq_ok.mp h
    obtain ⟨l₂, h₂, h⟩ := bind_eq_ok.mp h
    obtain ⟨l₃, h₃, h⟩ := bind_eq_ok.mp h
    obtain ⟨l₄, h₄, h⟩ := bind_eq_ok.mp h
    cases h
    obtain ⟨_, points, hf₁, hl₁, hpoints, hd₁⟩ := shows_of_loadList adds_of_loadPoint .empty h₁
    obtain ⟨_, lines, hf₂, hl₂, hlines, hd₂⟩ := shows_of_loadList adds_of_loadLine hl₁ h₂
    obtain ⟨_, arcs, hf₃, hl₃, harcs, hd₃⟩ := shows_of_loadList adds_of_loadArc hl₂ h₃
    obtain ⟨_, constraints, hf₄, hl₄, hconstraints, hd₄⟩ :=
      shows_of_loadList adds_of_loadConstraint hl₃ h₄
    have hlist {key : String} {items : List Item}
        (hitems : ∀ item ∈ items, listOf item.2.kind = key ∧ item.2.kind ≠ .foreign) :
        ∀ e ∈ items.map (·.2), listOf e.kind = key :=
      List.forall_mem_map.mpr fun item hitem => (hitems item hitem).1
    have hlater {l : Loading} {items more : List Item} (hl : l.Shows items)
        (hall : l₄.Shows (items ++ more)) {found : List (Place × Entry)} {some : List Item}
        (hsome : List.Forall₂ (Described l.builder.build) found some) :
        List.Forall₂ (Described l₄.builder.build) found some :=
      hsome.imp fun _ _ hdescribed => hl.described hall hdescribed
    refine ⟨document, l₄, _, rfl, rfl, hl₄, ?_, ?_, ?_, ?_⟩
    · simp only [List.nil_append, List.map_append]
      exact inLists_append (hlist hpoints) (hlist hlines) (hlist harcs) (hlist hconstraints)
    · simp only [List.nil_append, List.forall_mem_append]
      exact ⟨⟨⟨fun item hitem => (hpoints item hitem).2, fun item hitem => (hlines item hitem).2⟩,
        fun item hitem => (harcs item hitem).2⟩, fun item hitem => (hconstraints item hitem).2⟩
    · simp only [listNames, List.forall_mem_cons, List.not_mem_nil, false_implies, implies_true,
        and_true]
      exact ⟨⟨_, hf₁⟩, ⟨_, hf₂⟩, ⟨_, hf₃⟩, ⟨_, hf₄⟩⟩
    · simp only [entriesOf, listNames, List.flatMap_cons, List.flatMap_nil, List.append_nil, hf₁,
        hf₂, hf₃, hf₄]
      have hall := List.rel_append (hlater hl₁ (by simpa using hl₄) hd₁)
        (List.rel_append (hlater hl₂ (by simpa using hl₄) hd₂)
          (List.rel_append (hlater hl₃ hl₄ hd₃) hd₄))
      simpa using hall
  · cases h

end PlaneSketch.Document

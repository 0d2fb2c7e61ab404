import Mathlib
import PlaneSketch.Proofs.Document.Reload

namespace PlaneSketch.Document

open Json (Value)

namespace Loading.Shows

variable {l : Loading} {items : List Item}

theorem linked_build (h : l.Shows items) (hknown : ∀ item ∈ items, item.2.kind ≠ .foreign) :
    l.builder.build.Linked := by
  have hdistinct : (l.builder.build.elements.map Element.id).Nodup := by
    rw [h.elements_build, List.map_map]
    exact h.nodup_ids
  refine ⟨hdistinct, ?_, ?_⟩
  · rw [h.elements_build]
    exact List.forall_mem_map.mpr hknown
  · intro e he r hr
    rw [h.elements_build] at he
    obtain ⟨item, hitem, rfl⟩ := List.mem_map.mp he
    obtain ⟨before, after, heq⟩ := List.append_of_mem hitem
    obtain ⟨target, htarget, hid, hkind⟩ := h.backward before item after heq r hr
    have hmem : target.2 ∈ l.builder.build.elements := by
      rw [h.elements_build, heq]
      exact List.mem_map_of_mem (List.mem_append_left _ htarget)
    exact ⟨target.2, hid ▸ Sketch.get?_of_mem hdistinct hmem, hkind⟩

end Loading.Shows

-- A sketch as documents load to: handles are counted from zero in the order of the lists, and no
-- name is given to two elements.
structure Loaded (s : Sketch) : Prop where
  linked : s.Linked
  ordered : inLists s.elements = s.elements
  counted : s.elements.map Element.id = (List.range s.elements.length).map Int.ofNat
  names : ∀ {name id id'}, s.labels.get? id = some name → s.labels.get? id' = some name → id = id'

theorem loaded_of_load {d : Value} {s : Sketch} (h : load d = .ok s) : Loaded s := by
  obtain ⟨-, l, items, -, rfl, hl, hordered, hknown, -, -⟩ := load_eq_ok h
  exact {
    linked := hl.linked_build hknown
    ordered := by rw [hl.elements_build, hordered]
    counted := by
      rw [hl.elements_build, List.map_map, List.length_map]
      exact hl.counted
    names := by
      intro name id id' hid hid'
      rw [hl.get?_labels_build] at hid hid'
      exact congrArg Prod.snd (List.inj_on_of_nodup_map hl.distinct hid hid' rfl) }

-- The name that is made up for an element without one.
def madeUp (id : Handle) : Text := Text.ofString "#" ++ Text.ofString (toString id)

theorem madeUp_inj {id id' : Handle} (h : madeUp id = madeUp id') : id = id' :=
  Int.repr_injective (Text.ofString_inj.mp (List.append_cancel_left h))

-- An element was given the name that is made up for another one.
def Clash (s : Sketch) : Prop :=
  ∃ e ∈ s.elements, ∃ e' ∈ s.elements,
    s.labels.get? e.id = none ∧ s.labels.get? e'.id = some (madeUp e.id)

instance (s : Sketch) : Decidable (Clash s) :=
  inferInstanceAs (Decidable (∃ e ∈ s.elements, ∃ e' ∈ s.elements, _ ∧ _))

namespace Loaded

variable {s : Sketch}

-- Given names differ, and so do made up ones.
theorem nodup_names_iff (hs : Loaded s) : (s.elements.map (nameOf s)).Nodup ↔ ¬Clash s := by
  have hunnamed {e : Element} (h : s.labels.get? e.id = none) : nameOf s e = madeUp e.id := by
    rw [nameOf, Sketch.name, h]
    rfl
  have hnamed {e : Element} {name : Text} (h : s.labels.get? e.id = some name) :
      nameOf s e = name := by
    rw [nameOf, Sketch.name, h]
    rfl
  constructor
  · rintro hnames ⟨e, he, e', he', hnone, hsome⟩
    have hsame : nameOf s e = nameOf s e' := (hunnamed hnone).trans (hnamed hsome).symm
    obtain rfl := List.inj_on_of_nodup_map hnames he he' hsame
    rw [hnone] at hsome
    cases hsome
  · intro hclash
    refine List.Nodup.map_on (fun e he e' he' hsame => ?_) hs.linked.distinct.of_map
    have hid : e.id = e'.id := by
      cases h : s.labels.get? e.id with
      | none =>
          cases h' : s.labels.get? e'.id with
          | none =>
              rw [hunnamed h, hunnamed h'] at hsame
              exact madeUp_inj hsame
          | some name =>
              rw [hunnamed h, hnamed h'] at hsame
              exact absurd ⟨e, he, e', he', h, hsame ▸ h'⟩ hclash
      | some name =>
          cases h' : s.labels.get? e'.id with
          | none =>
              rw [hnamed h, hunnamed h'] at hsame
              exact absurd ⟨e', he', e, he, h', hsame ▸ h⟩ hclash
          | some name' =>
              rw [hnamed h, hnamed h'] at hsame
              exact hs.names h (hsame ▸ h')
    exact List.inj_on_of_nodup_map hs.linked.distinct he he' hid

-- Elements come back under the handles they had.
theorem index_eq_self (hs : Loaded s) {e : Element} (he : e ∈ s.elements) :
    index s e.id = e.id := by
  obtain ⟨front, back, heq⟩ := List.append_of_mem he
  have hplace := index_eq hs.linked (hs.ordered.trans heq)
  have hcounted := congrArg (fun ids => ids[front.length]?) hs.counted
  have hid : e.id = front.length := by simpa [heq] using hcounted
  rw [hplace, hid]

theorem itemOf_eq (hs : Loaded s) {e : Element} (he : e ∈ s.elements) :
    itemOf s (index s) e = (some (nameOf s e), e) := by
  have hrefs : ∀ r ∈ e.references, index s r.1 = r.1 := by
    intro r hr
    obtain ⟨target, htarget, -⟩ := hs.linked.references e he r hr
    obtain ⟨hmem, hid⟩ := Sketch.mem_of_get? htarget
    rw [← hid, hs.index_eq_self hmem]
  rw [itemOf, Element.rename_eq_self (hs.index_eq_self he) hrefs]
  rfl

end Loaded

-- Handles are counted from zero, so they can be written out unless there are too many.
theorem Loaded.short_iff {s : Sketch} (hs : Loaded s) :
    (∀ e ∈ s.elements, e.id.Short) ↔ s.elements.length ≤ Text.firstLong := by
  have hids : (∀ e ∈ s.elements, e.id.Short) ↔ ∀ id ∈ s.elements.map Element.id, id.Short :=
    List.forall_mem_map.symm
  rw [hids, hs.counted, List.forall_mem_map]
  simp only [List.mem_range]
  refine ⟨fun h => ?_, fun hcount place hplace => lt_of_lt_of_le hplace hcount⟩
  by_contra hcount
  exact Handle.not_short_firstLong (h Text.firstLong (not_le.mp hcount))

-- A document depends on a sketch only through the elements and their names.
theorem dump_congr {s t : Sketch} (hs : s.Linked) (helements : t.elements = s.elements)
    (hname : ∀ e ∈ s.elements, t.name e.id = s.name e.id) : dump t = dump s := by
  have hdump : ∀ e ∈ s.elements, dumpElement t.label e = dumpElement s.label e := by
    intro e he
    have hown := Sketch.label_congr (hname e he)
    have href : ∀ r ∈ e.references, t.label r.1 = s.label r.1 := by
      intro r hr
      obtain ⟨target, htarget, -⟩ := hs.references e he r hr
      obtain ⟨hmem, hid⟩ := Sketch.mem_of_get? htarget
      exact hid ▸ Sketch.label_congr (hname target hmem)
    cases e <;> simp_all [dumpElement, Element.references, Element.id]
  rw [dump, dump, helements, mapM_congr hdump]

-- A sketch that was loaded can be written down, as long as its handles can be. It comes back from
-- its document just as it was, unless an element was given the name that is made up for another
-- one; then its document is refused for that name.
theorem load_dump_load {d : Value} {s : Sketch} (h : load d = .ok s) :
    ((∃ document, dump s = .ok document) ↔ s.elements.length ≤ Text.firstLong) ∧
      ∀ document, dump s = .ok document →
        (¬Clash s → ∃ t, load document = .ok t ∧ t.elements = s.elements ∧
          dump t = .ok document) ∧
        (Clash s → ∃ place name, load document = .error (.repeatedId place name)) := by
  have hs := loaded_of_load h
  refine ⟨(hinges_dump hs.linked).ok_iff.trans hs.short_iff, fun document hdump => ?_⟩
  obtain rfl : written s = document := written_of_dump hs.linked hdump
  obtain ⟨result, hreads, hload⟩ := reads_dump hs.linked
  rw [hs.ordered] at hreads
  rcases hreads with ⟨hnames, l, rfl, hl⟩ | ⟨hnames, place, name, rfl⟩
  · refine ⟨fun _ => ⟨_, hload, ?_⟩, fun hclash => absurd hclash (hs.nodup_names_iff.mp hnames)⟩
    have hitems : s.elements.map (itemOf s (index s)) =
        s.elements.map fun e => (some (nameOf s e), e) :=
      List.map_congr_left fun e he => hs.itemOf_eq he
    rw [hitems] at hl
    have helements : l.builder.build.elements = s.elements := by
      rw [hl.elements_build, List.map_map]
      exact List.map_id s.elements
    refine ⟨helements, hdump ▸ dump_congr hs.linked helements fun e he => ?_⟩
    have hget : l.builder.build.labels.get? e.id = some (nameOf s e) :=
      hl.get?_labels_build.mpr (List.mem_filterMap.mpr ⟨_, List.mem_map_of_mem he, rfl⟩)
    rw [Sketch.name, hget]
    rfl
  · exact ⟨fun hclash => absurd (hs.nodup_names_iff.mpr hclash) hnames,
      fun _ => ⟨place, name, hload⟩⟩

-- All kinds of elements, some of the constraints without a name. The name of the first point is the
-- one made up for a handle that has a name of its own.
def bracketDocument : Value :=
  .obj [("points", .arr
      [.obj [("id", .str "#3"), ("x", .int 0), ("y", .int 0)],
        .obj [("id", .int 7), ("position", .arr [.int 4, .float 0.5])],
        .obj [("id", .str ""), ("x", .float 1.5), ("y", .int 3)]]),
    ("lines", .arr [.obj [("id", .str "base"), ("endpoint_a", .str "#3"), ("endpoint_b", .int 7)]]),
    ("arcs", .arr [.obj [("id", .str "arch"), ("endpoint_a", .str "#3"), ("endpoint_b", .str "7"),
      ("center", .str "")]]),
    ("constraints", .arr
      [.obj [("type", .str "fixed"), ("point", .str "#3")],
        .obj [("type", .str "axis_aligned"), ("axis", .str "vertical"), ("point_a", .str ""),
          ("point_b", .int 7)],
        .obj [("id", .str "span"), ("type", .str "point_point_distance"), ("point_a", .str "#3"),
          ("point_b", .str "7"), ("distance", .int 4), ("measure_only", .int 1)],
        .obj [("type", .str "point_line_distance"), ("point", .str ""), ("line", .str "base"),
          ("distance", .float (-2.5)), ("cosmetic", .obj [("offset", .int 2)])],
        .obj [("type", .str "point_on_line"), ("point", .str "#3"), ("line", .str "base")],
        .obj [("type", .str "point_on_arc"), ("point", .str "7"), ("arc", .str "arch")]])]

theorem load_dump_load_bracket :
    ∃ s document t, load bracketDocument = .ok s ∧ dump s = .ok document ∧
      load document = .ok t ∧ t.elements = s.elements ∧ dump t = .ok document := by
  have hfits : (load bracketDocument).toOption.map (fun s =>
      decide (¬Clash s ∧ s.elements.length ≤ Text.firstLong)) = some true := by decide +kernel
  cases hload : load bracketDocument with
  | error error =>
      rw [hload] at hfits
      cases hfits
  | ok s =>
      rw [hload] at hfits
      obtain ⟨hclash, hcount⟩ := of_decide_eq_true (Option.some.inj hfits)
      obtain ⟨hwrites, hreloads⟩ := load_dump_load hload
      obtain ⟨document, hdump⟩ := hwrites.mpr hcount
      obtain ⟨t, ht⟩ := (hreloads document hdump).1 hclash
      exact ⟨s, document, t, rfl, hdump, ht⟩

-- A point with the name that is made up for a pin without one.
def clashDocument : Value :=
  .obj [("points", .arr [.obj [("id", .str "#1"), ("x", .int 0), ("y", .int 0)]]),
    ("constraints", .arr [.obj [("type", .str "fixed"), ("point", .str "#1")]])]

theorem clash_not_reloaded :
    ∃ s document, load clashDocument = .ok s ∧ dump s = .ok document ∧
      ∀ t, load document ≠ .ok t := by
  have hreload : (load clashDocument).toOption.map (fun s =>
      (dump s).toOption.map fun document => (load document).isOk) = some (some false) := by
    decide +kernel
  cases hload : load clashDocument with
  | error error =>
      rw [hload] at hreload
      cases hreload
  | ok s =>
      rw [hload] at hreload
      have hreload : (dump s).toOption.map (fun document => (load document).isOk) = some false :=
        Option.some.inj hreload
      cases hdump : dump s with
      | error error =>
          rw [hdump] at hreload
          cases hreload
      | ok document =>
          rw [hdump] at hreload
          have hrefused : (load document).isOk = false := Option.some.inj hreload
          refine ⟨s, document, rfl, hdump, fun t ht => ?_⟩
          rw [ht] at hrefused
          cases hrefused

end PlaneSketch.Document

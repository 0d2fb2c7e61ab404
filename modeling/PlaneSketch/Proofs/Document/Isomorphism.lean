import Mathlib
import PlaneSketch.Proofs.Document.RoundTrip

namespace PlaneSketch.Document

variable {s t : Sketch} {e e' : Element}

theorem mem_inLists {elements : List Element} : e ∈ inLists elements ↔ e ∈ elements :=
  (perm_inLists elements).mem_iff

-- Listing once more changes nothing.
theorem inList_inLists (elements : List Element) {list : String} (h : list ∈ listNames) :
    inList (inLists elements) list = inList elements list := by
  have hinList (own : String) : inList (inList elements own) list =
      if own = list then inList elements list else [] := by
    unfold inList
    rw [List.filter_filter]
    split
    · rename_i heq
      exact List.filter_congr fun e _ => by rw [heq, Bool.and_self]
    · rename_i hne
      refine List.filter_eq_nil_iff.mpr fun e _ => ?_
      simp only [Bool.and_eq_true, beq_iff_eq, not_and]
      exact fun hlist hown => hne (hown.symm.trans hlist)
  have happend (a b : List Element) : inList (a ++ b) list = inList a list ++ inList b list :=
    List.filter_append ..
  simp only [listNames, List.mem_cons, List.not_mem_nil, or_false] at h
  rcases h with rfl | rfl | rfl | rfl <;> simp [inLists_eq, happend, hinList]

-- Different elements come back under different handles.
theorem index_inj {id : Handle} (he : e ∈ s.elements) (h : index s e.id = index s id) :
    e.id = id := by
  have hmem : e.id ∈ (inLists s.elements).map Element.id :=
    List.mem_map_of_mem (mem_inLists.mpr he)
  exact (List.idxOf_inj hmem).mp (Int.ofNat.inj h)

-- What a document lists earlier comes back under a smaller handle.
theorem index_lt (hs : s.Linked) (h : [e, e'].Sublist (inLists s.elements)) :
    index s e.id < index s e'.id := by
  obtain ⟨upTo, later, heq, he, hlater⟩ := List.cons_sublist_iff.mp h
  obtain ⟨front, between, rfl⟩ := List.append_of_mem he
  obtain ⟨between', back, rfl⟩ := List.append_of_mem (List.singleton_sublist.mp hlater)
  have hfirst : index s e.id = front.length :=
    index_eq hs (heq.trans (List.append_assoc ..))
  have hsecond : index s e'.id = (front ++ e :: between ++ between').length :=
    index_eq hs (heq.trans (List.append_assoc ..).symm)
  rw [hfirst, hsecond]
  refine Int.ofNat_lt.mpr ?_
  simp only [List.length_append, List.length_cons]
  omega

theorem index_lt_length (he : e ∈ s.elements) : index s e.id < s.elements.length := by
  have hmem : e.id ∈ (inLists s.elements).map Element.id :=
    List.mem_map_of_mem (mem_inLists.mpr he)
  have hlt := List.idxOf_lt_length_of_mem hmem
  rw [List.length_map, (perm_inLists s.elements).length_eq] at hlt
  exact Int.ofNat_lt.mpr hlt

-- The sketch that the document of another one loads to: the elements as the document lists them,
-- each with its place there as its handle, and all under the names they go by.
structure Reloaded (s t : Sketch) : Prop where
  elements : t.elements = (inLists s.elements).map (Element.rename (index s))
  labels : t.labels.entries = (inLists s.elements).map fun e => (index s e.id, s.name e.id)
  linked : t.Linked

theorem exists_reloaded (hs : s.Linked) (hnames : (s.elements.map (nameOf s)).Nodup) :
    ∃ t, load (written s) = .ok t ∧ Reloaded s t := by
  obtain ⟨result, hreads, hload⟩ := reads_dump hs
  have hlisted : ((inLists s.elements).map (nameOf s)).Nodup :=
    ((perm_inLists s.elements).map (nameOf s)).nodup_iff.mpr hnames
  rcases hreads with ⟨-, l, rfl, hl⟩ | ⟨hrepeated, -⟩
  · refine ⟨l.builder.build, hload, ?_, ?_, ?_⟩
    · rw [hl.elements_build, List.map_map]
      rfl
    · change l.builder.labels.entries = _
      rw [hl.labels, named_itemOf, List.map_map]
      rfl
    · refine hl.linked_build (List.forall_mem_map.mpr fun e he => ?_)
      rw [itemOf, Element.kind_rename]
      exact hs.known e (mem_inLists.mp he)
  · exact absurd hlisted hrepeated

-- Where all handles can be written out, labels differ just as names do.
theorem nodup_names (hshort : ∀ e ∈ s.elements, e.id.Short)
    (hlabels : (s.elements.map fun e => s.label e.id).Nodup) :
    (s.elements.map (nameOf s)).Nodup := by
  have hmap : (s.elements.map fun e => s.label e.id) =
      (s.elements.map (nameOf s)).map Except.ok := by
    rw [List.map_map]
    exact List.map_congr_left fun e he => Sketch.label_of_short (hshort e he)
  rw [hmap] at hlabels
  exact hlabels.of_map

namespace Reloaded

-- An element still goes by the name it had.
theorem name_eq (h : Reloaded s t) (he : e ∈ s.elements) :
    t.name (index s e.id) = s.name e.id := by
  have hkeys : t.labels.keys = t.elements.map Element.id := by
    rw [OrderedMap.keys, h.labels, h.elements, List.map_map, List.map_map]
    exact List.map_congr_left fun e _ => (Element.id_rename (index s) e).symm
  have hdistinct : t.labels.keys.Nodup := by
    rw [hkeys]
    exact h.linked.distinct
  have hmem : (index s e.id, s.name e.id) ∈ t.labels.entries := by
    rw [h.labels]
    exact List.mem_map_of_mem (mem_inLists.mpr he)
  rw [Sketch.name, (OrderedMap.get?_eq_some_iff_mem hdistinct).mpr hmem, Option.getD_some]

-- So does what it refers to.
theorem name_of_mem_references (h : Reloaded s t) (hs : s.Linked) (he : e ∈ s.elements)
    {r : Handle × Element.Kind} (hr : r ∈ e.references) :
    t.name (index s r.1) = s.name r.1 := by
  obtain ⟨target, htarget, -⟩ := hs.references e he r hr
  obtain ⟨hmem, hid⟩ := Sketch.mem_of_get? htarget
  rw [← hid, h.name_eq hmem]

theorem short_index (hcount : s.elements.length ≤ Text.firstLong) (he : e ∈ s.elements) :
    (index s e.id).Short := by
  have hlt := Int.ofNat_lt.mp (index_lt_length he)
  exact lt_of_lt_of_le hlt hcount

theorem label_eq (h : Reloaded s t) (hcount : s.elements.length ≤ Text.firstLong)
    (he : e ∈ s.elements) : t.label (index s e.id) = .ok (s.name e.id) := by
  rw [Sketch.label_of_short (short_index hcount he), h.name_eq he]

theorem writtenElement_rename (h : Reloaded s t) (hs : s.Linked) (he : e ∈ s.elements) :
    writtenElement t (e.rename (index s)) = writtenElement s e := by
  have hown := h.name_eq he
  have href := fun r hr => h.name_of_mem_references hs he (r := r) hr
  cases e <;>
    simp_all [writtenElement, dumpElement, Element.rename, Element.references, Element.id]

-- Writing it down once more gives the same document.
theorem written_eq (h : Reloaded s t) (hs : s.Linked) : written t = written s := by
  have hdumped : t.elements.filterMap (writtenElement t) =
      (inLists s.elements).filterMap (writtenElement s) := by
    rw [h.elements, List.filterMap_map]
    exact List.filterMap_congr fun e he => h.writtenElement_rename hs (mem_inLists.mp he)
  have hlist {elements : List Element} (helements : ∀ e ∈ elements, e.kind ≠ .foreign)
      (list : String) :
      (elements.filterMap (writtenElement s)).filter (fun entry => entry.1 == list) =
        (inList elements list).map fun e => (listOf e.kind, .obj (dumpEntry s e)) := by
    rw [List.filterMap_congr fun e he => writtenElement_eq s (helements e he)]
    rw [List.filterMap_eq_map', List.filter_map]
    rfl
  unfold written ofEntries
  rw [hdumped]
  refine congrArg Json.Value.obj (List.map_congr_left fun list hmem => ?_)
  rw [hlist fun e he => hs.known e (mem_inLists.mp he), hlist hs.known, inList_inLists _ hmem]

theorem dump_eq (h : Reloaded s t) (hs : s.Linked)
    (hcount : s.elements.length ≤ Text.firstLong) : dump t = .ok (written s) := by
  have hids : ∀ e ∈ t.elements, e.id.Short := by
    rw [h.elements, List.forall_mem_map]
    intro e he
    rw [Element.id_rename]
    exact short_index hcount (mem_inLists.mp he)
  rw [dump_of_short fun e he => h.linked.short hids he, h.written_eq hs]

end Reloaded

-- A sketch whose handles can be written out comes back from its document as it was, up to the order
-- of the lists and the handles: whatever handles the elements had, each comes back under its place
-- in that order, and so does every reference to it. The labels are those the elements went by, and
-- the document is the same, unless so many come back that some handles are too long now.
theorem load_dump (hs : s.Linked) (hshort : ∀ e ∈ s.elements, e.id.Short)
    (hlabels : (s.elements.map fun e => s.label e.id).Nodup) :
    ∃ document t, dump s = .ok document ∧ load document = .ok t ∧
      t.elements = (inLists s.elements).map (Element.rename (index s)) ∧
      (∀ front e back, inLists s.elements = front ++ e :: back → index s e.id = front.length) ∧
      List.Forall₂ (fun entry e => entry.1 = index s e.id ∧ s.label e.id = .ok entry.2)
        t.labels.entries (inLists s.elements) ∧
      (s.elements.length ≤ Text.firstLong → dump t = .ok document) := by
  obtain ⟨t, hload, ht⟩ := exists_reloaded hs (nodup_names hshort hlabels)
  refine ⟨written s, t, dump_of_short fun e he => hs.short hshort he, hload, ht.elements,
    fun front e back => index_eq hs, ?_, ht.dump_eq hs⟩
  rw [ht.labels, List.forall₂_map_left_iff, List.forall₂_same]
  exact fun e he => ⟨rfl, Sketch.label_of_short (hshort e (mem_inLists.mp he))⟩

-- All kinds of elements in no order at all, under handles with gaps. Two elements have the names
-- that would be made up for each other.
def shelfSketch : Sketch where
  elements :=
    [.pointOnLine 12 7 (-3), .line (-3) 40 7, .point 7 ⟨4.0, 0.5⟩, .fixed 5 40 ⟨0.0, 1.0⟩,
      .arc 9 7 40 2, .point 40 ⟨0.0, 0.0⟩, .distance 1 40 7 4.0 ⟨0.25, 3.0⟩ true,
      .point 2 ⟨1.5, 3.0⟩, .axisAligned 30 .vertical 40 2,
      .lineDistance 8 2 (-3) (-2.5) ⟨0.5, 2.0⟩ false, .pointOnArc 6 2 9]
  labels := ⟨[(7, "corner"), (-3, "base"), (12, "#9"), (9, "#12")]⟩

theorem load_dump_shelf :
    shelfSketch.Linked ∧ (shelfSketch.elements.map fun e => shelfSketch.label e.id).Nodup ∧
      ∃ document t, dump shelfSketch = .ok document ∧ load document = .ok t ∧ t.elements =
        [.point 0 ⟨4.0, 0.5⟩, .point 1 ⟨0.0, 0.0⟩, .point 2 ⟨1.5, 3.0⟩, .line 3 1 0, .arc 4 0 1 2,
          .pointOnLine 5 0 3, .fixed 6 1 ⟨0.0, 1.0⟩, .distance 7 1 0 4.0 ⟨0.25, 3.0⟩ true,
          .axisAligned 8 .vertical 1 2, .lineDistance 9 2 3 (-2.5) ⟨0.5, 2.0⟩ false,
          .pointOnArc 10 2 4] ∧
        dump t = .ok document := by
  have hcheck : shelfSketch.check = .ok () := Sketch.check_eq_ok_of_isOk (by decide +kernel)
  have hlinked : shelfSketch.Linked := (Sketch.wellFormed_of_check hcheck).toLinked
  have hshort : ∀ e ∈ shelfSketch.elements, e.id.Short := by decide +kernel
  have hlabels : (shelfSketch.elements.map fun e => shelfSketch.label e.id).Nodup := by
    decide +kernel
  obtain ⟨document, t, hdump, hload, helements, -, -, hagain⟩ :=
    load_dump hlinked hshort hlabels
  refine ⟨hlinked, hlabels, document, t, hdump, hload, helements.trans ?_,
    hagain (by decide +kernel)⟩
  decide +kernel

-- One point under a handle that is too long to be written out.
def distantSketch : Sketch := ⟨[.point .firstLong ⟨0.0, 0.0⟩], .empty⟩

-- A sketch as it should be that has no document.
theorem distant_not_dumped :
    distantSketch.Linked ∧ (distantSketch.elements.map fun e => distantSketch.label e.id).Nodup ∧
      dump distantSketch = .error .tooMany := by
  have hcheck : distantSketch.check = .ok () := Sketch.check_eq_ok_of_isOk (by decide +kernel)
  have hlinked : distantSketch.Linked := (Sketch.wellFormed_of_check hcheck).toLinked
  refine ⟨hlinked, List.nodup_singleton _, (hinges_dump hlinked).2 fun hshort => ?_⟩
  exact Handle.not_short_firstLong (hshort _ List.mem_cons_self)

end PlaneSketch.Document

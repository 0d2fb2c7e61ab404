import Mathlib
import PlaneSketch.Proofs.Document.RoundTrip

namespace PlaneSketch.Document

open Json (Value)

-- What a document and the sketch it loads to have to do with one another. Elements come list by
-- list as the entries describe them, each with its place in the sketch as its handle. What they
-- refer to comes before them and is of the kind expected there. The labels are the names given.
structure Accepted (document : Entry) (s : Sketch) : Prop where
  lists : ∀ list ∈ listNames, ∃ found, entries document list = .ok found
  described : List.Forall₂
    (fun entry e => listOf e.kind = entry.1.list ∧ entry.2.Describes s entry.1 e)
    (entriesOf document) s.elements
  counted : ∀ (i : Nat) (e : Element), s.elements[i]? = some e → e.id = i
  backward : ∀ front e back, s.elements = front ++ e :: back →
    ∀ r ∈ e.references, ∃ target ∈ front, target.id = r.1 ∧ target.kind = r.2
  labels : s.labels.entries = (entriesOf document).zipIdx.filterMap fun entry =>
    entry.1.2.name.map fun name => ((entry.2 : Handle), name)
  distinct : (s.labels.entries.map (·.2)).Nodup

section

variable {l : Loading} {items : List Item} {s : Sketch}

theorem Loading.Shows.counted_build (h : l.Shows items) {i : Nat} {e : Element}
    (he : l.builder.build.elements[i]? = some e) : e.id = i := by
  rw [h.elements_build, List.getElem?_map, Option.map_eq_some_iff] at he
  obtain ⟨item, hitem, rfl⟩ := he
  obtain ⟨hlt, -⟩ := List.getElem?_eq_some_iff.mp hitem
  have hcounted := congrArg (fun ids => ids[i]?) h.counted
  simp only [List.getElem?_map, hitem, List.getElem?_range hlt, Option.map_some] at hcounted
  exact Option.some.inj hcounted

theorem Loading.Shows.backward_build (h : l.Shows items) {front back : List Element} {e : Element}
    (heq : l.builder.build.elements = front ++ e :: back) :
    ∀ r ∈ e.references, ∃ target ∈ front, target.id = r.1 ∧ target.kind = r.2 := by
  intro r hr
  rw [h.elements_build] at heq
  obtain ⟨before, rest, rfl, rfl, hrest⟩ := List.map_eq_append_iff.mp heq
  obtain ⟨item, after, rfl, rfl, -⟩ := List.map_eq_cons_iff.mp hrest
  obtain ⟨target, htarget, hid, hkind⟩ := h.backward before item after rfl r hr
  exact ⟨target.2, List.mem_map_of_mem htarget, hid, hkind⟩

-- The names given are those in the entries, each for the place of its entry.
theorem Loading.Shows.labels_build (h : l.Shows items) {found : List (Place × Entry)}
    (hfound : List.Forall₂ (Described s) found items) :
    l.builder.build.labels.entries = found.zipIdx.filterMap fun entry =>
      entry.1.2.name.map fun name => ((entry.2 : Handle), name) := by
  have hnames : items.map (·.1) = found.map (·.2.name) := by
    rw [← List.forall₂_eq_eq_eq, List.forall₂_map_left_iff, List.forall₂_map_right_iff]
    exact hfound.flip.imp fun _ _ hdescribed => hdescribed.1
  have hpairs : items.map (fun item => (item.1, item.2.id)) =
      found.zipIdx.map fun entry => (entry.1.2.name, (entry.2 : Handle)) := by
    rw [← List.zip_map', hnames, h.counted, ← hfound.length_eq, List.zip_map,
      List.zipIdx_eq_zip_range', List.range_eq_range']
    rfl
  calc l.builder.labels.entries
      = (items.map fun item => (item.1, item.2.id)).filterMap fun pair =>
          pair.1.map fun name => (pair.2, name) := by
        rw [h.labels, named, List.map_filterMap, List.filterMap_map]
        simp [Function.comp_def]
    _ = _ := by
        rw [hpairs, List.filterMap_map]
        rfl

end

-- What the loader accepts has distinct handles, and every reference leads to what it should. What
-- the check can still refuse is a number that is not finite, a distance below zero between points
-- and a line with one end.
theorem accepted_of_load {d : Value} {s : Sketch} (h : load d = .ok s) :
    ∃ document, d = .obj document ∧ Accepted document s ∧
      (s.check = .ok () ↔
        (∀ e ∈ s.elements, ∀ x ∈ e.numbers, x.isFinite = true) ∧
        (∀ id a b value placement measureOnly,
          .distance id a b value placement measureOnly ∈ s.elements → ¬value < 0.0) ∧
        ∀ id a b, .line id a b ∈ s.elements → a ≠ b) := by
  have hlinked : s.Linked := (loaded_of_load h).linked
  obtain ⟨document, l, items, rfl, rfl, hl, -, -, hlists, hdescribed⟩ := load_eq_ok h
  refine ⟨document, rfl, ?_, ?_⟩
  · exact {
      lists := hlists
      described := by
        rw [hl.elements_build, List.forall₂_map_right_iff]
        exact hdescribed.imp fun _ _ hentry => hentry.2
      counted := fun _ _ => hl.counted_build
      backward := fun _ _ _ => hl.backward_build
      labels := hl.labels_build hdescribed
      distinct := by
        change (l.builder.labels.entries.map (·.2)).Nodup
        rw [hl.labels, List.map_map]
        exact hl.distinct }
  · rw [Sketch.check_eq_ok_iff]
    constructor
    · intro hvalid
      exact ⟨hvalid.finite, fun _ _ _ _ _ _ he => hvalid.proper _ he,
        fun _ _ _ he => hvalid.proper _ he⟩
    · rintro ⟨hfinite, hdistances, hlines⟩
      refine ⟨⟨hlinked, hfinite⟩, fun e he => ?_⟩
      cases e with
      | line id a b => exact hlines id a b he
      | distance id a b value placement measureOnly => exact hdistances _ _ _ _ _ _ he
      | _ => trivial

theorem accepted_of_load_bracket :
    ∃ s document, load bracketDocument = .ok s ∧ bracketDocument = .obj document ∧
      Accepted document s ∧ s.check = .ok () ∧
      ∀ id a b, .line id a b ∈ s.elements → a ≠ b := by
  have hok : (load bracketDocument).toOption.map (fun s => s.check.isOk) = some true := by
    decide +kernel
  cases hload : load bracketDocument with
  | error error =>
      rw [hload] at hok
      cases hok
  | ok s =>
      rw [hload] at hok
      have hcheck : s.check = .ok () := Sketch.check_eq_ok_of_isOk (Option.some.inj hok)
      obtain ⟨document, hdocument, haccepted, hiff⟩ := accepted_of_load hload
      exact ⟨s, document, rfl, hdocument, haccepted, hcheck, (hiff.mp hcheck).2.2⟩

end PlaneSketch.Document

import PlaneSketch.Proofs.Builder.Refusals

namespace PlaneSketch

namespace OrderedMap

variable {κ ν : Type} [DecidableEq κ]

-- Entries whose keys are all different are stored as they come.
theorem ofList_of_nodup {entries : List (κ × ν)} (h : (entries.map (·.1)).Nodup) :
    ofList entries = ⟨entries⟩ := by
  induction entries using List.reverseRecOn with
  | nil => rfl
  | append_singleton entries entry ih =>
      have hlast : ofList (entries ++ [entry]) = (ofList entries).insert entry.1 entry.2 :=
        List.foldl_append
      rw [List.map_append, List.map_singleton, List.nodup_append] at h
      obtain ⟨hkeys, -, hdisjoint⟩ := h
      have hnew : entry.1 ∉ (⟨entries⟩ : OrderedMap κ ν).keys :=
        fun hmem => hdisjoint _ hmem _ List.mem_cons_self rfl
      rw [hlast, ih hkeys]
      exact congrArg OrderedMap.mk (entries_insert hnew entry.2)

end OrderedMap

namespace Builder

variable {b : Builder}

-- Taking over a snapshot is storing its elements one by one, each under its own handle.
theorem elements_ofSketch (s : Sketch) :
    (ofSketch s).elements = .ofList (s.elements.map fun e => (e.id, e)) := by
  have hadopted (elements : List Element) (b : Builder) : (elements.foldl adopt b).elements =
      b.elements.insertAll (elements.map fun e => (e.id, e)) := by
    induction elements generalizing b with
    | nil => rfl
    | cons e rest ih => exact ih (b.adopt e)
  exact hadopted s.elements empty

-- So what stands under a handle is the last of the elements that have it, and this is also what a
-- lookup in the snapshot finds.
theorem get?_ofSketch (s : Sketch) (id : Handle) :
    (ofSketch s).elements.get? id = s.get? id := by
  rw [elements_ofSketch, OrderedMap.get?_ofList, Sketch.get?, List.getLast?_eq_head?_reverse,
    ← List.filter_reverse, List.head?_filter, ← List.map_reverse, List.find?_map, Option.map_map]
  have hsame : (fun entry : Handle × Element => decide (entry.1 = id)) ∘ (fun e => (e.id, e)) =
      fun e => e.id == id := rfl
  rw [hsame]
  exact Option.map_id'

theorem WellKept.get?_build (h : b.WellKept) (id : Handle) :
    b.build.get? id = b.elements.get? id := by
  ext e
  constructor
  · intro hget
    obtain ⟨hmem, rfl⟩ := Sketch.mem_of_get? hget
    exact h.mem_build.mp hmem
  · intro hget
    obtain rfl : e.id = id := h.own _ (h.get?_eq_some.mp hget)
    have hdistinct : (b.build.elements.map Element.id).Nodup := h.ids_build ▸ h.distinct
    exact Sketch.get?_of_mem hdistinct (h.mem_build.mpr hget)

-- No handle that is answered is below the first one that was free.
theorem next_le_of_given {calls : List Call} {id : Handle} (h : id ∈ b.given calls) :
    b.next ≤ id := by
  induction calls generalizing b with
  | nil => cases h
  | cons call rest ih =>
      rcases mem_given_cons.mp h with hanswer | hlater
      · obtain ⟨rfl, -⟩ := eq_next_of_answer hanswer
        exact Int.le_refl _
      · exact Int.le_trans (next_le_perform b call) (ih hlater)

end Builder

namespace Sketch

open Builder

-- The snapshot that a builder gives back right after it has taken over another one.
def reopened (s : Sketch) : Sketch := (ofSketch s).build

variable {s : Sketch}

theorem ids_reopened (s : Sketch) :
    s.reopened.elements.map Element.id = (s.elements.map Element.id).eraseDups := by
  obtain ⟨hkept, hkeys⟩ := kept_ofSketch s
  rw [reopened, hkept.ids_build, hkeys]

theorem nodup_ids_reopened (s : Sketch) : (s.reopened.elements.map Element.id).Nodup := by
  rw [ids_reopened]
  exact Handle.nodup_eraseDups _

theorem get?_reopened (s : Sketch) (id : Handle) : s.reopened.get? id = s.get? id := by
  rw [reopened, (kept_ofSketch s).1.get?_build, get?_ofSketch]

theorem labels_reopened (h : s.labels.keys.Nodup) : s.reopened.labels = s.labels :=
  (labels_ofSketch s).trans (OrderedMap.ofList_of_nodup h)

-- A snapshot in which no handle repeats comes back as it was.
theorem reopened_eq_self (hlabels : s.labels.keys.Nodup)
    (hids : (s.elements.map Element.id).Nodup) : s.reopened = s := by
  have hkeys : ((s.elements.map fun e => (e.id, e)).map (·.1)).Nodup := by rwa [List.map_map]
  have helements : s.reopened.elements = s.elements := by
    rw [reopened, build, elements_ofSketch, OrderedMap.ofList_of_nodup hkeys, OrderedMap.values,
      List.map_map]
    exact List.map_id _
  have hboth := And.intro helements (labels_reopened hlabels)
  cases hreopened : s.reopened
  rw [hreopened] at hboth
  obtain ⟨rfl, rfl⟩ := hboth
  rfl

theorem lt_of_given {calls : List Call} {id : Handle} (hid : id ∈ (ofSketch s).given calls)
    {e : Element} (he : e ∈ s.elements) : e.id < id := by
  obtain ⟨hkept, hkeys⟩ := kept_ofSketch s
  have hstored : (ofSketch s).Stores e.id := by
    rw [Stores, hkeys, List.mem_eraseDups]
    exact List.mem_map_of_mem he
  exact Int.lt_of_lt_of_le (hkept.below _ hstored) (next_le_of_given hid)

-- Reopening a snapshot loses nothing, whatever handles its elements have: each handle is left once,
-- at the place where it first came, and leads where it led before. Labels stay as they are; in a
-- map of labels no handle comes twice. What has been reopened does not change any more, nor does a
-- snapshot without repetitions, and new elements get handles above all that were there.
theorem reopened_complete (hlabels : s.labels.keys.Nodup) :
    (s.reopened.elements.map Element.id).Nodup ∧
      (∀ id, s.reopened.get? id = s.get? id) ∧
      s.reopened.elements.map Element.id = (s.elements.map Element.id).eraseDups ∧
      s.reopened.labels = s.labels ∧
      s.reopened.reopened = s.reopened ∧
      ((s.elements.map Element.id).Nodup → s.reopened = s) ∧
      ∀ calls, ∀ id ∈ (ofSketch s).given calls, ∀ e ∈ s.elements, e.id < id := by
  have hlabelled := labels_reopened hlabels
  have hagain : s.reopened.reopened = s.reopened :=
    reopened_eq_self (hlabelled ▸ hlabels) (nodup_ids_reopened s)
  exact ⟨nodup_ids_reopened s, get?_reopened s, ids_reopened s, hlabelled, hagain,
    reopened_eq_self hlabels, fun _ _ hid _ he => lt_of_given hid he⟩

-- Three elements under two handles, one of them below zero, with a label each and one for a handle
-- that leads nowhere.
theorem reopened_complete_sparse :
    let s : Sketch := ⟨[.point 4 ⟨0.0, 0.0⟩, .point (-7) ⟨1.0, 0.0⟩, .line 4 (-7) (-7)],
      ⟨[(-7, "tip"), (9, "gone"), (4, "strut")]⟩⟩
    s.labels.keys.Nodup ∧ s.reopened.elements = [.line 4 (-7) (-7), .point (-7) ⟨1.0, 0.0⟩] ∧
      (∀ id, s.reopened.get? id = s.get? id) ∧ s.reopened.labels = s.labels ∧
      s.reopened.reopened = s.reopened ∧
      ∀ calls, ∀ id ∈ (ofSketch s).given calls, ∀ e ∈ s.elements, e.id < id := by
  intro s
  have hlabels : s.labels.keys.Nodup := by decide
  obtain ⟨-, hget, -, hlabelled, hagain, -, hfresh⟩ := reopened_complete hlabels
  exact ⟨hlabels, by decide +kernel, hget, hlabelled, hagain, hfresh⟩

end Sketch

end PlaneSketch

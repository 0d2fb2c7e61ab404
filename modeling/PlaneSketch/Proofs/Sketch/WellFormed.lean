import Mathlib.Data.List.Induction
import Mathlib.Data.List.Nodup
import Mathlib.Data.List.Sort
import PlaneSketch.Proofs.Geometry.Distance
import PlaneSketch.Sketch.Check

namespace PlaneSketch

namespace Handle

theorem insertSorted_eq (h : Handle) (hs : List Handle) :
    insertSorted h hs = hs.orderedInsert (· ≤ ·) h := by
  induction hs with
  | nil => rfl
  | cons first rest ih => rw [insertSorted, List.orderedInsert_cons, ih]

theorem sort_eq (hs : List Handle) : sort hs = hs.insertionSort (· ≤ ·) := by
  induction hs with
  | nil => rfl
  | cons first rest ih =>
      rw [List.insertionSort_cons, ← ih, ← insertSorted_eq]
      rfl

theorem mem_sort {h : Handle} {hs : List Handle} : h ∈ sort hs ↔ h ∈ hs := by
  rw [sort_eq, List.mem_insertionSort]

-- Only one list in ascending order has given members, each as often as given.
theorem eq_sort_iff {ks hs : List Handle} :
    ks = sort hs ↔ ks.Perm hs ∧ ks.Pairwise (· ≤ ·) := by
  rw [sort_eq]
  have hperm := List.perm_insertionSort (· ≤ ·) hs
  have hsorted := List.pairwise_insertionSort (· ≤ ·) hs
  constructor
  · rintro rfl
    exact ⟨hperm, hsorted⟩
  · rintro ⟨hks, hascending⟩
    exact (hks.trans hperm.symm).eq_of_pairwise' hascending hsorted

theorem sort_eq_nil {hs : List Handle} : sort hs = [] ↔ hs = [] := by
  simp only [List.eq_nil_iff_forall_not_mem, mem_sort]

-- A handle that comes once more changes nothing, a new one comes last.
theorem eraseDups_concat (ids : List Handle) (id : Handle) :
    (ids ++ [id]).eraseDups = if id ∈ ids then ids.eraseDups else ids.eraseDups ++ [id] := by
  rw [List.eraseDups_append]
  by_cases h : id ∈ ids
  · simp [List.removeAll, h]
  · simp [List.removeAll, h, List.eraseDups_cons]

theorem nodup_eraseDups (ids : List Handle) : ids.eraseDups.Nodup := by
  induction ids using List.reverseRecOn with
  | nil => exact List.nodup_nil
  | append_singleton rest id ih =>
      rw [eraseDups_concat]
      split
      · exact ih
      · rename_i hnew
        rw [← List.concat_eq_append, List.nodup_concat, List.mem_eraseDups]
        exact ⟨hnew, ih⟩

end Handle

namespace Element

-- The handles an element refers to, with the kind of element expected under each.
def references : Element → List (Handle × Kind)
  | point .. => []
  | line _ a b => [(a, .point), (b, .point)]
  | arc _ a b center => [(a, .point), (b, .point), (center, .point)]
  | fixed _ p _ => [(p, .point)]
  | axisAligned _ _ a b => [(a, .point), (b, .point)]
  | distance _ a b _ _ _ => [(a, .point), (b, .point)]
  | lineDistance _ p l _ _ _ => [(p, .point), (l, .line)]
  | pointOnLine _ p l => [(p, .point), (l, .line)]
  | pointOnArc _ p a => [(p, .point), (a, .arc)]
  | foreign .. => []

-- The references once more, with the name of the part that each stands in. Documents and errors
-- use these names.
def roles : Element → List (String × Handle × Kind)
  | point .. => []
  | line _ a b => [("endpoint_a", a, .point), ("endpoint_b", b, .point)]
  | arc _ a b center =>
      [("endpoint_a", a, .point), ("endpoint_b", b, .point), ("center", center, .point)]
  | fixed _ p _ => [("point", p, .point)]
  | axisAligned _ _ a b => [("point_a", a, .point), ("point_b", b, .point)]
  | distance _ a b _ _ _ => [("point_a", a, .point), ("point_b", b, .point)]
  | lineDistance _ p l _ _ _ => [("point", p, .point), ("line", l, .line)]
  | pointOnLine _ p l => [("point", p, .point), ("line", l, .line)]
  | pointOnArc _ p a => [("point", p, .point), ("arc", a, .arc)]
  | foreign .. => []

theorem map_roles (e : Element) : e.roles.map (·.2) = e.references := by
  cases e <;> rfl

-- The numbers of an element that have a meaning for the geometry.
def numbers : Element → List Float
  | point _ position => [position.x, position.y]
  | fixed _ _ position => [position.x, position.y]
  | distance _ _ _ value _ _ => [value]
  | lineDistance _ _ _ value _ _ => [value]
  | _ => []

-- A line has two ends, and a distance between points is not below zero.
def Proper : Element → Prop
  | line _ a b => a ≠ b
  | distance _ _ _ value _ _ => ¬value < 0.0
  | _ => True

end Element

namespace Sketch

-- A sketch in which every handle stands for one element, and every reference leads to an element
-- of the kind expected there.
structure Linked (s : Sketch) : Prop where
  distinct : (s.elements.map Element.id).Nodup
  known : ∀ e ∈ s.elements, e.kind ≠ .foreign
  references : ∀ e ∈ s.elements, ∀ r ∈ e.references,
    ∃ target, s.get? r.1 = some target ∧ target.kind = r.2

-- In addition, every position and distance is finite.
structure WellFormed (s : Sketch) : Prop extends Linked s where
  finite : ∀ e ∈ s.elements, ∀ x ∈ e.numbers, x.isFinite = true

-- In addition, no element is wrong by itself.
structure Valid (s : Sketch) : Prop extends WellFormed s where
  proper : ∀ e ∈ s.elements, e.Proper

variable {s : Sketch} {e : Element}

theorem bind_eq_ok {ε β γ : Type} {x : Except ε β} {f : β → Except ε γ} {c : γ} :
    x >>= f = .ok c ↔ ∃ b, x = .ok b ∧ f b = .ok c := by
  cases x with
  | error e => simp [bind, Except.bind]
  | ok b => simp [bind, Except.bind]

theorem bind_unit_eq_ok {ε γ : Type} {x : Except ε Unit} {y : Except ε γ} {c : γ} :
    (x >>= fun _ => y) = .ok c ↔ x = .ok () ∧ y = .ok c := by
  rw [bind_eq_ok]
  exact ⟨fun ⟨_, hx, hy⟩ => ⟨hx, hy⟩, fun ⟨hx, hy⟩ => ⟨(), hx, hy⟩⟩

theorem forM_eq_ok {ε β : Type} {check : β → Except ε Unit} {xs : List β} :
    xs.forM check = .ok () ↔ ∀ x ∈ xs, check x = .ok () := by
  induction xs with
  | nil => simp [pure, Except.pure]
  | cons x rest ih =>
      rw [List.forM_eq_forM] at ih ⊢
      rw [List.forM_cons, bind_eq_ok, List.forall_mem_cons, ← ih]
      exact ⟨fun ⟨_, hx, hrest⟩ => ⟨hx, hrest⟩, fun h => ⟨(), h⟩⟩

theorem checkReference_eq_ok_iff {role : String} {target : Handle} {kind : Element.Kind} :
    s.checkReference e role target kind = .ok () ↔
      ∃ found, s.get? target = some found ∧ found.kind = kind := by
  unfold checkReference
  cases s.get? target with
  | none => simp
  | some found => by_cases hkind : found.kind = kind <;> simp [hkind]

theorem checkFinite_eq_ok_iff {name : String} {values : List Float} :
    s.checkFinite e name values = .ok () ↔ ∀ x ∈ values, x.isFinite = true := by
  rw [← List.all_eq_true, checkFinite]
  cases values.all Float.isFinite <;> simp

-- What the check of one element establishes. The order of its parts does not matter here.
theorem checkElement_eq_ok_iff : s.checkElement e = .ok () ↔
    e.kind ≠ .foreign ∧
    (∀ r ∈ e.references, ∃ target, s.get? r.1 = some target ∧ target.kind = r.2) ∧
    (∀ x ∈ e.numbers, x.isFinite = true) ∧ e.Proper := by
  cases e with
  | foreign id kindName => simp [checkElement, Element.kind]
  | _ =>
      rw [and_iff_right (by simp [Element.kind])]
      simp [checkElement, checkPoint, bind_unit_eq_ok, checkReference_eq_ok_iff,
        checkFinite_eq_ok_iff, Element.references, Element.numbers, Element.Proper, and_assoc]

theorem repeatedIds_eq_nil_iff : s.repeatedIds = [] ↔ (s.elements.map Element.id).Nodup := by
  rw [repeatedIds, Handle.sort_eq_nil, List.filter_eq_nil_iff, List.nodup_iff_count_le_one]
  simp only [decide_eq_true_eq, Nat.not_lt, List.mem_eraseDups]
  refine ⟨fun h id => ?_, fun h id _ => h id⟩
  by_cases hid : id ∈ s.elements.map Element.id
  · exact h id hid
  · simp [List.count_eq_zero_of_not_mem hid]

-- The check accepts just the valid sketches.
theorem check_eq_ok_iff : s.check = .ok () ↔ s.Valid := by
  have hcheck : s.check = .ok () ↔
      s.repeatedIds = [] ∧ ∀ e ∈ s.elements, s.checkElement e = .ok () := by
    unfold check
    cases s.repeatedIds with
    | nil => simpa using forM_eq_ok
    | cons id rest =>
        refine iff_of_false (fun h => ?_) (by simp)
        simp only at h
        split at h <;> cases h
  rw [hcheck, repeatedIds_eq_nil_iff]
  simp only [checkElement_eq_ok_iff]
  constructor
  · rintro ⟨hdistinct, helements⟩
    exact {
      distinct := hdistinct
      known := fun e he => (helements e he).1
      references := fun e he => (helements e he).2.1
      finite := fun e he => (helements e he).2.2.1
      proper := fun e he => (helements e he).2.2.2 }
  · intro h
    exact ⟨h.distinct, fun e he => ⟨h.known e he, h.references e he, h.finite e he, h.proper e he⟩⟩

theorem wellFormed_of_check (h : s.check = .ok ()) : s.WellFormed :=
  (check_eq_ok_iff.mp h).toWellFormed

theorem check_eq_ok_of_isOk (h : s.check.isOk = true) : s.check = .ok () := by
  cases hcheck : s.check with
  | error invalid => simp [hcheck, Except.isOk, Except.toBool] at h
  | ok => rfl

theorem mem_of_get? {id : Handle} (h : s.get? id = some e) : e ∈ s.elements ∧ e.id = id := by
  simpa using List.mem_of_getLast? h

theorem contains_iff {id : Handle} : s.contains id = true ↔ ∃ e ∈ s.elements, e.id = id := by
  rw [contains, get?, List.getLast?_isSome, ← List.isEmpty_eq_false_iff,
    List.isEmpty_eq_false_iff_exists_mem]
  simp

-- Where handles do not repeat, each leads to its element.
theorem get?_of_mem (hs : (s.elements.map Element.id).Nodup) (he : e ∈ s.elements) :
    s.get? e.id = some e := by
  have hcontains : s.contains e.id = true := contains_iff.mpr ⟨e, he, rfl⟩
  obtain ⟨found, hfound⟩ := Option.isSome_iff_exists.mp hcontains
  obtain ⟨hmem, hid⟩ := mem_of_get? hfound
  rw [hfound, List.inj_on_of_nodup_map hs hmem he hid]

theorem lineEnds_eq_ok {l a b : Handle} :
    s.lineEnds l = .ok (a, b) ↔ s.get? l = some (.line l a b) := by
  unfold lineEnds element
  cases hget : s.get? l with
  | none => simp
  | some e =>
      obtain ⟨-, rfl⟩ := mem_of_get? hget
      cases e <;> simp [Element.id]

theorem arcRadius_eq_ok {c a center : Handle} :
    s.arcRadius c = .ok (center, a) ↔ ∃ b, s.get? c = some (.arc c a b center) := by
  unfold arcRadius element
  cases hget : s.get? c with
  | none => simp
  | some e =>
      obtain ⟨-, rfl⟩ := mem_of_get? hget
      cases e <;> simp [Element.id, and_comm]

theorem mem_points {p : Handle} {position : Point Float} :
    (p, position) ∈ s.points ↔ .point p position ∈ s.elements := by
  rw [points, List.mem_filterMap]
  constructor
  · rintro ⟨e, he, hpoint⟩
    cases e <;> simp_all
  · exact fun h => ⟨_, h, rfl⟩

-- Entries that each come from an element, under its handle.
theorem nodup_handles {β : Type} {entry : Element → Option (Handle × β)}
    (hs : (s.elements.map Element.id).Nodup)
    (hentry : ∀ e x, entry e = some x → x.1 = e.id) :
    ((s.elements.filterMap entry).map (·.1)).Nodup := by
  refine List.pairwise_map.mpr (List.pairwise_filterMap.mpr ?_)
  refine (List.pairwise_map.mp hs).imp fun hne x hx y hy => ?_
  rw [hentry _ x hx, hentry _ y hy]
  exact hne

theorem nodup_points (hs : (s.elements.map Element.id).Nodup) : (s.points.map (·.1)).Nodup :=
  nodup_handles hs fun e x hx => by
    cases e <;> cases hx
    rfl

theorem nodup_lines (hs : (s.elements.map Element.id).Nodup) : (s.lines.map (·.1)).Nodup :=
  nodup_handles hs fun e x hx => by
    cases e <;> cases hx
    rfl

theorem mem_lines {l a b : Handle} : (l, a, b) ∈ s.lines ↔ .line l a b ∈ s.elements := by
  rw [lines, List.mem_filterMap]
  constructor
  · rintro ⟨e, he, hline⟩
    cases e <;> simp_all
  · exact fun h => ⟨_, h, rfl⟩

-- A handle under which a point stands.
def HasPoint (s : Sketch) (p : Handle) : Prop := ∃ position, .point p position ∈ s.elements

theorem hasPoint_iff {p : Handle} : s.HasPoint p ↔ ∃ position, (p, position) ∈ s.points := by
  simp only [mem_points]
  rfl

theorem HasPoint.contains {p : Handle} (h : s.HasPoint p) : s.contains p = true := by
  obtain ⟨position, hpoint⟩ := h
  exact contains_iff.mpr ⟨_, hpoint, rfl⟩

theorem WellFormed.isFinite_position (hs : s.WellFormed) {p : Handle} {position : Point Float}
    (h : .point p position ∈ s.elements) : position.IsFinite :=
  ⟨hs.finite _ h _ (by simp [Element.numbers]), hs.finite _ h _ (by simp [Element.numbers])⟩

namespace Linked

-- A reference to a point leads to one.
theorem exists_point (hs : s.Linked) (he : e ∈ s.elements) {p : Handle}
    (hp : (p, .point) ∈ e.references) : ∃ position, .point p position ∈ s.elements := by
  obtain ⟨target, htarget, hkind⟩ := hs.references e he _ hp
  obtain ⟨hmem, rfl⟩ := mem_of_get? htarget
  cases target with
  | point id position => exact ⟨position, hmem⟩
  | _ => simp [Element.kind] at hkind

theorem exists_line (hs : s.Linked) (he : e ∈ s.elements) {l : Handle}
    (hl : (l, .line) ∈ e.references) : ∃ a b, s.get? l = some (.line l a b) := by
  obtain ⟨target, htarget, hkind⟩ := hs.references e he _ hl
  obtain ⟨hmem, rfl⟩ := mem_of_get? htarget
  cases target with
  | line id a b => exact ⟨a, b, htarget⟩
  | _ => simp [Element.kind] at hkind

theorem exists_arc (hs : s.Linked) (he : e ∈ s.elements) {c : Handle}
    (hc : (c, .arc) ∈ e.references) : ∃ a b center, s.get? c = some (.arc c a b center) := by
  obtain ⟨target, htarget, hkind⟩ := hs.references e he _ hc
  obtain ⟨hmem, rfl⟩ := mem_of_get? htarget
  cases target with
  | arc id a b center => exact ⟨a, b, center, htarget⟩
  | _ => simp [Element.kind] at hkind

end Linked

end Sketch

end PlaneSketch

import PlaneSketch.Proofs.Binary.Magnitude
import PlaneSketch.Proofs.Sketch.WellFormed

namespace PlaneSketch

-- What an error calls the numbers of an element.
def Element.numbersName : Element → String
  | point .. => "position"
  | fixed .. => "position"
  | _ => "distance"

namespace Sketch

-- What is wrong with an element, as an error tells it.
inductive Fault (s : Sketch) (e : Element) : Invalid → Prop
  | missing {role : String} {target : Handle} {kind : Element.Kind}
      (hrole : (role, target, kind) ∈ e.roles) (hmissing : s.get? target = none) :
      Fault s e (s.finding e fun site => s.blame target .digits (.missing site role))
  | wrongKind {role : String} {target : Handle} {kind : Element.Kind} {found : Element}
      (hrole : (role, target, kind) ∈ e.roles) (hfound : s.get? target = some found)
      (hkind : found.kind ≠ kind) :
      Fault s e (s.finding e fun site =>
        s.blame target .digits (.wrongKind site role kind.name found.kindName))
  | notFinite {x : Float} (hx : x ∈ e.numbers) (hinfinite : x.isFinite = false) :
      Fault s e (s.finding e (.notFinite · e.numbersName))
  | equalEnds {id a : Handle} (hline : e = .line id a a) : Fault s e (s.finding e .equalEnds)
  | negativeDistance {id a b : Handle} {value : Float} {placement : Placement Float}
      {measureOnly : Bool} (hdistance : e = .distance id a b value placement measureOnly)
      (hvalue : value < 0.0) : Fault s e (s.finding e (.negativeDistance · value))
  | unsupported (hkind : e.kind = .foreign) : Fault s e (.unsupported e.kindName)

variable {s : Sketch} {e : Element} {invalid : Invalid}

theorem bind_unit_eq_error {ε γ : Type} {x : Except ε Unit} {y : Except ε γ} {error : ε} :
    (x >>= fun _ => y) = .error error ↔ x = .error error ∨ x = .ok () ∧ y = .error error := by
  cases x <;> simp [bind, Except.bind]

-- A row of checks fails where the first of them does.
theorem forM_eq_error {ε β : Type} {check : β → Except ε Unit} {xs : List β} {error : ε}
    (h : xs.forM check = .error error) :
    ∃ before x after, xs = before ++ x :: after ∧ (∀ y ∈ before, check y = .ok ()) ∧
      check x = .error error := by
  induction xs with
  | nil => cases h
  | cons x rest ih =>
      rw [List.forM_eq_forM, List.forM_cons] at h
      rcases bind_unit_eq_error.mp h with hx | ⟨hx, hrest⟩
      · exact ⟨[], x, rest, rfl, by simp, hx⟩
      · obtain ⟨before, y, after, rfl, hbefore, hy⟩ := ih hrest
        exact ⟨x :: before, y, after, rfl, List.forall_mem_cons.mpr ⟨hx, hbefore⟩, hy⟩

theorem fault_of_checkReference {role : String} {target : Handle} {kind : Element.Kind}
    (hrole : (role, target, kind) ∈ e.roles)
    (h : s.checkReference e role target kind = .error invalid) : s.Fault e invalid := by
  unfold checkReference at h
  split at h
  · rename_i hmissing
    cases h
    exact .missing hrole hmissing
  · rename_i found hfound
    split at h
    · cases h
    · rename_i hkind
      cases h
      exact .wrongKind hrole hfound hkind

theorem fault_of_checkFinite
    (h : s.checkFinite e e.numbersName e.numbers = .error invalid) : s.Fault e invalid := by
  unfold checkFinite at h
  split at h
  · cases h
  · rename_i hall
    cases h
    obtain ⟨x, hx, hinfinite⟩ := List.all_eq_false.mp (Bool.not_eq_true _ ▸ hall)
    exact .notFinite hx (Bool.not_eq_true _ ▸ hinfinite)

-- Whatever the check of an element finds wrong is wrong with it.
theorem fault_of_checkElement (h : s.checkElement e = .error invalid) : s.Fault e invalid := by
  cases e with
  | point id position => exact fault_of_checkFinite h
  | line id a b =>
      simp only [checkElement, checkPoint, bind_unit_eq_error] at h
      rcases h with h | ⟨-, h | ⟨-, h⟩⟩
      · exact fault_of_checkReference (by simp [Element.roles]) h
      · exact fault_of_checkReference (by simp [Element.roles]) h
      · split at h
        · rename_i heq
          cases h
          subst heq
          exact .equalEnds rfl
        · cases h
  | arc id a b center =>
      simp only [checkElement, checkPoint, bind_unit_eq_error] at h
      rcases h with h | ⟨-, h | ⟨-, h⟩⟩ <;>
        exact fault_of_checkReference (by simp [Element.roles]) h
  | fixed id p position =>
      simp only [checkElement, checkPoint, bind_unit_eq_error] at h
      rcases h with h | ⟨-, h⟩
      · exact fault_of_checkReference (by simp [Element.roles]) h
      · exact fault_of_checkFinite h
  | axisAligned id axis a b =>
      simp only [checkElement, checkPoint, bind_unit_eq_error] at h
      rcases h with h | ⟨-, h⟩ <;> exact fault_of_checkReference (by simp [Element.roles]) h
  | distance id a b value placement measureOnly =>
      simp only [checkElement, checkPoint, bind_unit_eq_error] at h
      rcases h with h | ⟨-, h | ⟨-, h | ⟨-, h⟩⟩⟩
      · exact fault_of_checkReference (by simp [Element.roles]) h
      · exact fault_of_checkReference (by simp [Element.roles]) h
      · exact fault_of_checkFinite h
      · split at h
        · rename_i hvalue
          cases h
          exact .negativeDistance rfl hvalue
        · cases h
  | lineDistance id p line value placement measureOnly =>
      simp only [checkElement, checkPoint, bind_unit_eq_error] at h
      rcases h with h | ⟨-, h | ⟨-, h⟩⟩
      · exact fault_of_checkReference (by simp [Element.roles]) h
      · exact fault_of_checkReference (by simp [Element.roles]) h
      · exact fault_of_checkFinite h
  | pointOnLine id p line =>
      simp only [checkElement, checkPoint, bind_unit_eq_error] at h
      rcases h with h | ⟨-, h⟩ <;> exact fault_of_checkReference (by simp [Element.roles]) h
  | pointOnArc id p arc =>
      simp only [checkElement, checkPoint, bind_unit_eq_error] at h
      rcases h with h | ⟨-, h⟩ <;> exact fault_of_checkReference (by simp [Element.roles]) h
  | foreign id kindName =>
      cases h
      exact .unsupported rfl

theorem mem_repeatedIds {id : Handle} :
    id ∈ s.repeatedIds ↔ 1 < (s.elements.map Element.id).count id := by
  rw [repeatedIds, Handle.mem_sort, List.mem_filter, List.mem_eraseDups, decide_eq_true_eq,
    and_iff_right_iff_imp]
  exact fun hcount => List.count_pos_iff.mp (by omega)

theorem ascending_repeatedIds (s : Sketch) : s.repeatedIds.Pairwise (· < ·) := by
  obtain ⟨hperm, hascending⟩ := Handle.eq_sort_iff.mp (rfl : s.repeatedIds = Handle.sort _)
  have hdistinct : s.repeatedIds.Nodup := hperm.nodup_iff.mpr ((Handle.nodup_eraseDups _).filter _)
  exact hascending.imp₂ (fun _ _ hle hne => lt_of_le_of_ne hle hne) hdistinct

-- A sketch that is refused has the fault it is refused for: the handles that come more than once,
-- in ascending order, or else what is wrong with the first element that does not pass. Handles that
-- are too long to be written out are refused without a name.
theorem fault_of_check (h : s.check = .error invalid) :
    (∃ ids, ids ≠ [] ∧ ids.Pairwise (· < ·) ∧
      (∀ id, id ∈ ids ↔ 1 < (s.elements.map Element.id).count id) ∧
      ((∃ labels, ids.mapM s.label = .ok labels ∧ invalid = .repeatedIds labels) ∨
        ∃ error, ids.mapM s.label = .error error ∧ invalid = .digits error)) ∨
    (s.elements.map Element.id).Nodup ∧ ∃ before e after, s.elements = before ++ e :: after ∧
      (∀ other ∈ before, s.checkElement other = .ok ()) ∧ s.Fault e invalid := by
  unfold check at h
  split at h
  · rename_i hnone
    obtain ⟨before, e, after, hsplit, hbefore, he⟩ := forM_eq_error h
    exact .inr ⟨repeatedIds_eq_nil_iff.mp hnone, before, e, after, hsplit, hbefore,
      fault_of_checkElement he⟩
  · rename_i hids
    refine .inl ⟨s.repeatedIds, hids, ascending_repeatedIds s, fun _ => mem_repeatedIds, ?_⟩
    split at h
    · rename_i error herror
      exact .inr ⟨error, herror, (Except.error.inj h).symm⟩
    · rename_i labels hlabels
      exact .inl ⟨labels, hlabels, (Except.error.inj h).symm⟩

-- The check accepts a sketch just if every handle stands for one element of a known kind, every
-- reference leads to an element of the kind it needs, lines have two ends, and every position and
-- distance is a finite number, between points one that is not negative.
theorem check_accepts_iff (s : Sketch) :
    s.check = .ok () ↔
      (s.elements.map Element.id).Nodup ∧
      (∀ e ∈ s.elements, e.kind ≠ .foreign) ∧
      (∀ e ∈ s.elements, ∀ r ∈ e.references,
        ∃ target ∈ s.elements, target.id = r.1 ∧ target.kind = r.2) ∧
      (∀ id a b, .line id a b ∈ s.elements → a ≠ b) ∧
      (∀ e ∈ s.elements, ∀ x ∈ e.numbers, x.isFinite = true) ∧
      ∀ id a b value placement measureOnly,
        .distance id a b value placement measureOnly ∈ s.elements → 0.0 ≤ value := by
  have hnegative {value : Float} (hvalue : value.isFinite = true) :
      ¬value < 0.0 ↔ 0.0 ≤ value :=
    Binary.not_lt_iff_le (Binary.isNaN_of_isFinite hvalue) rfl
  rw [check_eq_ok_iff]
  constructor
  · intro h
    refine ⟨h.distinct, h.known, fun e he r hr => ?_, fun id a b he => h.proper _ he, h.finite,
      fun id a b value placement measureOnly he => ?_⟩
    · obtain ⟨target, hget, hkind⟩ := h.references e he r hr
      obtain ⟨hmem, hid⟩ := mem_of_get? hget
      exact ⟨target, hmem, hid, hkind⟩
    · exact (hnegative (h.finite _ he value List.mem_cons_self)).mp (h.proper _ he)
  · rintro ⟨hdistinct, hknown, hreferences, hlines, hfinite, hdistances⟩
    refine ⟨⟨⟨hdistinct, hknown, fun e he r hr => ?_⟩, hfinite⟩, fun e he => ?_⟩
    · obtain ⟨target, hmem, hid, hkind⟩ := hreferences e he r hr
      exact ⟨target, hid ▸ get?_of_mem hdistinct hmem, hkind⟩
    · cases e with
      | line id a b => exact hlines id a b he
      | distance id a b value placement measureOnly =>
          exact (hnegative (hfinite _ he value List.mem_cons_self)).mpr
            (hdistances id a b value placement measureOnly he)
      | _ => trivial

end Sketch

end PlaneSketch

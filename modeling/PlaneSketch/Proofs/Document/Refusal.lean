import Mathlib
import PlaneSketch.Proofs.Binary.Overflow
import PlaneSketch.Proofs.Document.RoundTrip

namespace PlaneSketch.Document

open Json (Value)
open Sketch (bind_eq_ok)

-- An integer that no double is near to.
def Huge (value : Value) : Prop := ∃ n, value = .int n ∧ Binary.overflowBound ≤ n.natAbs

-- What is read as a number where a position is read.
def positionNumbers : Value → List Value
  | .obj members =>
      match Entry.get? members "x", Entry.get? members "y" with
      | some x, some y => [x, y]
      | _, _ => []
  | .arr [x, y] => [x, y]
  | _ => []

def placementNumbers : Value → List Value
  | .obj members => (Entry.get? members "t").toList ++ (Entry.get? members "offset").toList
  | _ => []

def pointNumbers (entry : Entry) : List Value :=
  match entry.get? "position" with
  | some value => positionNumbers value
  | none => [entry.get "x", entry.get "y"]

def constraintNumbers (entry : Entry) : List Value :=
  match (entry.get "type").word? with
  | some "fixed" => (entry.get? "position").toList.flatMap positionNumbers
  | some "point_point_distance" => entry.get "distance" :: placementNumbers (entry.get "cosmetic")
  | some "point_line_distance" => entry.get "distance" :: placementNumbers (entry.get "cosmetic")
  | _ => []

-- What is read as a number in an entry of a list.
def entryNumbers : String → Entry → List Value
  | "points" => pointNumbers
  | "constraints" => constraintNumbers
  | _ => fun _ => []

def listNumbers (document : Entry) (list : String) : List Value :=
  match entries document list with
  | .ok found => found.flatMap (entryNumbers list)
  | .error _ => []

-- What is read as a number in a document.
def numbers : Value → List Value
  | .obj document => listNames.flatMap (listNumbers document)
  | _ => []

-- What reading numbers may come to: either none of them is huge, or the error is about the format,
-- or it is about a huge one.
def Reports {β : Type} (numbers : List Value) : Except LoadError β → Prop
  | .ok _ => ∀ value ∈ numbers, ¬Huge value
  | .error error =>
      error.isFormat = true ∨ error = .hugeInteger ∧ ∃ value ∈ numbers, Huge value

namespace Reports

variable {β γ : Type} {xs ys : List Value} {result : Except LoadError β}

theorem ok (b : β) : Reports [] (.ok b : Except LoadError β) := by simp [Reports]

theorem format {error : LoadError} (h : error.isFormat = true) :
    Reports xs (.error error : Except LoadError β) := .inl h

-- An error ends the reading, so what comes after it may have any numbers.
theorem bind {f : β → Except LoadError γ} (h : Reports xs result)
    (hf : ∀ b, result = .ok b → Reports ys (f b)) : Reports (xs ++ ys) (result >>= f) := by
  cases result with
  | error error =>
      refine Or.imp_right ?_ h
      rintro ⟨herror, value, hvalue, hhuge⟩
      exact ⟨herror, value, List.mem_append_left _ hvalue, hhuge⟩
  | ok b =>
      change Reports (xs ++ ys) (f b)
      have hb := hf b rfl
      cases hresult : f b with
      | ok c =>
          rw [hresult] at hb
          exact List.forall_mem_append.mpr ⟨h, hb⟩
      | error error =>
          rw [hresult] at hb
          refine Or.imp_right ?_ hb
          rintro ⟨herror, value, hvalue, hhuge⟩
          exact ⟨herror, value, List.mem_append_right _ hvalue, hhuge⟩

-- Where nothing is read as a number on the way.
theorem after {f : β → Except LoadError γ} (h : Reports [] result)
    (hf : ∀ b, result = .ok b → Reports ys (f b)) : Reports ys (result >>= f) :=
  h.bind hf

-- Where nothing more is read as a number.
theorem before {f : β → Except LoadError γ} (h : Reports xs result)
    (hf : ∀ b, result = .ok b → Reports [] (f b)) : Reports xs (result >>= f) := by
  simpa using h.bind hf

end Reports

section Values

variable (place : Place) (value : Value)

theorem reports_toFloat : Reports [value] (toFloat place value) := by
  cases value with
  | int n =>
      unfold toFloat
      dsimp only
      split
      · rename_i hhuge
        have hbound := (Binary.isInf_ofInt_iff n).mp hhuge
        exact .inr ⟨rfl, _, List.mem_singleton_self _, n, rfl, hbound⟩
      · rename_i hsmall
        rw [Binary.isInf_ofInt_iff] at hsmall
        simpa [Reports, Huge] using hsmall
  | float x => simp [Reports, toFloat, Huge]
  | _ => exact .format rfl

theorem reports_toPosition : Reports (positionNumbers value) (toPosition place value) := by
  have hpair (x y : Value) : Reports [x, y] (do
      let x ← toFloat place x
      let y ← toFloat place y
      .ok (⟨x, y⟩ : Point Float)) :=
    (reports_toFloat place x).bind fun _ _ => (reports_toFloat place y).before fun _ _ => .ok _
  unfold toPosition
  split
  · rename_i members
    split
    · rename_i x y hx hy
      simpa only [positionNumbers, hx, hy] using hpair x y
    · exact .format rfl
  · exact hpair ..
  · exact .format rfl

theorem reports_toPlacement : Reports (placementNumbers value) (toPlacement place value) := by
  have hmember (member : Option Value) (standard : Float) :
      Reports member.toList (toFloat place (member.getD (.float standard))) := by
    cases member with
    | none => exact .ok standard
    | some value => exact reports_toFloat place value
  unfold toPlacement
  split
  · exact .ok _
  · exact (hmember _ _).bind fun _ _ => (hmember _ _).before fun _ _ => .ok _
  · exact .format rfl

theorem reports_toAxis : Reports [] (toAxis place value) := by
  unfold toAxis
  split
  · exact .ok _
  · exact .format rfl

end Values

section Entries

variable {l : Loading} {items : List Item} {place : Place} {entry : Entry}

-- The names given stand for elements.
theorem Loading.Shows.exists_kindOf (hl : l.Shows items) {name : Text} {id : Handle}
    (h : l.handles.lookup name = some id) : ∃ kind, l.builder.kindOf id = .ok kind := by
  obtain ⟨item, hitem, hname⟩ := List.mem_filterMap.mp (hl.lookup_eq_some_iff.mp h)
  obtain ⟨_, -, heq⟩ := Option.map_eq_some_iff.mp hname
  exact ⟨item.2.kind, hl.kindOf_eq_ok.mpr ⟨item, hitem, (Prod.mk.inj heq).2, rfl⟩⟩

theorem exists_positionOf {b : Builder} {id : Handle} (h : b.kindOf id = .ok .point) :
    ∃ position, b.positionOf id = .ok position := by
  unfold Builder.kindOf at h
  unfold Builder.positionOf
  cases hget : b.elements.get? id with
  | none =>
      rw [hget] at h
      cases h
  | some e =>
      rw [hget] at h
      cases e with
      | point id position => exact ⟨position, rfl⟩
      | _ => cases h

theorem reports_label : Reports [] (l.label place entry) := by
  unfold Loading.label
  split
  · exact .ok _
  · split
    · exact .format rfl
    · exact .ok _

theorem reports_requiredLabel : Reports [] (l.requiredLabel place entry) := by
  refine reports_label.after fun label _ => ?_
  cases label with
  | none => exact .format rfl
  | some name => exact .ok _

theorem reports_reference (hl : l.Shows items) {key : String} {kind : Element.Kind} :
    Reports [] (l.reference place entry key kind) := by
  unfold Loading.reference
  split
  · exact .format rfl
  · split
    · exact .format rfl
    · rename_i handle hhandle
      obtain ⟨found, hfound⟩ := hl.exists_kindOf hhandle
      rw [hfound]
      dsimp only
      split
      · exact .ok _
      · exact .format rfl

theorem reports_pinPosition {p : Handle} (hp : l.builder.kindOf p = .ok .point) :
    Reports ((entry.get? "position").toList.flatMap positionNumbers)
      (pinPosition l place entry p) := by
  unfold pinPosition
  cases entry.get? "position" with
  | some value => simpa using reports_toPosition place value
  | none =>
      obtain ⟨position, hposition⟩ := exists_positionOf hp
      rw [hposition]
      exact .ok position

theorem reports_loadPoint (_ : l.Shows items) :
    Reports (pointNumbers entry) (loadPoint l place entry) := by
  refine reports_requiredLabel.after fun name _ => ?_
  dsimp only
  split
  · rename_i value hvalue
    rw [pointNumbers, hvalue]
    exact (reports_toPosition ..).before fun _ _ => .ok _
  · rename_i hnone
    rw [pointNumbers, hnone]
    exact (reports_toFloat ..).bind fun _ _ => (reports_toFloat ..).before fun _ _ => .ok _

theorem reports_loadLine (hl : l.Shows items) : Reports [] (loadLine l place entry) :=
  reports_requiredLabel.after fun _ _ => (reports_reference hl).after fun _ _ =>
    (reports_reference hl).after fun _ _ => .ok _

theorem reports_loadArc (hl : l.Shows items) : Reports [] (loadArc l place entry) :=
  reports_requiredLabel.after fun _ _ => (reports_reference hl).after fun _ _ =>
    (reports_reference hl).after fun _ _ => (reports_reference hl).after fun _ _ => .ok _

theorem reports_loadConstraint (hl : l.Shows items) :
    Reports (constraintNumbers entry) (loadConstraint l place entry) := by
  refine reports_label.after fun label _ => ?_
  have hdimension {made : Float → Placement Float → Loading} :
      Reports (entry.get "distance" :: placementNumbers (entry.get "cosmetic")) (do
        let value ← toFloat place (entry.get "distance")
        let placement ← toPlacement place (entry.get "cosmetic")
        .ok (made value placement)) :=
    (reports_toFloat ..).bind fun _ _ => (reports_toPlacement ..).before fun _ _ => .ok _
  dsimp only
  split
  · rename_i htype
    rw [constraintNumbers, htype]
    exact (reports_reference hl).after fun p hp =>
      (reports_pinPosition (reference_eq_ok hp).2).before fun _ _ => .ok _
  · rename_i htype
    rw [constraintNumbers, htype]
    exact (reports_toAxis ..).after fun _ _ => (reports_reference hl).after fun _ _ =>
      (reports_reference hl).after fun _ _ => .ok _
  · rename_i htype
    rw [constraintNumbers, htype]
    exact (reports_reference hl).after fun _ _ => (reports_reference hl).after fun _ _ => hdimension
  · rename_i htype
    rw [constraintNumbers, htype]
    exact (reports_reference hl).after fun _ _ => (reports_reference hl).after fun _ _ => hdimension
  · rename_i htype
    rw [constraintNumbers, htype]
    exact (reports_reference hl).after fun _ _ => (reports_reference hl).after fun _ _ => .ok _
  · rename_i htype
    rw [constraintNumbers, htype]
    exact (reports_reference hl).after fun _ _ => (reports_reference hl).after fun _ _ => .ok _
  · exact .format rfl

end Entries

section Documents

variable {document : Entry} {list : String} {l : Loading} {items : List Item}
  {loadEntry : Loading → Place → Entry → Except LoadError Loading}

theorem reports_entries : Reports [] (entries document list) := by
  unfold entries
  split
  · split
    · exact .ok _
    · exact .format rfl
  · exact .format rfl

theorem reports_loadList
    (hload : ∀ {l items place entry l'}, l.Shows items → loadEntry l place entry = .ok l' →
      l.Adds list place entry l')
    (hreports : ∀ {l items place entry}, l.Shows items →
      Reports (entryNumbers list entry) (loadEntry l place entry))
    (hl : l.Shows items) :
    Reports (listNumbers document list) (loadList document list loadEntry l) := by
  refine reports_entries.after fun found hfound => ?_
  have hnumbers : listNumbers document list =
      found.zipIdx.flatMap fun entry => entryNumbers list entry.1 := by
    have hfirst := List.flatMap_map (f := Prod.fst) (g := entryNumbers list) found.zipIdx
    rw [List.zipIdx_map_fst] at hfirst
    rw [listNumbers, hfound]
    exact hfirst
  rw [hnumbers]
  generalize found.zipIdx = rest
  induction rest generalizing l items with
  | nil => exact .ok l
  | cons entry rest ih =>
      refine (hreports hl).bind fun next hnext => ?_
      obtain ⟨make, hid, -, hfresh, hrefs, -⟩ := hload hl hnext
      exact ih (hl.add _ make hfresh (hid _) (hrefs _))

theorem reports_load (d : Value) : Reports (numbers d) (load d) := by
  cases d with
  | obj document =>
      change Reports (listNumbers document "points" ++ (listNumbers document "lines" ++
        (listNumbers document "arcs" ++ (listNumbers document "constraints" ++ []))))
        (load (.obj document))
      rw [List.append_nil]
      refine (reports_loadList adds_of_loadPoint reports_loadPoint .empty).bind fun l₁ h₁ => ?_
      obtain ⟨_, points, -, hl₁, -⟩ := shows_of_loadList adds_of_loadPoint .empty h₁
      refine (reports_loadList adds_of_loadLine reports_loadLine hl₁).bind fun l₂ h₂ => ?_
      obtain ⟨_, lines, -, hl₂, -⟩ := shows_of_loadList adds_of_loadLine hl₁ h₂
      refine (reports_loadList adds_of_loadArc reports_loadArc hl₂).bind fun l₃ h₃ => ?_
      obtain ⟨_, arcs, -, hl₃, -⟩ := shows_of_loadList adds_of_loadArc hl₂ h₃
      exact (reports_loadList adds_of_loadConstraint reports_loadConstraint hl₃).before
        fun _ _ => .ok _
  | _ => exact .format rfl

end Documents

-- A document is loaded or refused for its format, whatever stands in it and wherever. Only an
-- integer that no double is near to, where a number is read, may end the loading otherwise; no
-- document with such a number is loaded.
theorem load_ok_or_refused (d : Value) :
    (∃ s, load d = .ok s ∧ ∀ value ∈ numbers d, ¬Huge value) ∨
      (∃ error, load d = .error error ∧ error.isFormat = true) ∨
      (load d = .error .hugeInteger ∧ ∃ value ∈ numbers d, Huge value) := by
  have hreports := reports_load d
  cases hload : load d with
  | ok s =>
      rw [hload] at hreports
      exact .inl ⟨s, rfl, hreports⟩
  | error error =>
      rw [hload] at hreports
      rcases hreports with hformat | ⟨rfl, hhuge⟩
      · exact .inr (.inl ⟨error, rfl, hformat⟩)
      · exact .inr (.inr ⟨rfl, hhuge⟩)

-- A point further out than any double.
def farDocument : Value :=
  .obj [("points", .arr [.obj [("id", .str "A"), ("x", .int (10 ^ 400)), ("y", .int 0)]])]

theorem far_not_reported :
    ¬((∃ s, load farDocument = .ok s) ∨
      ∃ error, load farDocument = .error error ∧ error.isFormat = true) := by
  have hload : (match load farDocument with
      | .ok _ => true
      | .error error => error.isFormat) = false := by decide +kernel
  rintro (⟨s, h⟩ | ⟨error, h, hformat⟩)
  · rw [h] at hload
    cases hload
  · rw [h] at hload
    exact absurd hformat (Bool.eq_false_iff.mp hload)

end PlaneSketch.Document

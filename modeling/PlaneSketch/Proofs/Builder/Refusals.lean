import PlaneSketch.Proofs.Builder.Handles

namespace PlaneSketch.Builder

variable {b c start : Builder} {call : Call} {calls : List Call} {first : List Handle}

-- What can be asked of a builder.
inductive Request where
  | call (call : Call)
  -- To begin again from the snapshot.
  | restart

def serve (b : Builder) : Request → Except CallError (Option Handle) × Builder
  | .call call => b.perform call
  | .restart => (.ok none, ofSketch b.build)

-- All that can be seen of a builder: what it answers in turn, and each time the snapshot.
def seen (b : Builder) : List Request → List (Except CallError (Option Handle) × Sketch)
  | [] => []
  | request :: rest =>
      ((b.serve request).1, (b.serve request).2.build) :: seen (b.serve request).2 rest

def Indistinguishable (b c : Builder) : Prop :=
  b.build = c.build ∧ ∀ requests, b.seen requests = c.seen requests

theorem indistinguishable_refl (b : Builder) : b.Indistinguishable b := ⟨rfl, fun _ => rfl⟩

-- A handle that is used up shows as soon as a point is added.
theorem Indistinguishable.next_eq (h : b.Indistinguishable c) : b.next = c.next := by
  have hseen := h.2 [.call (.addPoint (.double 0) (.double 0) none)]
  have hanswer := congrArg Prod.fst (List.cons.inj hseen).1
  exact Option.some.inj (Except.ok.inj hanswer)

theorem get?_labels_allocate (b : Builder) (label : Option Text) (id : Handle) :
    (b.allocate label).2.labels.get? id =
      if b.next = id then label.or (b.labels.get? id) else b.labels.get? id := by
  cases label with
  | none => simp [allocate]
  | some text =>
      rw [allocate, OrderedMap.get?_insert]
      rfl

-- No handle has two labels.
theorem nodup_labels_allocate (h : b.labels.keys.Nodup) (label : Option Text) :
    (b.allocate label).2.labels.keys.Nodup := by
  cases label with
  | none => exact h
  | some text => exact OrderedMap.nodup_keys_insert h b.next text

theorem nodup_labels_reserve (h : b.labels.keys.Nodup) (call : Call) :
    (b.reserve call).labels.keys.Nodup := by
  unfold reserve
  split
  · exact nodup_labels_allocate h _
  · exact h

theorem nodup_labels_perform (h : b.labels.keys.Nodup) (call : Call) :
    (b.perform call).2.labels.keys.Nodup := by
  have heffect := effect_perform b call
  generalize (b.perform call).1 = answer, (b.perform call).2 = next at heffect ⊢
  cases heffect with
  | added label => exact nodup_labels_allocate h label
  | moved => exact h
  | @removed id =>
      change (b.labels.erase id).keys.Nodup
      rw [OrderedMap.keys_erase]
      exact h.filter _
  | refused => exact nodup_labels_reserve h call

theorem nodup_labels_after (h : b.labels.keys.Nodup) (calls : List Call) :
    (b.after calls).labels.keys.Nodup := by
  induction calls generalizing b with
  | nil => exact h
  | cons call rest ih => exact ih (nodup_labels_perform h call)

theorem labels_ofSketch (s : Sketch) : (ofSketch s).labels = .ofList s.labels.entries := by
  have hadopted : (s.elements.foldl adopt empty).labels = .empty := by
    induction s.elements using List.reverseRecOn with
    | nil => rfl
    | append_singleton elements e ih => rw [List.foldl_append]; exact ih
  rw [ofSketch, hadopted]
  rfl

theorem Starts.nodup_labels (h : Starts start first) : start.labels.keys.Nodup := by
  cases h with
  | empty => exact .nil
  | snapshot s =>
      rw [labels_ofSketch]
      exact OrderedMap.nodup_keys_ofList _

-- A builder that begins again has the labels it had.
theorem get?_labels_restart (h : b.labels.keys.Nodup) (id : Handle) :
    (ofSketch b.build).labels.get? id = b.labels.get? id := by
  ext text
  rw [labels_ofSketch, OrderedMap.get?_eq_some_iff_mem h]
  exact OrderedMap.get?_ofList_eq_some_iff h

-- Apart from the labels, a new beginning depends on the elements alone.
theorem restart_congr (h : b.build.elements = c.build.elements) :
    (ofSketch b.build).elements = (ofSketch c.build).elements ∧
      (ofSketch b.build).next = (ofSketch c.build).next := by
  rw [ofSketch, ofSketch, h]
  exact ⟨rfl, rfl⟩

-- A refused call leaves no trace just if it looks at all it is given before it takes a handle.
theorem indistinguishable_perform_iff {error : CallError}
    (hrefused : (b.perform call).1 = .error error) :
    (b.perform call).2.Indistinguishable b ↔ call.early = none := by
  rw [eq_reserve_of_error hrefused]
  constructor
  · intro hsame
    cases hcall : call.early with
    | none => rfl
    | some label =>
        have hnext := hsame.next_eq
        rw [reserve_of_some hcall] at hnext
        exact absurd hnext (Int.ne_of_gt (Int.lt_succ b.next))
  · intro hcall
    rw [reserve_of_none hcall]
    exact indistinguishable_refl b

-- What a refused call leaves behind.
structure Leaves (b : Builder) (call : Call) : Prop where
  elements : (b.perform call).2.build.elements = b.build.elements
  -- If a handle is taken early there is a trace of the call, and only then.
  untraced : (b.perform call).2.Indistinguishable b ↔ call.early = none
  -- The handle is used up and keeps the label,
  handle : ∀ label, call.early = some label → (b.perform call).2.next = b.next + 1
  label : ∀ label, call.early = some label → ∀ id, (b.perform call).2.labels.get? id =
    if b.next = id then label.or (b.labels.get? id) else b.labels.get? id
  -- until a new beginning gives the handle back, but not the label.
  restarted : (ofSketch (b.perform call).2.build).elements = (ofSketch b.build).elements ∧
    (ofSketch (b.perform call).2.build).next = (ofSketch b.build).next
  labelled : ∀ id, (ofSketch (b.perform call).2.build).labels.get? id =
    (b.perform call).2.labels.get? id

theorem refused_leaves (hstart : Starts start first) {error : CallError}
    (hrefused : ((start.after calls).perform call).1 = .error error) :
    Leaves (start.after calls) call := by
  have hlabels := nodup_labels_after hstart.nodup_labels calls
  generalize start.after calls = b at hrefused hlabels ⊢
  have hearly {label : Option Text} (h : call.early = some label) :
      (b.perform call).2 = (b.allocate label).2 := by
    rw [eq_reserve_of_error hrefused, reserve_of_some h]
  exact {
    elements := build_of_error hrefused
    untraced := indistinguishable_perform_iff hrefused
    handle := fun label hcall => by rw [hearly hcall]; rfl
    label := fun label hcall id => by rw [hearly hcall, get?_labels_allocate]
    restarted := restart_congr (build_of_error hrefused)
    labelled := get?_labels_restart (nodup_labels_perform hlabels call) }

-- A distance that is no number is refused when the second point is already there.
theorem refused_leaves_gap :
    let s : Sketch := ⟨[.point 3 ⟨0, 0⟩], .ofList [(3, "post")]⟩
    let calls : List Call := [.addPoint (.integer 4) (.integer 0) none]
    let call : Call := .distance 3 4 (.other "could not convert string to float: 'wide'")
      ⟨0.5, 0⟩ false (some "gap")
    (((ofSketch s).after calls).perform call).1 =
        .error (.numeral (.notANumber "could not convert string to float: 'wide'")) ∧
      Leaves ((ofSketch s).after calls) call := by
  intro s calls call
  have hrefused : (((ofSketch s).after calls).perform call).1 =
      .error (.numeral (.notANumber "could not convert string to float: 'wide'")) := rfl
  exact ⟨hrefused, refused_leaves (.snapshot s) hrefused⟩

-- A brace along an axis that does not exist is refused. Begun again, the first point that is added
-- takes its handle, and goes by its label.
theorem label_left_behind :
    let call : Call := .plain (.axisAligned "diagonal" 0 1 (some "brace"))
    let later : List Request := [.restart, .call (.addPoint (.double 1) (.double 2) none)]
    (empty.perform call).1 = .error (.operation (.unknownAxis "diagonal")) ∧
      ¬ (empty.perform call).2.Indistinguishable empty ∧
      ((empty.perform call).2.seen later).map (fun entry => entry.2.label 0) =
        [.ok "brace", .ok "brace"] ∧
      (empty.seen later).map (fun entry => entry.2.label 0) = [.ok "#0", .ok "#0"] := by
  intro call later
  have hrefused : (empty.perform call).1 = .error (.operation (.unknownAxis "diagonal")) := by
    rfl
  refine ⟨hrefused, fun h => ?_, by decide +kernel, by decide +kernel⟩
  exact absurd h.next_eq (by decide +kernel)

end PlaneSketch.Builder

import PlaneSketch.Proofs.OrderedMap
import PlaneSketch.Proofs.Sketch.WellFormed
import PlaneSketch.Sketch.Call

namespace PlaneSketch.Builder

open Sketch (bind_eq_ok)

variable {b : Builder} {call : Call} {op : Op}

namespace Call

theorem adds_of_read (h : call.read = .ok op) : call.adds = op.adds := by
  cases call with
  | plain => exact congrArg Op.adds (Except.ok.inj h)
  | _ =>
      simp only [read, bind_eq_ok, Except.ok.injEq] at h
      obtain ⟨_, _, h⟩ := h
      first
      | obtain rfl := h
        rfl
      | obtain ⟨_, _, rfl⟩ := h
        rfl

theorem target_of_read {id : Handle} {position : Point Float}
    (h : call.read = .ok (.movePoint id position)) : call.target = some id := by
  rw [target, h]

theorem read_of_target {id : Handle} (h : id ∈ call.target) :
    ∃ position, call.read = .ok (.movePoint id position) := by
  rw [target] at h
  split at h
  case h_1 => cases h
  case h_2 other position hread =>
    obtain rfl := Option.some.inj h
    exact ⟨position, hread⟩
  case h_3 => cases h

-- A pin takes its handle last.
theorem early_of_read_fix {point : Handle} {position : Option (Point Float)} {label : Option Text}
    (h : call.read = .ok (.fix point position label)) : call.early = none := by
  cases call with
  | fixAt => rfl
  | plain => rw [Except.ok.inj h]; rfl
  | _ => simp [read, bind_eq_ok] at h

theorem early_of_read_axisAligned {name : Text} {p q : Handle} {label : Option Text}
    (h : call.read = .ok (.axisAligned name p q label)) : call.early = some label := by
  cases call with
  | plain => rw [Except.ok.inj h]; rfl
  | _ => simp [read, bind_eq_ok] at h

end Call

theorem perform_of_read_error {error : Numeral.Error} (h : call.read = .error error) :
    b.perform call = (.error (.numeral error), b.reserve call) := by
  simp only [perform, h]

theorem perform_of_read (h : call.read = .ok op) :
    b.perform call = ((b.step op).1.mapError .operation, (b.step op).2) := by
  simp only [perform, h]

theorem reserve_of_none (h : call.early = none) : b.reserve call = b := by
  simp only [reserve, h]

theorem reserve_of_some {label : Option Text} (h : call.early = some label) :
    b.reserve call = (b.allocate label).2 := by
  simp only [reserve, h]

-- All that a call can come to: a new element under the next handle, a point put under a handle, an
-- element taken away, or a refusal.
inductive Effect (b : Builder) (call : Call) : Except CallError (Option Handle) → Builder → Prop
  | added (label : Option Text) (make : Handle → Element) (hid : ∀ id, (make id).id = id)
      (hadds : call.adds = true) : Effect b call (.ok (some b.next)) (b.add label make).2
  | moved {id : Handle} {position : Point Float}
      (hread : call.read = .ok (.movePoint id position)) :
      Effect b call (.ok none) (b.movePoint id position)
  | removed {id : Handle} (hread : call.read = .ok (.remove id)) :
      Effect b call (.ok none) (b.remove id)
  | refused (error : CallError) : Effect b call (.error error) (b.reserve call)

theorem effect_perform (b : Builder) (call : Call) :
    Effect b call (b.perform call).1 (b.perform call).2 := by
  cases hread : call.read with
  | error error =>
      rw [perform_of_read_error hread]
      exact .refused _
  | ok op =>
      have hadds := Call.adds_of_read hread
      rw [perform_of_read hread]
      cases op with
      | addPoint position label => exact .added label (.point · position) (fun _ => rfl) hadds
      | movePoint id position => exact .moved hread
      | addLine p q label => exact .added label (.line · p q) (fun _ => rfl) hadds
      | addArc p q center label => exact .added label (.arc · p q center) (fun _ => rfl) hadds
      | fix point position label =>
          have hearly := reserve_of_none (b := b) (Call.early_of_read_fix hread)
          cases position with
          | some target => exact .added label (.fixed · point target) (fun _ => rfl) hadds
          | none =>
              cases hposition : b.positionOf point with
              | ok target =>
                  simp only [step, fix, hposition]
                  exact .added label (.fixed · point target) (fun _ => rfl) hadds
              | error error =>
                  have hrefused : Effect b call _ _ := .refused (.operation error)
                  simp only [step, fix, hposition]
                  rwa [hearly] at hrefused
      | axisAligned name p q label =>
          have hearly := reserve_of_some (b := b) (Call.early_of_read_axisAligned hread)
          cases haxis : (Text.string? name).bind Axis.ofName? with
          | some axis =>
              simp only [step, haxis]
              exact .added label (.axisAligned · axis p q) (fun _ => rfl) hadds
          | none =>
              have hrefused : Effect b call _ _ := .refused (.operation (.unknownAxis name))
              simp only [step, haxis]
              rwa [hearly] at hrefused
      | distance p q value placement measureOnly label =>
          exact .added label (.distance · p q value placement measureOnly) (fun _ => rfl) hadds
      | lineDistance point line value placement measureOnly label =>
          exact .added label (.lineDistance · point line value placement measureOnly)
            (fun _ => rfl) hadds
      | pointOnLine point line label =>
          exact .added label (.pointOnLine · point line) (fun _ => rfl) hadds
      | pointOnArc point arc label =>
          exact .added label (.pointOnArc · point arc) (fun _ => rfl) hadds
      | remove id => exact .removed hread

-- The effect, read off the answer.
theorem eq_add_of_answer {id : Handle} (h : (b.perform call).1 = .ok (some id)) :
    ∃ (label : Option Text) (make : Handle → Element), (∀ id, (make id).id = id) ∧
      id = b.next ∧ call.adds = true ∧ (b.perform call).2 = (b.add label make).2 := by
  have heffect := effect_perform b call
  generalize (b.perform call).1 = answer, (b.perform call).2 = next at heffect h ⊢
  cases heffect with
  | added label make hid hadds =>
      exact ⟨label, make, hid, (Option.some.inj (Except.ok.inj h)).symm, hadds, rfl⟩
  | moved => cases h
  | removed => cases h
  | refused => cases h

theorem adds_of_no_answer (h : (b.perform call).1 = .ok none) : call.adds = false := by
  have heffect := effect_perform b call
  generalize (b.perform call).1 = answer, (b.perform call).2 = next at heffect h
  cases heffect with
  | added => cases h
  | moved hread => exact Call.adds_of_read hread
  | removed hread => exact Call.adds_of_read hread
  | refused => cases h

theorem eq_reserve_of_error {error : CallError} (h : (b.perform call).1 = .error error) :
    (b.perform call).2 = b.reserve call := by
  have heffect := effect_perform b call
  generalize (b.perform call).1 = answer, (b.perform call).2 = next at heffect h ⊢
  cases heffect with
  | added => cases h
  | moved => cases h
  | removed => cases h
  | refused => rfl

end PlaneSketch.Builder

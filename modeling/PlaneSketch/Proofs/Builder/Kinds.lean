import PlaneSketch.Proofs.Builder.Handles

namespace PlaneSketch.Builder

variable {b c start : Builder} {call : Call} {calls : List Call} {first : List Handle}
  {id : Handle}

-- A handle under which a point stands.
def IsPoint (b : Builder) (id : Handle) : Prop := b.kindOf id = .ok .point

theorem kindOf_eq_ok_iff {kind : Element.Kind} :
    b.kindOf id = .ok kind ↔ ∃ e, b.elements.get? id = some e ∧ e.kind = kind := by
  rw [kindOf]
  cases b.elements.get? id <;> simp

theorem stores_iff_kindOf : b.Stores id ↔ ∃ kind, b.kindOf id = .ok kind := by
  simp [Stores, OrderedMap.mem_keys_iff, kindOf_eq_ok_iff]

instance (b : Builder) : DecidablePred b.IsPoint := fun id =>
  decidable_of_iff ((b.elements.get? id).map Element.kind = some .point)
    (Option.map_eq_some_iff.trans kindOf_eq_ok_iff.symm)

theorem IsPoint.stores (h : b.IsPoint id) : b.Stores id := stores_iff_kindOf.mpr ⟨.point, h⟩

theorem kindOf_congr (h : b.elements.get? id = c.elements.get? id) : b.kindOf id = c.kindOf id := by
  rw [kindOf, kindOf, h]

theorem stores_congr (h : b.elements.get? id = c.elements.get? id) : b.Stores id ↔ c.Stores id := by
  rw [stores_iff_kindOf, stores_iff_kindOf, kindOf_congr h]

theorem get?_add (b : Builder) (label : Option Text) {make : Handle → Element}
    (hid : ∀ id, (make id).id = id) (id : Handle) : (b.add label make).2.elements.get? id =
      if b.next = id then some (make b.next) else b.elements.get? id := by
  change (b.elements.insert (make b.next).id (make b.next)).get? id = _
  rw [hid, OrderedMap.get?_insert]

theorem kindOf_movePoint (b : Builder) (id : Handle) (position : Point Float) :
    (b.movePoint id position).kindOf id = .ok .point :=
  kindOf_eq_ok_iff.mpr ⟨.point id position, by simp [movePoint, OrderedMap.get?_insert], rfl⟩

theorem get?_movePoint_of_ne {other : Handle} (h : id ≠ other) (position : Point Float) :
    (b.movePoint id position).elements.get? other = b.elements.get? other := by
  rw [movePoint, OrderedMap.get?_insert, if_neg h]

theorem Moves.mono {allowed wider : Builder → Handle → Prop}
    (hwider : ∀ b id, allowed b id → wider b id) (h : b.Moves allowed calls) :
    b.Moves wider calls := by
  induction calls generalizing b with
  | nil => trivial
  | cons call rest ih => exact ⟨fun id hid => hwider b id (h.1 id hid), ih h.2⟩

theorem moves_iff_before {allowed : Builder → Handle → Prop} :
    b.Moves allowed calls ↔ ∀ before call, before ++ [call] <+: calls →
      ∀ id ∈ call.target, allowed (b.after before) id := by
  constructor
  · rintro h before call ⟨later, rfl⟩
    rw [moves_append, moves_append] at h
    exact h.1.2.1
  · intro h
    induction calls generalizing b with
    | nil => trivial
    | cons call rest ih =>
        refine ⟨h [] call (List.prefix_append [call] rest), ih fun before later hwithin => ?_⟩
        exact h (call :: before) later (List.cons_prefix_cons.mpr ⟨rfl, hwithin⟩)

-- A call leaves the kinds of all handles below the next one, but for one that it removes.
theorem kindOf_perform (hmoves : ∀ id ∈ call.target, b.IsPoint id) (hid : id < b.next)
    (hstored : (b.perform call).2.Stores id) : (b.perform call).2.kindOf id = b.kindOf id := by
  have heffect := effect_perform b call
  generalize (b.perform call).1 = answer, (b.perform call).2 = next at heffect hstored ⊢
  cases heffect with
  | added label make hmake hadds =>
      refine kindOf_congr ?_
      rw [get?_add b label hmake, if_neg (Int.ne_of_gt hid)]
  | @moved target position hread =>
      by_cases htarget : target = id
      · subst htarget
        have hpoint : b.IsPoint target := hmoves target (Call.target_of_read hread)
        rw [kindOf_movePoint, hpoint]
      · exact kindOf_congr (get?_movePoint_of_ne htarget position)
  | @removed target hread =>
      have hget := OrderedMap.get?_erase b.elements target id
      split at hget
      · rw [Stores, OrderedMap.mem_keys_iff] at hstored
        obtain ⟨e, he⟩ := hstored
        cases hget.symm.trans he
      · exact kindOf_congr hget
  | refused error => exact kindOf_congr (by rw [elements_reserve])

-- So do any calls after which the handle is there: one that has been removed never is.
theorem kindOf_after (hmoves : b.Moves IsPoint calls) (hid : id < b.next)
    (hstored : (b.after calls).Stores id) : (b.after calls).kindOf id = b.kindOf id := by
  induction calls generalizing b with
  | nil => rfl
  | cons call rest ih =>
      have hnext := Int.lt_of_lt_of_le hid (next_le_perform b call)
      have hlater := ih hmoves.2 hnext hstored
      have hkept : (b.perform call).2.Stores id := by
        rw [stores_iff_kindOf] at hstored ⊢
        rwa [← hlater]
      exact hlater.trans (kindOf_perform hmoves.1 hid hkept)

-- What is there after a call and was not before has just been added.
theorem stores_of_perform (hmoves : ∀ id ∈ call.target, b.IsPoint id) (hnew : ¬ b.Stores id)
    (hstored : (b.perform call).2.Stores id) :
    call.adds = true ∧ (b.perform call).1 = .ok (some id) := by
  have heffect := effect_perform b call
  generalize (b.perform call).1 = answer, (b.perform call).2 = next at heffect hstored ⊢
  cases heffect with
  | added label make hmake hadds =>
      have hget := get?_add b label hmake id
      split at hget
      · subst id
        exact ⟨hadds, rfl⟩
      · exact absurd ((stores_congr hget).mp hstored) hnew
  | @moved target position hread =>
      have hne : target ≠ id := by
        rintro rfl
        exact hnew (hmoves target (Call.target_of_read hread)).stores
      exact absurd ((stores_congr (get?_movePoint_of_ne hne position)).mp hstored) hnew
  | @removed target hread =>
      rw [Stores, remove, OrderedMap.keys_erase] at hstored
      exact absurd (List.mem_filter.mp hstored).1 hnew
  | refused error => exact absurd ((stores_congr (by rw [elements_reserve])).mp hstored) hnew

-- While a handle is stored its kind stays; one that is gone does not come back; and only calls
-- that add elements make more handles stand.
structure Stable (start : Builder) (calls : List Call) : Prop where
  kinds : ∀ before later, before <+: later → later <+: calls → ∀ id,
    (start.after before).Stores id → (start.after later).Stores id →
      (start.after later).kindOf id = (start.after before).kindOf id
  removed : ∀ before later last, before <+: later → later <+: last → last <+: calls → ∀ id,
    (start.after before).Stores id → ¬ (start.after later).Stores id →
      ¬ (start.after last).Stores id
  added : ∀ before call, before ++ [call] <+: calls → ∀ id,
    ¬ (start.after before).Stores id → (start.after (before ++ [call])).Stores id →
      call.adds = true ∧ ((start.after before).perform call).1 = .ok (some id)

-- The kind is the same from any time on at which the handle has once been stored.
theorem kindOf_of_earlier (hstart : Starts start first) (hmoves : start.Moves IsPoint calls)
    {earlier before later : List Call} (hearlier : earlier <+: before) (hlater : before <+: later)
    (hcalls : later <+: calls) (hid : (start.after earlier).Stores id)
    (hstored : (start.after later).Stores id) :
    (start.after later).kindOf id = (start.after before).kindOf id := by
  obtain ⟨more, rfl⟩ := hlater
  obtain ⟨rest, rfl⟩ := hcalls
  rw [moves_append, moves_append] at hmoves
  have hbefore : start.Moves Stores before := hmoves.1.1.mono fun b id => IsPoint.stores
  rw [after_append] at hstored ⊢
  exact kindOf_after hmoves.1.2 (lt_next_of_stored hstart.kept.1 hbefore hearlier hid) hstored

theorem stable_of_moves (hstart : Starts start first) (hmoves : start.Moves IsPoint calls) :
    Stable start calls where
  kinds := fun before later hlater hcalls id =>
    kindOf_of_earlier hstart hmoves List.prefix_rfl hlater hcalls
  removed := by
    intro before later last hlater hlast hcalls id hid hgone hstored
    have hkind := kindOf_of_earlier hstart hmoves hlater hlast hcalls hid hstored
    rw [stores_iff_kindOf] at hgone hstored
    rw [hkind] at hstored
    exact hgone hstored
  added := by
    intro before call hwithin id hnew hstored
    rw [after_append] at hstored
    exact stores_of_perform (moves_iff_before.mp hmoves before call hwithin) hnew hstored

-- A point that is put where none stands changes a kind, or is there without having been added.
theorem Stable.moves (h : Stable start calls) : start.Moves IsPoint calls := by
  rw [moves_iff_before]
  intro before call hwithin id htarget
  obtain ⟨position, hread⟩ := Call.read_of_target htarget
  have hpoint : (start.after (before ++ [call])).IsPoint id := by
    rw [after_append, after_singleton, perform_of_read hread]
    exact kindOf_movePoint _ id position
  by_cases hstored : (start.after before).Stores id
  · have hkind := h.kinds before _ (List.prefix_append before [call]) hwithin id hstored
      hpoint.stores
    exact hkind.symm.trans hpoint
  · have hadds := (h.added before call hwithin id hstored hpoint.stores).1
    rw [Call.adds_of_read hread] at hadds
    cases hadds

-- That is so just if each point that is moved is there, as a point, when it is moved.
theorem stable_iff (hstart : Starts start first) :
    Stable start calls ↔ start.Moves IsPoint calls :=
  ⟨Stable.moves, stable_of_moves hstart⟩

-- Points are moved, also one that was taken over, a line is removed, and another takes a handle of
-- its own.
theorem stable_iff_hinge :
    let s : Sketch := ⟨[.point 4 ⟨0, 0⟩, .point (-7) ⟨1, 0⟩, .line 2 4 (-7)], .empty⟩
    let calls : List Call := [.movePoint (-7) (.integer 3) (.integer 0),
      .addPoint (.integer 1) (.integer 2) (some "tip"), .plain (.remove 2),
      .movePoint 5 (.integer 0) (.double 0.5), .plain (.addLine 4 5 none)]
    Starts (.ofSketch s) [4, -7, 2] ∧ (Stable (.ofSketch s) calls ↔
      (ofSketch s).Moves IsPoint calls) ∧ Stable (.ofSketch s) calls := by
  intro s calls
  have hstable : Stable (.ofSketch s) calls ↔ (ofSketch s).Moves IsPoint calls :=
    stable_iff (.snapshot s)
  exact ⟨.snapshot s, hstable, hstable.mpr (by decide +kernel)⟩

-- A line is moved as if it were a point and becomes one. A point that has been removed is moved and
-- is there again. One that never was is moved, and is lost to the line that is given its handle.
theorem kind_not_stable :
    let point : Call := .addPoint (.double 0) (.double 0) none
    let move (id : Handle) : Call := .movePoint id (.double 5) (.double 5)
    let line : Call := .plain (.addLine 0 1 none)
    (¬ Stable empty [point, point, line, move 2] ∧
      (empty.after [point, point, line]).kindOf 2 = .ok .line ∧
      (empty.after [point, point, line, move 2]).kindOf 2 = .ok .point) ∧
    (¬ Stable empty [point, .plain (.remove 0), move 0] ∧
      (empty.after [point]).Stores 0 ∧ ¬ (empty.after [point, .plain (.remove 0)]).Stores 0 ∧
      (empty.after [point, .plain (.remove 0), move 0]).Stores 0) ∧
    ¬ Stable empty [move 1] ∧ (empty.after [move 1]).Stores 1 ∧
      (empty.after [move 1, point]).kindOf 1 = .ok .point ∧
      (empty.after [move 1, point, line]).kindOf 1 = .ok .line := by
  intro point move line
  have hmoved (calls : List Call) (h : ¬ empty.Moves IsPoint calls) : ¬ Stable empty calls :=
    fun hstable => h hstable.moves
  refine ⟨⟨hmoved _ (by decide +kernel), rfl, rfl⟩,
    ⟨hmoved _ (by decide +kernel), by decide +kernel, by decide +kernel, by decide +kernel⟩,
    hmoved _ (by decide +kernel), by decide +kernel, rfl, rfl⟩

end PlaneSketch.Builder

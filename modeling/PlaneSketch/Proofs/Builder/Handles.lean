import Mathlib.Data.List.Induction
import PlaneSketch.Proofs.Builder.Effect

namespace PlaneSketch.Builder

variable {b start : Builder} {call : Call} {calls : List Call} {first : List Handle}

-- A handle under which an element stands.
def Stores (b : Builder) (id : Handle) : Prop := id ∈ b.elements.keys

instance (b : Builder) : DecidablePred b.Stores :=
  fun id => inferInstanceAs (Decidable (id ∈ b.elements.keys))

-- The builder after some calls.
def after (b : Builder) (calls : List Call) : Builder :=
  calls.foldl (fun b call => (b.perform call).2) b

-- The handles that some calls answer, in order.
def given (b : Builder) : List Call → List Handle
  | [] => []
  | call :: rest => (b.perform call).1.toOption.join.toList ++ given (b.perform call).2 rest

-- Whenever one of some calls puts a point under a handle, the handle is allowed at that time.
def Moves (allowed : Builder → Handle → Prop) (b : Builder) : List Call → Prop
  | [] => True
  | call :: rest => (∀ id ∈ call.target, allowed b id) ∧ Moves allowed (b.perform call).2 rest

instance decidableMoves (allowed : Builder → Handle → Prop) [∀ b, DecidablePred (allowed b)] :
    ∀ (b : Builder) (calls : List Call), Decidable (b.Moves allowed calls)
  | _, [] => inferInstanceAs (Decidable True)
  | b, call :: rest =>
      have := decidableMoves allowed (b.perform call).2 rest
      inferInstanceAs (Decidable ((∀ id ∈ call.target, allowed b id) ∧ _))

-- A builder at its beginning, with the handles of the elements it takes over, as they come.
inductive Starts : Builder → List Handle → Prop
  | empty : Starts .empty []
  | snapshot (s : Sketch) : Starts (.ofSketch s) (s.elements.map Element.id)

theorem after_append (b : Builder) (calls more : List Call) :
    b.after (calls ++ more) = (b.after calls).after more := List.foldl_append

@[simp] theorem after_singleton (b : Builder) (call : Call) :
    b.after [call] = (b.perform call).2 := rfl

theorem given_append (b : Builder) (calls more : List Call) :
    b.given (calls ++ more) = b.given calls ++ (b.after calls).given more := by
  induction calls generalizing b with
  | nil => rfl
  | cons call rest ih =>
      rw [List.cons_append, given, given, ih, List.append_assoc]
      rfl

theorem moves_append {allowed : Builder → Handle → Prop} {more : List Call} :
    b.Moves allowed (calls ++ more) ↔
      b.Moves allowed calls ∧ (b.after calls).Moves allowed more := by
  induction calls generalizing b with
  | nil => exact (iff_of_eq (true_and _)).symm
  | cons call rest ih =>
      rw [List.cons_append, Moves, Moves, ih, and_assoc]
      rfl

-- Every element stands under its own handle, each handle once, and the next handle is above all.
structure WellKept (b : Builder) : Prop where
  own : ∀ entry ∈ b.elements.entries, entry.2.id = entry.1
  below : ∀ id, b.Stores id → id < b.next
  distinct : b.elements.keys.Nodup

namespace WellKept

theorem ids_build (h : b.WellKept) : b.build.elements.map Element.id = b.elements.keys := by
  rw [build, OrderedMap.values, List.map_map, OrderedMap.keys]
  exact List.map_congr_left h.own

theorem get?_eq_some (h : b.WellKept) {id : Handle} {e : Element} :
    b.elements.get? id = some e ↔ (id, e) ∈ b.elements.entries :=
  OrderedMap.get?_eq_some_iff_mem h.distinct

theorem mem_build (h : b.WellKept) {e : Element} :
    e ∈ b.build.elements ↔ b.elements.get? e.id = some e := by
  rw [h.get?_eq_some]
  constructor
  · intro hmem
    obtain ⟨entry, hentry, rfl⟩ := List.mem_map.mp hmem
    rwa [h.own entry hentry]
  · exact fun hmem => List.mem_map_of_mem hmem

theorem next_not_stored (h : b.WellKept) : b.next ∉ b.elements.keys :=
  fun hmem => Int.lt_irrefl b.next (h.below b.next hmem)

theorem entries_add (h : b.WellKept) (label : Option Text) {make : Handle → Element}
    (hid : ∀ id, (make id).id = id) : (b.add label make).2.elements.entries =
      b.elements.entries ++ [(b.next, make b.next)] := by
  change (b.elements.insert (make b.next).id (make b.next)).entries = _
  rw [hid, OrderedMap.entries_insert h.next_not_stored]

theorem keys_add (h : b.WellKept) (label : Option Text) {make : Handle → Element}
    (hid : ∀ id, (make id).id = id) :
    (b.add label make).2.elements.keys = b.elements.keys ++ [b.next] := by
  rw [OrderedMap.keys, h.entries_add label hid, List.map_append]
  rfl

theorem entries_movePoint (h : b.WellKept) {id : Handle} (hid : b.Stores id)
    (position : Point Float) : (b.movePoint id position).elements.entries =
      b.elements.entries.map fun entry =>
        if entry.1 = id then (id, .point id position) else entry :=
  OrderedMap.entries_insert_of_mem h.distinct hid _

theorem keys_movePoint (h : b.WellKept) {id : Handle} (hid : b.Stores id)
    (position : Point Float) : (b.movePoint id position).elements.keys = b.elements.keys :=
  OrderedMap.keys_insert_of_mem h.distinct hid _

-- An element can be put under its own handle if the next one is above it.
theorem insert (h : b.WellKept) (e : Element) (labels : OrderedMap Handle Text) {next : Handle}
    (hnext : b.next ≤ next) (hid : e.id < next) :
    (⟨b.elements.insert e.id e, labels, next⟩ : Builder).WellKept where
  own := OrderedMap.forall_mem_insert rfl h.own
  below := by
    refine List.forall_mem_map.mpr (OrderedMap.forall_mem_insert hid fun entry hentry => ?_)
    exact Int.lt_of_lt_of_le (h.below _ (List.mem_map_of_mem hentry)) hnext
  distinct := OrderedMap.nodup_keys_insert h.distinct e.id e

theorem add (h : b.WellKept) (label : Option Text) {make : Handle → Element}
    (hid : ∀ id, (make id).id = id) : (b.add label make).2.WellKept := by
  refine h.insert (make b.next) _ (Int.le_of_lt (Int.lt_succ _)) ?_
  rw [hid]
  exact Int.lt_succ _

theorem movePoint (h : b.WellKept) {id : Handle} (hid : b.Stores id) (position : Point Float) :
    (b.movePoint id position).WellKept :=
  h.insert (.point id position) b.labels (Int.le_refl _) (h.below id hid)

theorem adopt (h : b.WellKept) (e : Element) : (b.adopt e).WellKept :=
  h.insert e b.labels (Int.le_max_left ..)
    (Int.lt_of_lt_of_le (Int.lt_succ _) (Int.le_max_right ..))

theorem remove (h : b.WellKept) (id : Handle) : (b.remove id).WellKept where
  own := fun entry hentry => h.own entry (List.mem_filter.mp hentry).1
  below := fun other hstored => by
    rw [Stores, Builder.remove, OrderedMap.keys_erase] at hstored
    exact h.below other (List.mem_filter.mp hstored).1
  distinct := by
    rw [Builder.remove, OrderedMap.keys_erase]
    exact h.distinct.filter _

theorem keys_adopt (h : b.WellKept) (e : Element) : (b.adopt e).elements.keys =
    if e.id ∈ b.elements.keys then b.elements.keys else b.elements.keys ++ [e.id] := by
  split
  · exact OrderedMap.keys_insert_of_mem h.distinct ‹_› e
  · exact OrderedMap.keys_insert ‹_› e

theorem allocate (h : b.WellKept) (label : Option Text) : (b.allocate label).2.WellKept where
  own := h.own
  below := fun id hstored => Int.lt_trans (h.below id hstored) (Int.lt_succ _)
  distinct := h.distinct

theorem reserve (h : b.WellKept) (call : Call) : (b.reserve call).WellKept := by
  unfold Builder.reserve
  split
  · exact h.allocate _
  · exact h

-- No call disturbs the order, so long as points are only moved where something stands.
theorem perform (h : b.WellKept) (hmoves : ∀ id ∈ call.target, b.Stores id) :
    (b.perform call).2.WellKept := by
  have heffect := effect_perform b call
  generalize b.perform call = result at heffect ⊢
  obtain ⟨answer, next⟩ := result
  cases heffect with
  | added label make hid hadds => exact h.add label hid
  | moved hread => exact h.movePoint (hmoves _ (Call.target_of_read hread)) _
  | removed hread => exact h.remove _
  | refused error => exact h.reserve call

end WellKept

theorem wellKept_empty : empty.WellKept where
  own := by simp [empty, OrderedMap.empty]
  below := by simp [Stores, empty, OrderedMap.keys, OrderedMap.empty]
  distinct := .nil

-- What is taken over stands in the order in which the handles first come.
theorem kept_ofSketch (s : Sketch) :
    (ofSketch s).WellKept ∧
      (ofSketch s).elements.keys = (s.elements.map Element.id).eraseDups := by
  have hadopted (elements : List Element) :
      (elements.foldl adopt empty).WellKept ∧
        (elements.foldl adopt empty).elements.keys = (elements.map Element.id).eraseDups := by
    induction elements using List.reverseRecOn with
    | nil => exact ⟨wellKept_empty, rfl⟩
    | append_singleton elements e ih =>
        obtain ⟨h, hkeys⟩ := ih
        have hadopt := h.keys_adopt e
        simp only [hkeys, List.mem_eraseDups] at hadopt
        rw [List.foldl_append, List.map_append, List.map_singleton,
          Handle.eraseDups_concat]
        exact ⟨h.adopt e, hadopt⟩
  obtain ⟨h, hkeys⟩ := hadopted s.elements
  exact ⟨⟨h.own, h.below, h.distinct⟩, hkeys⟩

theorem Starts.kept (h : Starts start first) :
    start.WellKept ∧ start.elements.keys = first.eraseDups := by
  cases h with
  | empty => exact ⟨wellKept_empty, rfl⟩
  | snapshot s => exact kept_ofSketch s

theorem WellKept.after (h : b.WellKept) (hmoves : b.Moves Stores calls) :
    (b.after calls).WellKept := by
  induction calls generalizing b with
  | nil => exact h
  | cons call rest ih => exact ih (h.perform hmoves.1) hmoves.2

-- A handle that is answered is the next one.
theorem eq_next_of_answer {id : Handle} (h : (b.perform call).1 = .ok (some id)) :
    id = b.next ∧ (b.perform call).2.next = b.next + 1 := by
  obtain ⟨label, make, hid, hnext, hadds, hperform⟩ := eq_add_of_answer h
  rw [hperform]
  exact ⟨hnext, rfl⟩

theorem next_le_reserve (b : Builder) (call : Call) : b.next ≤ (b.reserve call).next := by
  unfold reserve
  split
  · exact Int.le_of_lt (Int.lt_succ _)
  · exact Int.le_refl _

theorem next_le_perform (b : Builder) (call : Call) : b.next ≤ (b.perform call).2.next := by
  have heffect := effect_perform b call
  generalize b.perform call = result at heffect ⊢
  obtain ⟨answer, next⟩ := result
  cases heffect with
  | added => exact Int.le_of_lt (Int.lt_succ _)
  | moved => exact Int.le_refl _
  | removed => exact Int.le_refl _
  | refused => exact next_le_reserve b call

theorem next_le_after (b : Builder) (calls : List Call) : b.next ≤ (b.after calls).next := by
  induction calls generalizing b with
  | nil => exact Int.le_refl _
  | cons call rest ih => exact Int.le_trans (next_le_perform b call) (ih _)

theorem mem_given_cons {rest : List Call} {id : Handle} :
    id ∈ b.given (call :: rest) ↔
      (b.perform call).1 = .ok (some id) ∨ id ∈ (b.perform call).2.given rest := by
  rw [given, List.mem_append]
  refine or_congr_left ?_
  rcases (b.perform call).1 with error | _ | other
  · simp [Except.toOption]
  · simp [Except.toOption]
  · simp [Except.toOption, eq_comm]

theorem lt_next_of_given {id : Handle} (h : id ∈ b.given calls) : id < (b.after calls).next := by
  induction calls generalizing b with
  | nil => cases h
  | cons call rest ih =>
      rcases mem_given_cons.mp h with h | h
      · obtain ⟨rfl, hnext⟩ := eq_next_of_answer h
        refine Int.lt_of_lt_of_le ?_ (next_le_after (b.perform call).2 rest)
        rw [hnext]
        exact Int.lt_succ _
      · exact ih h

-- What comes later is above whatever stood or was answered earlier.
theorem lt_next_of_stored (h : b.WellKept) (hmoves : b.Moves Stores calls) {earlier : List Call}
    (hearlier : earlier <+: calls) {id : Handle} (hstored : (b.after earlier).Stores id) :
    id < (b.after calls).next := by
  obtain ⟨later, rfl⟩ := hearlier
  rw [moves_append] at hmoves
  rw [after_append]
  exact Int.lt_of_lt_of_le ((h.after hmoves.1).below id hstored) (next_le_after _ later)

theorem elements_reserve (b : Builder) (call : Call) : (b.reserve call).elements = b.elements := by
  unfold reserve
  split <;> rfl

theorem build_of_error {error : CallError} (h : (b.perform call).1 = .error error) :
    (b.perform call).2.build.elements = b.build.elements := by
  rw [eq_reserve_of_error h]
  exact congrArg OrderedMap.values (elements_reserve b call)

namespace WellKept

theorem build_add (h : b.WellKept) (label : Option Text) {make : Handle → Element}
    (hid : ∀ id, (make id).id = id) :
    (b.add label make).2.build.elements = b.build.elements ++ [make b.next] := by
  rw [build, OrderedMap.values, h.entries_add label hid, List.map_append]
  rfl

theorem build_movePoint (h : b.WellKept) {id : Handle} (hid : b.Stores id)
    (position : Point Float) : (b.movePoint id position).build.elements =
      b.build.elements.map fun e => if e.id = id then .point id position else e := by
  rw [build, OrderedMap.values, h.entries_movePoint hid, build, OrderedMap.values, List.map_map,
    List.map_map]
  refine List.map_congr_left fun entry hentry => ?_
  simp only [Function.comp_apply, h.own entry hentry]
  split <;> rfl

theorem build_remove (h : b.WellKept) (id : Handle) :
    (b.remove id).build.elements = b.build.elements.filter fun e => e.id ≠ id := by
  rw [build, OrderedMap.values, Builder.remove, OrderedMap.erase, build, OrderedMap.values,
    List.filter_map]
  refine congrArg _ (List.filter_congr fun entry hentry => ?_)
  rw [Function.comp_apply, h.own entry hentry]

end WellKept

theorem Starts.lt_next (h : Starts start first) {id : Handle}
    (hid : id ∈ first ++ start.given calls) : id < (start.after calls).next := by
  obtain ⟨hkept, hkeys⟩ := h.kept
  rcases List.mem_append.mp hid with hfirst | hgiven
  · have hstored : start.Stores id := by
      rwa [Stores, hkeys, List.mem_eraseDups]
    exact Int.lt_of_lt_of_le (hkept.below id hstored) (next_le_after start calls)
  · exact lt_next_of_given hgiven

-- What stands is in the order in which the handles first came, along the calls. A new handle comes
-- last in both; what is removed leaves the rest in place.
theorem Starts.keys_sublist (h : Starts start first) (hmoves : start.Moves Stores calls) :
    (start.after calls).elements.keys.Sublist (first ++ start.given calls).eraseDups := by
  induction calls using List.reverseRecOn with
  | nil =>
      rw [given, List.append_nil]
      exact h.kept.2 ▸ List.Sublist.refl _
  | append_singleton calls call ih =>
      rw [moves_append] at hmoves
      have hkept := h.kept.1.after hmoves.1
      have hlater := ih hmoves.1
      have hnew : (start.after calls).next ∉ first ++ start.given calls :=
        fun hmem => Int.lt_irrefl _ (h.lt_next hmem)
      have hallowed := hmoves.2.1
      rw [after_append, after_singleton, given_append, ← List.append_assoc, given, given,
        List.append_nil]
      generalize start.after calls = b at hkept hlater hnew hallowed ⊢
      have heffect := effect_perform b call
      generalize (b.perform call).1 = answer, (b.perform call).2 = next at heffect ⊢
      cases heffect with
      | added label make hid hadds =>
          change (b.add label make).2.elements.keys.Sublist (_ ++ [b.next]).eraseDups
          rw [hkept.keys_add label hid, Handle.eraseDups_concat, if_neg hnew]
          exact hlater.append (List.Sublist.refl _)
      | @moved id position hread =>
          change (b.movePoint id position).elements.keys.Sublist (_ ++ []).eraseDups
          rwa [hkept.keys_movePoint (hallowed _ (Call.target_of_read hread)), List.append_nil]
      | @removed id hread =>
          change (b.elements.erase id).keys.Sublist (_ ++ []).eraseDups
          rw [OrderedMap.keys_erase, List.append_nil]
          exact List.filter_sublist.trans hlater
      | refused error =>
          change (b.reserve call).elements.keys.Sublist (_ ++ []).eraseDups
          rwa [elements_reserve, List.append_nil]

-- What a call does to the elements in their order, by what it answers.
structure Confined (b : Builder) (call : Call) : Prop where
  added : ∀ id, (b.perform call).1 = .ok (some id) →
    ∃ e, e.id = id ∧ (b.perform call).2.build.elements = b.build.elements ++ [e]
  moved : ∀ id position, call.read = .ok (.movePoint id position) →
    (b.perform call).1 = .ok none ∧ (b.perform call).2.build.elements =
      b.build.elements.map fun e => if e.id = id then .point id position else e
  removed : ∀ id, call.read = .ok (.remove id) →
    (b.perform call).1 = .ok none ∧
      (b.perform call).2.build.elements = b.build.elements.filter fun e => e.id ≠ id
  refused : ∀ error, (b.perform call).1 = .error error →
    (b.perform call).2.build.elements = b.build.elements

theorem WellKept.confined (h : b.WellKept) (hmoves : ∀ id ∈ call.target, b.Stores id) :
    b.Confined call where
  added id hanswer := by
    obtain ⟨label, make, hid, rfl, hadds, hperform⟩ := eq_add_of_answer hanswer
    rw [hperform]
    exact ⟨make b.next, hid _, h.build_add label hid⟩
  moved id position hread := by
    rw [perform_of_read hread]
    exact ⟨rfl, h.build_movePoint (hmoves id (Call.target_of_read hread)) position⟩
  removed id hread := by
    rw [perform_of_read hread]
    exact ⟨rfl, h.build_remove id⟩
  refused error := build_of_error

-- Calls that add answer a handle unless they are refused, the others never do.
theorem isSome_answer {answer : Option Handle} (h : (b.perform call).1 = .ok answer) :
    answer.isSome = call.adds := by
  cases answer with
  | some id =>
      obtain ⟨-, -, -, -, hadds, -⟩ := eq_add_of_answer h
      exact hadds.symm
  | none => exact (adds_of_no_answer h).symm

-- What holds of a builder after some calls, given where it started.
structure Keeps (start : Builder) (first : List Handle) (calls : List Call) : Prop where
  -- Every element stands under its own handle, below the next one, and is listed once.
  own : ∀ id e, (start.after calls).elements.get? id = some e → e.id = id
  below : ∀ id, (start.after calls).Stores id → id < (start.after calls).next
  listed : ∀ e, e ∈ (start.after calls).build.elements ↔
    (start.after calls).elements.get? e.id = some e
  distinct : ((start.after calls).build.elements.map Element.id).Nodup
  -- The order is that in which the handles first came.
  order : ((start.after calls).build.elements.map Element.id).Sublist
    (first ++ start.given calls).eraseDups
  -- What is answered next is above all that stood or was answered before.
  fresh : ∀ call id, ((start.after calls).perform call).1 = .ok (some id) →
    (∀ earlier, earlier <+: calls → ∀ other, (start.after earlier).Stores other → other < id) ∧
      ∀ other ∈ start.given calls, other < id
  -- A call answers a handle just if it adds an element, and touches no other element.
  answers : ∀ call answer, ((start.after calls).perform call).1 = .ok answer →
    answer.isSome = call.adds
  confined : ∀ call, (∀ id ∈ call.target, (start.after calls).Stores id) →
    (start.after calls).Confined call

theorem keeps_handles (hstart : start.Starts first) (hmoves : start.Moves Stores calls) :
    Keeps start first calls := by
  have hkept := hstart.kept.1.after hmoves
  exact {
    own := fun id e hget => hkept.own (id, e) (hkept.get?_eq_some.mp hget)
    below := hkept.below
    listed := fun e => hkept.mem_build
    distinct := hkept.ids_build ▸ hkept.distinct
    order := hkept.ids_build ▸ hstart.keys_sublist hmoves
    fresh := fun call id hanswer => by
      obtain ⟨rfl, -⟩ := eq_next_of_answer hanswer
      refine ⟨fun earlier hearlier other hstored => ?_, fun other hgiven => lt_next_of_given hgiven⟩
      exact lt_next_of_stored hstart.kept.1 hmoves hearlier hstored
    answers := fun call answer => isSome_answer
    confined := fun call hmoves => hkept.confined hmoves }

-- Two points taken over, one of them given twice, and calls of every kind: a refused one that takes
-- a handle, a line, a point removed, one moved and one added.
theorem keeps_handles_sparse :
    let s : Sketch := ⟨[.point 4 ⟨0, 0⟩, .point (-7) ⟨1, 0⟩, .point 4 ⟨2, 0⟩], .empty⟩
    let calls : List Call := [.addPoint (.integer (Int.pow 10 400)) (.integer 0) none,
      .plain (.addLine 4 (-7) none), .plain (.remove 4), .movePoint (-7) (.integer 5) (.integer 5),
      .addPoint (.integer 1) (.integer 2) (some "tip")]
    Starts (.ofSketch s) [4, -7, 4] ∧ (ofSketch s).Moves Stores calls ∧
      Keeps (.ofSketch s) [4, -7, 4] calls ∧ (ofSketch s).given calls = [6, 7] ∧
      ((ofSketch s).after calls).build.elements.map Element.id = [-7, 6, 7] := by
  intro s calls
  have hstart : Starts (.ofSketch s) [4, -7, 4] := .snapshot s
  have hmoves : (ofSketch s).Moves Stores calls := by decide +kernel
  exact ⟨hstart, hmoves, keeps_handles hstart hmoves, by decide +kernel, by decide +kernel⟩

end PlaneSketch.Builder

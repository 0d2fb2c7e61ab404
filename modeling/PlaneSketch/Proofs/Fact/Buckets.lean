import PlaneSketch.Fact.Indexed
import PlaneSketch.Proofs.Fact.Handles
import PlaneSketch.Proofs.OrderedMap

namespace PlaneSketch

variable {α : Type}

namespace Fact.Pattern

-- The part that a name stands for, with what is wanted of it.
def named (kind : Kind) (wanted : Text × Option (Part α)) : Option (Field × Option (Part α)) :=
  (kind.field? wanted.1).map fun field => (field, wanted.2)

-- A pattern is made where every name is that of a part.
theorem ofNames_eq_ok_iff {kind : Kind} {wanted : List (Text × Option (Part α))}
    {pattern : Pattern α} : ofNames kind wanted = .ok pattern ↔
      (∀ w ∈ wanted, w.1 ≠ Text.ofString kindName ∧ ∃ field, kind.field? w.1 = some field) ∧
        pattern = ⟨kind, wanted.filterMap (named kind)⟩ := by
  rw [ofNames]
  split
  · rename_i hagain
    obtain ⟨w, hw, hname⟩ := List.any_eq_true.mp hagain
    simp only [decide_eq_true_eq] at hname
    exact ⟨nofun, fun h => absurd hname (h.1 w hw).1⟩
  · rename_i hagain
    have hother (w) (hw : w ∈ wanted) : w.1 ≠ Text.ofString kindName := fun hname =>
      hagain (List.any_eq_true.mpr ⟨w, hw, decide_eq_true hname⟩)
    split
    · rename_i hknown
      have hfield (w) (hw : w ∈ wanted) : ∃ field, kind.field? w.1 = some field := by
        have hsome := List.filter_eq_nil_iff.mp hknown w.1 (List.mem_map_of_mem hw)
        simpa [Option.eq_none_iff_forall_ne_some] using hsome
      rw [and_iff_right fun w hw => ⟨hother w hw, hfield w hw⟩, Except.ok.injEq, eq_comm]
      rfl
    · rename_i hunknown
      refine ⟨nofun, fun h => absurd (List.filter_eq_nil_iff.mpr ?_) hunknown⟩
      intro name hname
      obtain ⟨w, hw, rfl⟩ := List.mem_map.mp hname
      obtain ⟨field, hfield⟩ := (h.1 w hw).2
      simp [hfield]

-- Names that make a pattern also do so when some of them are left out.
theorem ofNames_of_subset {kind : Kind} {fewer more : List (Text × Option (Part α))}
    {pattern : Pattern α} (h : fewer ⊆ more) (hmore : ofNames kind more = .ok pattern) :
    ofNames kind fewer = .ok ⟨kind, fewer.filterMap (named kind)⟩ :=
  ofNames_eq_ok_iff.mpr ⟨fun w hw => (ofNames_eq_ok_iff.mp hmore).1 w (h hw), rfl⟩

section

variable [Scalar α]

-- A part that is asked for with any value may as well be left out.
theorem accepts_insert_any (kind : Kind) (before after : List (Field × Option (Part α)))
    (field : Field) : (⟨kind, before ++ (field, none) :: after⟩ : Pattern α).accepts =
      (⟨kind, before ++ after⟩ : Pattern α).accepts := by
  funext bound fact
  simp [accepts, meets]

-- Whoever asks for more is answered with less.
theorem accepts_of_subset {kind : Kind} {fewer more : List (Field × Option (Part α))}
    (h : fewer ⊆ more) {bound : α} {fact : Fact α}
    (haccepts : (⟨kind, more⟩ : Pattern α).accepts bound fact = true) :
    (⟨kind, fewer⟩ : Pattern α).accepts bound fact = true := by
  simp only [accepts, Bool.and_eq_true, List.all_eq_true] at haccepts ⊢
  exact ⟨haccepts.1, fun wanted hwanted => haccepts.2 wanted (h hwanted)⟩

end

end Fact.Pattern

namespace IndexedStore

variable {s : IndexedStore α}

-- The buckets hold the facts once more, each kind in the order in which its facts were learned.
structure Coherent (s : IndexedStore α) : Prop where
  bucket : ∀ kind, s.bucket kind = s.facts.filter fun fact => fact.kind == kind
  sizes : (s.buckets.values.map List.length).sum = s.size

theorem coherent_empty (epsilon : α) : (empty epsilon).Coherent := by
  have hnone : ∀ entry ∈ (empty epsilon).buckets.entries, entry.2 = [] :=
    OrderedMap.forall_mem_ofList fun entry hentry => by
      obtain ⟨kind, -, rfl⟩ := List.mem_map.mp hentry
      rfl
  constructor
  · intro kind
    rw [bucket, OrderedMap.get?]
    cases hfind : (empty epsilon).buckets.entries.find? fun entry => entry.1 = kind with
    | none => rfl
    | some entry => exact hnone entry (List.mem_of_find?_eq_some hfind)
  · refine List.sum_eq_zero_iff_forall_eq_nat.mpr fun length hlength => ?_
    obtain ⟨facts, hfacts, rfl⟩ := List.mem_map.mp hlength
    obtain ⟨entry, hentry, rfl⟩ := List.mem_map.mp hfacts
    rw [hnone entry hentry, List.length_nil]

theorem bucket_learn (s : IndexedStore α) (fact : Fact α) (kind : Fact.Kind) :
    (s.learn fact).bucket kind = s.bucket kind ++ if fact.kind = kind then [fact] else [] := by
  rw [bucket, learn, OrderedMap.get?_insert]
  by_cases hkind : fact.kind = kind
  · simp [hkind]
  · simp [hkind, bucket]

theorem sum_sizes_learn (s : IndexedStore α) (fact : Fact α) :
    ((s.learn fact).buckets.values.map List.length).sum =
      (s.buckets.values.map List.length).sum + 1 := by
  have hsum := OrderedMap.sum_values_insert List.length s.buckets fact.kind
    (s.bucket fact.kind ++ [fact])
  have hold : ((s.buckets.get? fact.kind).map List.length).getD 0 =
      (s.bucket fact.kind).length := by
    rw [bucket]
    cases s.buckets.get? fact.kind <;> rfl
  have hlearn : (s.learn fact).buckets =
      s.buckets.insert fact.kind (s.bucket fact.kind ++ [fact]) := rfl
  rw [hold, List.length_append, List.length_singleton] at hsum
  rw [hlearn]
  omega

theorem Coherent.learn (h : s.Coherent) (fact : Fact α) : (s.learn fact).Coherent where
  bucket kind := by
    have hfacts : (s.learn fact).facts = s.facts ++ [fact] := rfl
    rw [bucket_learn, h.bucket, hfacts, List.filter_append]
    by_cases hkind : fact.kind = kind <;> simp [hkind]
  sizes := by
    rw [sum_sizes_learn, h.sizes, size, size, IndexedStore.learn, List.length_append,
      List.length_singleton]

variable [Scalar α]

-- A fact only repeats facts of its own kind, so its bucket decides whether it is new.
theorem Coherent.knows_eq (h : s.Coherent) (fact : Fact α) :
    s.knows fact = s.toStore.knows fact := by
  rw [knows, h.bucket, List.any_filter, Store.knows]
  refine congrArg s.facts.any (funext fun known => ?_)
  cases hsame : known.sameAs s.epsilon fact with
  | false => simp [toStore, hsame]
  | true => simp [toStore, hsame, Fact.kind_eq_of_sameAs hsame]

theorem Coherent.add_fst (h : s.Coherent) (fact : Fact α) :
    (s.add fact).1 = s.toStore.isNew fact := by
  rw [Store.isNew, ← h.knows_eq, IndexedStore.add]
  cases s.knows fact <;> rfl

theorem Coherent.toStore_add (h : s.Coherent) (fact : Fact α) :
    (s.add fact).2.toStore = s.toStore.add fact := by
  rw [Store.add, ← h.knows_eq, IndexedStore.add]
  cases s.knows fact <;> rfl

theorem Coherent.add (h : s.Coherent) (fact : Fact α) : (s.add fact).2.Coherent := by
  rw [IndexedStore.add]
  cases s.knows fact with
  | true => exact h
  | false => exact h.learn fact

theorem Coherent.addAll (h : s.Coherent) (calls : List (Fact α)) :
    (s.addAll calls).Coherent ∧ (s.addAll calls).toStore = s.toStore.addAll calls := by
  induction calls generalizing s with
  | nil => exact ⟨h, rfl⟩
  | cons fact rest ih =>
      obtain ⟨hcoherent, hstore⟩ := ih (h.add fact)
      exact ⟨hcoherent, hstore.trans (by rw [h.toStore_add, Store.addAll_cons])⟩

theorem Coherent.answer_matching (h : s.Coherent) (pattern : Fact.Pattern α) :
    s.answer (.matching pattern) = s.facts.filter fun fact =>
      fact.kind == pattern.kind && pattern.accepts s.epsilon fact := by
  rw [answer, h.bucket, List.filter_filter]
  exact List.filter_congr fun _ _ => Bool.and_comm _ _

-- Every question is answered as if all facts were gone through one after the other.
structure Scanned (s : IndexedStore α) : Prop where
  ofKind : ∀ kind, s.answer (.ofKind kind) = s.facts.filter fun fact => fact.kind == kind
  matching : ∀ pattern, s.answer (.matching pattern) =
    s.facts.filter fun fact => fact.kind == pattern.kind && pattern.accepts s.epsilon fact
  omitted : ∀ kind before field after,
    s.answer (.matching ⟨kind, before ++ (field, none) :: after⟩) =
      s.answer (.matching ⟨kind, before ++ after⟩)
  narrowed : ∀ kind fewer more, fewer ⊆ more →
    (s.answer (.matching ⟨kind, more⟩)).Sublist (s.answer (.matching ⟨kind, fewer⟩))
  -- The same where patterns are made from names.
  omittedName : ∀ kind before name after pattern,
    Fact.Pattern.ofNames kind (before ++ (name, none) :: after) = .ok pattern →
      ∃ shorter, Fact.Pattern.ofNames kind (before ++ after) = .ok shorter ∧
        s.answer (.matching pattern) = s.answer (.matching shorter)
  narrowedName : ∀ kind fewer more pattern, fewer ⊆ more →
    Fact.Pattern.ofNames kind more = .ok pattern →
      ∃ wider, Fact.Pattern.ofNames kind fewer = .ok wider ∧
        (s.answer (.matching pattern)).Sublist (s.answer (.matching wider))
  first : ∀ query, s.first? query = (s.answer query).head?
  size : s.size = s.facts.length
  sizes : s.size = (s.buckets.values.map List.length).sum

theorem answer_insert_any (s : IndexedStore α) (kind : Fact.Kind)
    (before after : List (Fact.Field × Option (Fact.Part α))) (field : Fact.Field) :
    s.answer (.matching ⟨kind, before ++ (field, none) :: after⟩) =
      s.answer (.matching ⟨kind, before ++ after⟩) := by
  rw [answer, answer, Fact.Pattern.accepts_insert_any]

theorem answer_sublist (s : IndexedStore α) (kind : Fact.Kind)
    {fewer more : List (Fact.Field × Option (Fact.Part α))} (h : fewer ⊆ more) :
    (s.answer (.matching ⟨kind, more⟩)).Sublist (s.answer (.matching ⟨kind, fewer⟩)) :=
  List.monotone_filter_right _ fun _ => Fact.Pattern.accepts_of_subset h

theorem Coherent.scanned (h : s.Coherent) : s.Scanned where
  ofKind := h.bucket
  matching := h.answer_matching
  omitted kind before field after := s.answer_insert_any kind before after field
  narrowed kind fewer more := s.answer_sublist kind
  omittedName kind before name after pattern hpattern := by
    obtain ⟨hnames, rfl⟩ := Fact.Pattern.ofNames_eq_ok_iff.mp hpattern
    obtain ⟨field, hfield⟩ := (hnames (name, none) (by simp)).2
    refine ⟨_, Fact.Pattern.ofNames_of_subset (by simp) hpattern, ?_⟩
    rw [List.filterMap_append, List.filterMap_append, List.filterMap_cons, Fact.Pattern.named,
      hfield]
    exact s.answer_insert_any kind _ _ field
  narrowedName kind fewer more pattern hsubset hpattern := by
    obtain ⟨-, rfl⟩ := Fact.Pattern.ofNames_eq_ok_iff.mp hpattern
    refine ⟨_, Fact.Pattern.ofNames_of_subset hsubset hpattern, s.answer_sublist kind ?_⟩
    exact List.filterMap_subset _ hsubset
  first query := by
    rw [first?]
    cases s.answer query <;> rfl
  size := rfl
  sizes := h.sizes.symm

-- Whatever was added to a store in whatever order, its buckets are of no consequence: it holds the
-- facts that a store without buckets would hold, and answers as one that goes through all of them.
theorem addAll_scanned (epsilon : α) (calls : List (Fact α)) :
    ((empty epsilon).addAll calls).toStore = (Store.empty epsilon).addAll calls ∧
      ((empty epsilon).addAll calls).Scanned ∧
      ∀ fact, (((empty epsilon).addAll calls).add fact).1 =
        ((Store.empty epsilon).addAll calls).isNew fact := by
  obtain ⟨h, hstore⟩ := (coherent_empty epsilon).addAll calls
  exact ⟨hstore, h.scanned, fun fact => (h.add_fst fact).trans (congrArg (·.isNew fact) hstore)⟩

end IndexedStore

end PlaneSketch

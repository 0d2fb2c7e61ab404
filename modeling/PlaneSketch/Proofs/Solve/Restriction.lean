import PlaneSketch.Proofs.Fact.Selection
import PlaneSketch.Proofs.Solve.Conclusion

namespace PlaneSketch

variable {α : Type}

-- A fact that is about points of one side only.
def Fact.within (side : Handle → Bool) (fact : Fact α) : Bool := fact.handles.all side

theorem Fact.within_eq_false {side : Handle → Bool} {fact : Fact α} (hne : fact.handles ≠ [])
    (h : fact.within (fun p => !side p) = true) : fact.within side = false := by
  obtain ⟨p, hp⟩ := List.exists_mem_of_ne_nil _ hne
  have hother : side p = false := by simpa using List.all_eq_true.mp h p hp
  refine Bool.eq_false_iff.mpr fun hw => ?_
  simp [List.all_eq_true.mp hw p hp] at hother

namespace Store

-- What a store knows about the points of one side.
def restrict (s : Store α) (side : Handle → Bool) : Store α :=
  { s with facts := s.facts.filter (Fact.within side) }

-- Every fact is about points of one side, and none is about no points at all.
def Separated (side : Handle → Bool) (s : Store α) : Prop :=
  ∀ fact ∈ s.facts, fact.handles ≠ [] ∧
    (fact.within side = true ∨ fact.within (fun p => !side p) = true)

variable {side : Handle → Bool} {s : Store α} {fact : Fact α}

theorem mem_restrict : fact ∈ (s.restrict side).facts ↔ fact ∈ s.facts ∧ fact.within side = true :=
  List.mem_filter

theorem Separated.flip (h : Separated side s) : Separated (fun p => !side p) s := by
  intro fact hmem
  obtain ⟨hne, hwithin⟩ := h fact hmem
  refine ⟨hne, ?_⟩
  simpa only [Bool.not_not] using hwithin.symm

-- A point of one side decides for all the facts that mention it.
theorem Separated.within_of_mem (h : Separated side s) (hfact : fact ∈ s.facts) {p : Handle}
    (hp : p ∈ fact.handles) (hside : side p = true) : fact.within side = true := by
  rcases (h fact hfact).2 with hw | hw
  · exact hw
  · have hother := List.all_eq_true.mp hw p hp
    simp [hside] at hother

theorem Separated.not_within (h : Separated side s) (hfact : fact ∈ s.facts) :
    fact.within (fun p => !side p) = !fact.within side := by
  obtain ⟨hne, hw | hw⟩ := h fact hfact
  · rw [hw, Fact.within_eq_false hne (by simpa only [Bool.not_not] using hw)]
    rfl
  · rw [hw, Fact.within_eq_false hne hw]
    rfl

theorem Separated.size_eq (h : Separated side s) :
    s.size = (s.restrict side).size + (s.restrict fun p => !side p).size := by
  have hother : s.facts.filter (Fact.within fun p => !side p) =
      s.facts.filter (fun fact => !fact.within side) :=
    List.filter_congr fun fact hfact => h.not_within hfact
  simp only [size, restrict, hother]
  exact List.length_eq_length_filter_add (Fact.within side)

theorem Separated.agreeOn_restrict (h : Separated side s) {p : Handle} (hp : side p = true) :
    s.AgreeOn (s.restrict side) p := by
  refine agreeOn_of_filter_eq (Fact.within side) ?_ ?_ ?_
  · simp [restrict]
  · exact fun fact hmem hmention _ => h.within_of_mem hmem hmention hp
  · exact fun fact hmem _ _ => (mem_restrict.mp hmem).2

theorem Separated.agreeOnCurves_restrict (h : Separated side s) {p : Handle}
    (hp : side p = true) : s.AgreeOnCurves (s.restrict side) p := by
  refine agreeOnCurves_of_filter_eq (Fact.within side) ?_ ?_ ?_
  · simp [restrict]
  · exact fun fact hmem hmention _ => h.within_of_mem hmem hmention hp
  · exact fun fact hmem _ _ => (mem_restrict.mp hmem).2

theorem position?_restrict_eq_none {p : Handle} (hp : side p = false) :
    (s.restrict side).position? p = none := by
  refine Option.eq_none_iff_forall_not_mem.mpr fun q hq => ?_
  have hside := (mem_restrict.mp (mem_of_position? hq)).2
  simp [Fact.within, Fact.handles, hp] at hside

theorem Separated.position?_eq (h : Separated side s) (p : Handle) :
    s.position? p = ((s.restrict side).position? p).or
      ((s.restrict fun p => !side p).position? p) := by
  cases hp : side p with
  | true =>
      have hother : (s.restrict fun p => !side p).position? p = none :=
        position?_restrict_eq_none (by simp [hp])
      rw [(h.agreeOn_restrict hp).position, hother, Option.or_none]
  | false =>
      rw [(h.flip.agreeOn_restrict (by simp [hp])).position, position?_restrict_eq_none hp,
        Option.none_or]

variable [Scalar α]

-- A repetition is about the same points, so the other side has no say in what is new.
theorem restrict_addAll (s : Store α) (facts : List (Fact α)) :
    (s.addAll facts).restrict side =
      (s.restrict side).addAll (facts.filter (Fact.within side)) :=
  select_addAll (fun hsame => by rw [Fact.within, Fact.within, Fact.handles_eq_of_sameAs hsame]) s
    facts

end Store

namespace Solve

open Store (Separated)

variable [Scalar α]

-- Two contexts with the same options that know the same about the points of one side.
structure Context.AgreeOn (side : Handle → Bool) (ctx ctx' : Context α) : Prop where
  ruler : ctx.ruler = ctx'.ruler
  options : ctx.options = ctx'.options
  initial : ∀ p, side p = true → ctx.initial.get? p = ctx'.initial.get? p

variable {side : Handle → Bool} {ctx ctx' : Context α} {s : Store α} {fact : Fact α}

omit [Scalar α] in
theorem Context.AgreeOn.refl (ctx : Context α) : ctx.AgreeOn side ctx := ⟨rfl, rfl, fun _ _ => rfl⟩

theorem Concludes.handles_ne_nil (h : Concludes ctx s fact) : fact.handles ≠ [] := by
  cases h <;> simp [Fact.handles]

theorem conclusions_restrict (hctx : ctx.AgreeOn side ctx') (hs : Separated side s)
    (hfact : fact.within side = true) (rule : Rule) :
    rule.conclusions ctx s fact = rule.conclusions ctx' (s.restrict side) fact := by
  have hside : ∀ p ∈ fact.handles, side p = true := List.all_eq_true.mp hfact
  cases hrule : rule.intersects with
  | false =>
      exact Rule.conclusions_congr_of_derives hrule hctx.options
        fun p hp => hs.agreeOn_restrict (hside p hp)
  | true =>
      exact Rule.conclusions_congr_of_intersects hrule hctx.ruler hctx.options
        (fun p hp => hctx.initial p (hside p hp))
        (fun p hp => hs.agreeOnCurves_restrict (hside p hp))

-- From a fact of one side only facts of that side follow.
theorem within_of_mem_conclusions (hs : Separated side s) (hmem : fact ∈ s.facts)
    (hfact : fact.within side = true) {rule : Rule} {conclusion : Fact α}
    (h : conclusion ∈ rule.conclusions ctx s fact) : conclusion.within side = true := by
  rw [conclusions_restrict (.refl ctx) hs hfact rule] at h
  have hconcludes := concludes_of_mem (Store.mem_restrict.mpr ⟨hmem, hfact⟩) h
  refine List.all_eq_true.mpr fun p hp => ?_
  obtain ⟨known, hknown, hp⟩ := hconcludes.exists_mem_handles hp
  exact List.all_eq_true.mp (Store.mem_restrict.mp hknown).2 p hp

theorem Step.separated {t : Store α} (h : Step ctx s t) (hs : Separated side s) :
    Separated side t := by
  obtain ⟨rule, s, fact, hfact, -⟩ := h
  intro known hknown
  rcases Store.mem_addAll hknown with hknown | hknown
  · exact hs known hknown
  · refine ⟨(concludes_of_mem hfact hknown).handles_ne_nil, ?_⟩
    rcases (hs fact hfact).2 with hw | hw
    · exact .inl (within_of_mem_conclusions hs hfact hw hknown)
    · exact .inr (within_of_mem_conclusions hs.flip hfact hw hknown)

theorem Steps.separated {t : Store α} (h : Steps ctx s t) (hs : Separated side s) :
    Separated side t := by
  induction h with
  | refl => exact hs
  | tail _ hstep ih => exact hstep.separated ih

-- One step seen from one side: a step of that side, or nothing.
theorem restrict_addAll_conclusions (hctx : ctx.AgreeOn side ctx') (hs : Separated side s)
    (hmem : fact ∈ s.facts) (rule : Rule) :
    (s.addAll (rule.conclusions ctx s fact)).restrict side =
      if fact.within side = true then
        (s.restrict side).addAll (rule.conclusions ctx' (s.restrict side) fact)
      else s.restrict side := by
  rw [Store.restrict_addAll]
  split
  · rename_i hfact
    rw [List.filter_eq_self.mpr fun known h => within_of_mem_conclusions hs hmem hfact h,
      conclusions_restrict hctx hs hfact rule]
  · rename_i hfact
    have hother := (hs fact hmem).2.resolve_left hfact
    rw [List.filter_eq_nil_iff.mpr, Store.addAll_nil]
    intro known h
    simp [Fact.within_eq_false (concludes_of_mem hmem h).handles_ne_nil
      (within_of_mem_conclusions hs.flip hmem hother h)]

-- The facts still to be looked at thin out to those of the side; the store stays separated and
-- keeps all of them.
theorem restrict_foldl_conclusions (hctx : ctx.AgreeOn side ctx') (rule : Rule)
    (facts : List (Fact α)) (s : Store α) (hs : Separated side s)
    (hmem : ∀ fact ∈ facts, fact ∈ s.facts ∧ fact.kind = rule.trigger) :
    (facts.foldl (fun s fact => s.addAll (rule.conclusions ctx s fact)) s).restrict side =
      (facts.filter (Fact.within side)).foldl
        (fun s fact => s.addAll (rule.conclusions ctx' s fact)) (s.restrict side) := by
  induction facts generalizing s with
  | nil => rfl
  | cons fact rest ih =>
      obtain ⟨hfact, hkind⟩ := hmem fact List.mem_cons_self
      have hstep : Step ctx s (s.addAll (rule.conclusions ctx s fact)) :=
        .learn rule s fact hfact hkind
      have hrest : ∀ known ∈ rest, known ∈ (s.addAll (rule.conclusions ctx s fact)).facts ∧
          known.kind = rule.trigger := by
        intro known hknown
        obtain ⟨hk, hkind⟩ := hmem known (List.mem_cons_of_mem _ hknown)
        exact ⟨hstep.grows.mem hk, hkind⟩
      rw [List.foldl_cons, ih _ (hstep.separated hs) hrest,
        restrict_addAll_conclusions hctx hs hfact rule]
      cases hw : fact.within side with
      | true => rw [List.filter_cons_of_pos hw, List.foldl_cons, if_pos rfl]
      | false => rw [List.filter_cons_of_neg (by simp [hw]), if_neg (by simp)]

theorem restrict_run (hctx : ctx.AgreeOn side ctx') (hs : Separated side s) (rule : Rule) :
    (rule.run ctx s).restrict side = rule.run ctx' (s.restrict side) := by
  have hkind : (s.ofKind rule.trigger).filter (Fact.within side) =
      (s.restrict side).ofKind rule.trigger := by
    simp only [Store.ofKind, Store.restrict, List.filter_filter]
    exact List.filter_congr fun fact _ => Bool.and_comm _ _
  rw [Rule.run, restrict_foldl_conclusions hctx rule _ s hs fun _ h => Store.mem_ofKind.mp h, hkind,
    Rule.run]

theorem restrict_foldl_run (hctx : ctx.AgreeOn side ctx') (rules : List Rule) (s : Store α)
    (hs : Separated side s) :
    (rules.foldl (fun s rule => rule.run ctx s) s).restrict side =
      rules.foldl (fun s rule => rule.run ctx' s) (s.restrict side) := by
  induction rules generalizing s with
  | nil => rfl
  | cons rule rest ih =>
      rw [List.foldl_cons, List.foldl_cons, ih _ ((rule.steps_run ctx s).separated hs),
        restrict_run hctx hs rule]

theorem restrict_pass (hctx : ctx.AgreeOn side ctx') (hs : Separated side s) :
    (pass ctx s).restrict side = pass ctx' (s.restrict side) :=
  restrict_foldl_run hctx Rule.all s hs

-- The whole is complete exactly when both sides are.
theorem pass_eq_self_iff_restrict {ctx₁ ctx₂ : Context α} (h₁ : ctx.AgreeOn side ctx₁)
    (h₂ : ctx.AgreeOn (fun p => !side p) ctx₂) (hs : Separated side s) :
    pass ctx s = s ↔ pass ctx₁ (s.restrict side) = s.restrict side ∧
      pass ctx₂ (s.restrict fun p => !side p) = s.restrict fun p => !side p := by
  rw [← restrict_pass h₁ hs, ← restrict_pass h₂ hs.flip]
  constructor
  · intro h
    rw [h]
    exact ⟨rfl, rfl⟩
  · rintro ⟨hone, htwo⟩
    refine (grows_pass ctx s).eq_of_size ?_
    rw [((steps_pass ctx s).separated hs).size_eq, hone, htwo, hs.size_eq]

end Solve

end PlaneSketch

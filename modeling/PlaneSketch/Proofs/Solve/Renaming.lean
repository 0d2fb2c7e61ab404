import PlaneSketch.Proofs.Fact.Renaming
import PlaneSketch.Proofs.Solve.Conclusion

namespace PlaneSketch.Solve

open Store (Renamed)

variable {α : Type} [Scalar α]

-- The same ruler and options, and the same initial positions under the other handles.
structure Context.Renamed (f : Handle → Handle) (points : Set Handle) (ctx ctx' : Context α) :
    Prop where
  ruler : ctx'.ruler = ctx.ruler
  options : ctx'.options = ctx.options
  initial : ∀ p ∈ points, ctx'.initial.get? (f p) = ctx.initial.get? p

variable {f : Handle → Handle} {points : Set Handle} {ctx ctx' : Context α} {s t : Store α}
  {fact : Fact α}

section

variable (hf : Set.InjOn f points) (hctx : ctx.Renamed f points ctx')

include hf hctx

-- Rules ask for nothing but what is known about the points of a fact.
theorem conclusions_rename (h : s.Renamed f points t) (hfact : fact.About points) (rule : Rule) :
    rule.conclusions ctx' t (fact.rename f) =
      (rule.conclusions ctx s fact).map (Fact.rename f) := by
  cases rule with
  | axisLinesAndCircles =>
      cases fact with
      | fixed p position =>
          have hp : p ∈ points := hfact p (.head _)
          simp only [Rule.conclusions, Fact.rename, Rule.axisLinesAndCirclesFrom, hctx.options,
            h.verticalsFrom_eq hf hp, h.horizontalsFrom_eq hf hp, h.distancesFrom_eq hf hp,
            List.map_append, List.map_map]
          rfl
      | _ => rfl
  | linesWithCircles =>
      cases fact with
      | onLine p a b =>
          have hp : p ∈ points := hfact p (.head _)
          simp only [Rule.conclusions, Fact.rename, Rule.linesWithCirclesFrom, hctx.ruler,
            hctx.initial p hp, h.circlesOf_eq hf hp, List.map_filterMap, Option.map_map]
          rfl
      | _ => rfl
  | circles =>
      cases fact with
      | onCircle p center radius =>
          have hp : p ∈ points := hfact p (.head _)
          simp only [Rule.conclusions, Fact.rename, Rule.circlesFrom, hctx.ruler, hctx.options,
            hctx.initial p hp, h.circlesOf_eq hf hp, List.map_filterMap]
          refine List.filterMap_congr fun other _ => ?_
          split
          · rfl
          · rw [Option.map_map]
            rfl
      | _ => rfl
  | lines =>
      cases fact with
      | onLine p a b =>
          have hp : p ∈ points := hfact p (.head _)
          simp only [Rule.conclusions, Fact.rename, Rule.linesFrom, h.linesOf_eq hf hp,
            List.map_filterMap, Option.map_map]
          rfl
      | _ => rfl
  | offsetLines =>
      cases fact with
      | lineDistance p start stop value =>
          have hstart : start ∈ points := hfact start (.tail _ (.head _))
          have hstop : stop ∈ points := hfact stop (.tail _ (.tail _ (.head _)))
          simp only [Rule.conclusions, Fact.rename, Rule.offsetLinesFrom, hctx.options,
            h.position?_eq hf hstart, h.position?_eq hf hstop]
          split
          · split <;> rfl
          · rfl
      | _ => rfl
  | collinearLines =>
      cases fact with
      | collinear group =>
          have hpositions : (group.map f).filterMap t.position? = group.filterMap s.position? := by
            rw [List.filterMap_map]
            exact List.filterMap_congr fun p hp => h.position?_eq hf (hfact p hp)
          simp only [Rule.conclusions, Fact.rename, Rule.collinearLinesFrom, Rule.anchors,
            hctx.options, hpositions]
          split
          · simp only [List.map_map]
            rfl
          · rfl
      | _ => rfl
  | bisectorLines =>
      cases fact with
      | equidistant center p q =>
          have hp : p ∈ points := hfact p (.tail _ (.head _))
          have hq : q ∈ points := hfact q (.tail _ (.tail _ (.head _)))
          simp only [Rule.conclusions, Fact.rename, Rule.bisectorLinesFrom, hctx.options,
            h.position?_eq hf hp, h.position?_eq hf hq]
          split
          · split <;> rfl
          · rfl
      | _ => rfl
  | equalRadii =>
      cases fact with
      | equidistant center p q =>
          have hcenter : center ∈ points := hfact center (.head _)
          have hp : p ∈ points := hfact p (.tail _ (.head _))
          have hq : q ∈ points := hfact q (.tail _ (.tail _ (.head _)))
          simp only [Rule.conclusions, Fact.rename, Rule.equalRadiiFrom,
            h.knownDistance?_eq hf hcenter hp, h.knownDistance?_eq hf hcenter hq]
          split <;> rfl
      | _ => rfl

-- What is concluded is about the same points, so it is added alike.
theorem renamed_addAll_conclusions (h : s.Renamed f points t) (hfact : fact ∈ s.facts)
    (rule : Rule) :
    (s.addAll (rule.conclusions ctx s fact)).Renamed f points
      (t.addAll (rule.conclusions ctx' t (fact.rename f))) := by
  refine h.addAll hf (fun conclusion hconclusion p hp => ?_) fun kind => ?_
  · obtain ⟨known, hknown, hp⟩ := (concludes_of_mem hfact hconclusion).exists_mem_handles hp
    exact h.about known hknown p hp
  · rw [conclusions_rename hf hctx h (h.about fact hfact), Store.filter_rename]

theorem renamed_run (h : s.Renamed f points t) (rule : Rule) :
    (rule.run ctx s).Renamed f points (rule.run ctx' t) := by
  have hfold : ∀ (facts : List (Fact α)) {s t : Store α}, s.Renamed f points t →
      (∀ fact ∈ facts, fact ∈ s.facts) →
      (facts.foldl (fun s fact => s.addAll (rule.conclusions ctx s fact)) s).Renamed f points
        ((facts.map (Fact.rename f)).foldl
          (fun s fact => s.addAll (rule.conclusions ctx' s fact)) t) := by
    intro facts
    induction facts with
    | nil => exact fun h _ => h
    | cons fact rest ih =>
        intro s t h hmem
        rw [List.forall_mem_cons] at hmem
        refine ih (renamed_addAll_conclusions hf hctx h hmem.1 rule) fun known hknown => ?_
        exact (s.grows_addAll _).mem (hmem.2 known hknown)
  rw [Rule.run, Rule.run, h.ofKind]
  exact hfold _ h fun fact hfact => (Store.mem_ofKind.mp hfact).1

theorem renamed_pass (h : s.Renamed f points t) : (pass ctx s).Renamed f points (pass ctx' t) := by
  unfold pass
  induction Rule.all generalizing s t with
  | nil => exact h
  | cons rule rest ih => exact ih (renamed_run hf hctx h rule)

theorem pass_eq_self_iff_renamed (h : s.Renamed f points t) :
    pass ctx' t = t ↔ pass ctx s = s := by
  have hpass := (renamed_pass hf hctx h).size_eq
  constructor
  · intro hstable
    rw [hstable, h.size_eq] at hpass
    exact (grows_pass ctx s).eq_of_size hpass.symm
  · intro hstable
    rw [hstable, ← h.size_eq] at hpass
    exact (grows_pass ctx' t).eq_of_size hpass

end

end PlaneSketch.Solve

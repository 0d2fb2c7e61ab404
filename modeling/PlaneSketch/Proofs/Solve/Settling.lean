import PlaneSketch.Proofs.Fact.Premises
import PlaneSketch.Proofs.Solve.Conclusion

namespace PlaneSketch.Solve

variable {α : Type} [Scalar α] {ctx : Context α} {s : Store α}

-- All lines and circles that follow from what is known are there.
def Settled (ctx : Context α) (s : Store α) : Prop :=
  ∀ rule : Rule, rule.intersects = false → rule.run ctx s = s

namespace Rule

omit [Scalar α] in
theorem isCurve_of_derives {rule : Rule} (hrule : rule.intersects = false) {fact : Fact α}
    (hfact : fact.kind = rule.trigger) : fact.isCurve = false := by
  cases fact <;> cases rule <;> simp_all [intersects, trigger, Fact.kind, Fact.isCurve]

theorem isCurve_of_mem_conclusions {rule : Rule} (hrule : rule.intersects = true)
    {fact conclusion : Fact α} (h : conclusion ∈ rule.conclusions ctx s fact) :
    conclusion.isCurve = false := by
  have hkind := kind_mem_targets h
  rw [Fact.isCurve_eq]
  cases rule <;> simp_all [intersects, targets]

-- Of the other rules, only one concludes something that is not a curve.
theorem isCurve_of_mem_conclusions_of_derives {rule : Rule} (hrule : rule.intersects = false)
    (hradii : rule ≠ .equalRadii) {fact conclusion : Fact α}
    (h : conclusion ∈ rule.conclusions ctx s fact) : conclusion.isCurve = true := by
  have hkind := kind_mem_targets h
  rw [Fact.isCurve_eq]
  cases rule <;> simp_all [intersects, targets]

end Rule

-- Without a new premise, each rule that derives curves has been run on all there is to run it on,
-- with the conclusions it would draw at the end.
theorem settled_pass (hself : ∀ fact ∈ (pass ctx s).facts, fact.sameAs s.epsilon fact = true)
    (h : (pass ctx s).premises = s.premises) : Settled ctx (pass ctx s) := by
  intro rule hrule
  obtain ⟨t, hst, hrun⟩ := Store.exists_turn (fun s rule => Rule.grows_run rule ctx s)
    (show rule ∈ Rule.all by cases rule <;> decide) s
  change (rule.run ctx t).Grows (pass ctx s) at hrun
  rw [Rule.run_eq_self_iff]
  intro fact hfact hkind conclusion hconclusion
  have hpremise : fact ∈ t.facts := by
    have hmem := Store.mem_premises.mpr ⟨hfact, Rule.isCurve_of_derives hrule hkind⟩
    rw [h, ← hst.premises_eq ((rule.grows_run ctx t).trans hrun) h] at hmem
    exact (Store.mem_premises.mp hmem).1
  obtain ⟨u, htu, hturn⟩ := Store.exists_turn
    (fun s fact => s.grows_addAll (rule.conclusions ctx s fact))
    (Store.mem_ofKind.mpr ⟨hpremise, hkind⟩) t
  have hafter : (u.addAll (rule.conclusions ctx u fact)).Grows (pass ctx s) := hturn.trans hrun
  have hu : u.premises = (pass ctx s).premises := by
    rw [h]
    exact (hst.trans htu).premises_eq ((u.grows_addAll _).trans hafter) h
  rw [← Rule.conclusions_congr_of_derives hrule rfl fun p _ =>
    Store.agreeOn_of_premises_eq hu p] at hconclusion
  refine hafter.knows (Store.knows_addAll hconclusion fun known hknown => ?_)
  rw [(hst.trans htu).epsilon]
  exact hself known (hafter.mem hknown)

-- Once all curves are there, a pass that brings no new premise brings nothing.
theorem pass_eq_self_of_settled (hs : Settled ctx s) (h : (pass ctx s).premises = s.premises) :
    pass ctx s = s := by
  refine Store.foldl_eq_self_of_premises (fun s rule => Rule.grows_run rule ctx s) ?_ h
  intro rule _ hpremises
  cases hrule : rule.intersects with
  | false => exact hs rule hrule
  | true =>
      refine Store.foldl_eq_self_of_premises
        (fun s fact => s.grows_addAll (rule.conclusions ctx s fact)) ?_ hpremises
      exact fun fact _ => Store.addAll_eq_self_of_premises
        fun conclusion hconclusion => Rule.isCurve_of_mem_conclusions hrule hconclusion

end PlaneSketch.Solve

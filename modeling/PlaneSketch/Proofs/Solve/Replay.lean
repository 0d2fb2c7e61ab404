import PlaneSketch.Proofs.Solve.Conclusion
import PlaneSketch.Proofs.Solve.Nearest

namespace PlaneSketch

variable {α : Type}

namespace Store

variable {s first final : Store α}

-- Two folds agree if their steps do, as long as the first of them stays on the way from one store
-- to another.
theorem foldl_eq_of_grows {β : Type} {step step' : Store α → β → Store α}
    (hstep : ∀ s b, Grows s (step s b))
    (hsame : ∀ s b, first.Grows s → (step s b).Grows final → step' s b = step s b) (bs : List β)
    (s : Store α) (hfirst : first.Grows s) (h : (bs.foldl step s).Grows final) :
    bs.foldl step' s = bs.foldl step s := by
  induction bs generalizing s with
  | nil => rfl
  | cons b rest ih =>
      have hb : step' s b = step s b :=
        hsame s b hfirst ((grows_foldl hstep rest (step s b)).trans h)
      rw [List.foldl_cons, List.foldl_cons, hb]
      exact ih (step s b) (hfirst.trans (hstep s b)) h

variable [Scalar α]

-- Once a point has a position, further ones are dropped.
theorem addAll_fixed_of_isSome {β : Type} {p : Handle} (h : (s.position? p).isSome)
    (pick : β → Option (Point α)) (xs : List β) :
    s.addAll (xs.filterMap fun x => (pick x).map (.fixed p)) = s := by
  refine addAll_eq_self_iff.mpr fun fact hfact => ?_
  obtain ⟨x, -, hx⟩ := List.mem_filterMap.mp hfact
  obtain ⟨q, -, rfl⟩ := Option.map_eq_some_iff.mp hx
  rw [knows_fixed, h]

-- Of several positions for a point only the first counts. Another way to pick them gives the same,
-- if it picks from the same and repeats the pick that counted.
theorem addAll_fixed_congr {β : Type} {p : Handle} {pick pick' : β → Option (Point α)}
    (hnone : ∀ x, pick x = none → pick' x = none) (hsome : ∀ x q, pick x = some q →
      final.position? p = some q → pick' x = some q)
    (xs : List β) (s : Store α)
    (h : (s.addAll (xs.filterMap fun x => (pick x).map (.fixed p))).Grows final) :
    s.addAll (xs.filterMap fun x => (pick' x).map (.fixed p)) =
      s.addAll (xs.filterMap fun x => (pick x).map (.fixed p)) := by
  by_cases hs : (s.position? p).isSome
  · rw [addAll_fixed_of_isSome hs, addAll_fixed_of_isSome hs]
  induction xs with
  | nil => rfl
  | cons x rest ih =>
      cases hx : pick x with
      | none =>
          simp only [List.filterMap_cons, hx, hnone x hx, Option.map_none] at h ⊢
          exact ih h
      | some q =>
          have hfound := position?_add_fixed (Option.not_isSome_iff_eq_none.mp hs) q
          simp only [List.filterMap_cons, hx, Option.map_some, addAll_cons] at h ⊢
          have hfinal := ((grows_addAll _ _).trans h).position? hfound
          simp only [hsome x q hx hfinal, Option.map_some, addAll_cons]
          rw [addAll_fixed_of_isSome (by simp [hfound]), addAll_fixed_of_isSome (by simp [hfound])]

end Store

namespace Solve

variable [Scalar α] {ctx ctx' : Context α} {s first final : Store α}

-- A context in which every choice that led to the position of a point is made again.
structure Context.Confirms (ctx ctx' : Context α) (final : Store α) : Prop where
  options : ctx'.options = ctx.options
  line : ∀ (p : Handle) (q : Point α) (line : Line α) (circle : Circle α),
    final.position? p = some q →
    ctx.ruler.nearest (line.meetCircle circle) (ctx.initial.get? p) = some q →
    ctx'.ruler.nearest (line.meetCircle circle) (ctx'.initial.get? p) = some q
  circle : ∀ (p : Handle) (q : Point α) (circle other : Circle α),
    final.position? p = some q →
    ctx.ruler.nearest (circle.meetCircle other) (ctx.initial.get? p) = some q →
    ctx'.ruler.nearest (circle.meetCircle other) (ctx'.initial.get? p) = some q

theorem circlesFrom_eq (ctx : Context α) (s : Store α) (p : Handle) (circle : Circle α) :
    Rule.circlesFrom ctx s p circle = (s.circlesOf p).filterMap fun other =>
      (if circle.center.dist other.center ≤ ctx.options.epsilon then none
        else ctx.ruler.nearest (circle.meetCircle other) (ctx.initial.get? p)).map (.fixed p) := by
  refine List.filterMap_congr fun other _ => ?_
  split <;> rfl

theorem addAll_linesWithCircles_eq (h : ctx.Confirms ctx' final) (s : Store α) (fact : Fact α)
    (hfinal : (s.addAll (Rule.linesWithCircles.conclusions ctx s fact)).Grows final) :
    s.addAll (Rule.linesWithCircles.conclusions ctx' s fact) =
      s.addAll (Rule.linesWithCircles.conclusions ctx s fact) := by
  cases fact with
  | onLine p a b =>
      refine Store.addAll_fixed_congr (fun circle hnone => ?_)
        (fun circle q hsome hq => h.line p q ⟨a, b⟩ circle hq hsome) _ s hfinal
      rw [Ruler.nearest_eq_none_iff] at hnone ⊢
      exact hnone
  | _ => rfl

theorem addAll_circlesFrom_eq (h : ctx.Confirms ctx' final) (s : Store α) (p : Handle)
    (circle : Circle α) (hfinal : (s.addAll (Rule.circlesFrom ctx s p circle)).Grows final) :
    s.addAll (Rule.circlesFrom ctx' s p circle) = s.addAll (Rule.circlesFrom ctx s p circle) := by
  rw [circlesFrom_eq] at hfinal ⊢
  rw [circlesFrom_eq, h.options]
  refine Store.addAll_fixed_congr (fun other hnone => ?_) (fun other q hsome hq => ?_) _ s hfinal
  · by_cases hnear : circle.center.dist other.center ≤ ctx.options.epsilon
    · exact if_pos hnear
    · rw [if_neg hnear, Ruler.nearest_eq_none_iff] at hnone ⊢
      exact hnone
  · by_cases hnear : circle.center.dist other.center ≤ ctx.options.epsilon
    · simp [hnear] at hsome
    · rw [if_neg hnear] at hsome ⊢
      exact h.circle p q circle other hq hsome

-- The rules that derive curves do not choose, and two lines meet in one point at most.
theorem addAll_conclusions_eq (h : ctx.Confirms ctx' final) (rule : Rule) (s : Store α)
    (fact : Fact α) (hfinal : (s.addAll (rule.conclusions ctx s fact)).Grows final) :
    s.addAll (rule.conclusions ctx' s fact) = s.addAll (rule.conclusions ctx s fact) := by
  cases hrule : rule.intersects with
  | false =>
      rw [Rule.conclusions_congr_of_derives hrule h.options fun p _ => ⟨rfl, rfl, rfl, rfl⟩]
  | true =>
      cases rule with
      | linesWithCircles => exact addAll_linesWithCircles_eq h s fact hfinal
      | circles =>
          cases fact with
          | onCircle p center radius => exact addAll_circlesFrom_eq h s p ⟨center, radius⟩ hfinal
          | _ => rfl
      | lines => cases fact <;> rfl
      | _ => cases hrule

-- A context that does the same as another to every store between a first and a last one.
structure Context.Replays (ctx ctx' : Context α) (first final : Store α) : Prop where
  options : ctx'.options = ctx.options
  step : ∀ (rule : Rule) (s : Store α) (fact : Fact α), first.Grows s →
    (s.addAll (rule.conclusions ctx s fact)).Grows final →
    s.addAll (rule.conclusions ctx' s fact) = s.addAll (rule.conclusions ctx s fact)

theorem Context.Confirms.replays (h : ctx.Confirms ctx' final) (first : Store α) :
    ctx.Replays ctx' first final :=
  ⟨h.options, fun rule s fact _ => addAll_conclusions_eq h rule s fact⟩

theorem run_eq_of_replays (h : ctx.Replays ctx' first final) (rule : Rule) (s : Store α)
    (hfirst : first.Grows s) (hfinal : (rule.run ctx s).Grows final) :
    rule.run ctx' s = rule.run ctx s :=
  Store.foldl_eq_of_grows (fun s fact => s.grows_addAll (rule.conclusions ctx s fact))
    (h.step rule) _ s hfirst hfinal

theorem pass_eq_of_replays (h : ctx.Replays ctx' first final) (s : Store α)
    (hfirst : first.Grows s) (hfinal : (pass ctx s).Grows final) : pass ctx' s = pass ctx s :=
  Store.foldl_eq_of_grows (fun s rule => Rule.grows_run rule ctx s)
    (fun s rule => run_eq_of_replays h rule s) Rule.all s hfirst hfinal

-- Every pass on the way to the final store is the same in both contexts.
theorem propagateFrom_eq_of_replays (h : ctx.Replays ctx' first final) (left done : Nat)
    (s : Store α) (hfirst : first.Grows s)
    (hfinal : (propagateFrom ctx left done s).store.Grows final) :
    propagateFrom ctx' left done s = propagateFrom ctx left done s := by
  induction left generalizing done s with
  | zero => rfl
  | succ left ih =>
      by_cases hs : pass ctx s = s
      · have hpass : pass ctx' s = s := by
          rw [pass_eq_of_replays h s hfirst, hs]
          rw [propagateFrom_of_stable left done hs] at hfinal
          rwa [hs]
        rw [propagateFrom_of_stable left done hs, propagateFrom_of_stable left done hpass]
      · rw [propagateFrom_of_learning left done hs] at hfinal
        have hpass : pass ctx' s = pass ctx s :=
          pass_eq_of_replays h s hfirst ((grows_propagateFrom ctx left (done + 1) _).trans hfinal)
        have hlearning : pass ctx' s ≠ s := by rwa [hpass]
        rw [propagateFrom_of_learning left done hs, propagateFrom_of_learning left done hlearning,
          hpass]
        exact ih (done + 1) (pass ctx s) (hfirst.trans (grows_pass ctx s)) hfinal

theorem propagate_eq_of_replays (h : ctx.Replays ctx' s (propagate ctx s).store) :
    propagate ctx' s = propagate ctx s := by
  rw [propagate, h.options]
  exact propagateFrom_eq_of_replays h _ 0 s (.refl s) (.refl _)

theorem propagate_eq_of_confirms (h : ctx.Confirms ctx' (propagate ctx s).store) :
    propagate ctx' s = propagate ctx s :=
  propagate_eq_of_replays (h.replays s)

end Solve

end PlaneSketch

import PlaneSketch.Proofs.Geometry.Domain
import PlaneSketch.Solve.Propagate

namespace PlaneSketch.Solve

section Replacing

variable {root : Float → Float} {quotient : Float → Float → Float}
  (h : RightOnDomain root quotient)

include h

theorem linesWithCirclesFrom_replacing (ctx : Context Float) (s : Store Float) (p : Handle)
    (line : Line Float) :
    @Rule.linesWithCirclesFrom Float (.replacing root quotient) ctx s p line =
      Rule.linesWithCirclesFrom ctx s p line := by
  refine List.filterMap_congr fun circle _ => ?_
  rw [meetCircle_replacing_line h]
  rfl

theorem circlesFrom_replacing (ctx : Context Float) (s : Store Float) (p : Handle)
    (circle : Circle Float) :
    @Rule.circlesFrom Float (.replacing root quotient) ctx s p circle =
      Rule.circlesFrom ctx s p circle := by
  refine List.filterMap_congr fun other _ => ?_
  rw [meetCircle_replacing h]
  rfl

theorem linesFrom_replacing (s : Store Float) (p : Handle) (line : Line Float) :
    @Rule.linesFrom Float (.replacing root quotient) s p line = Rule.linesFrom s p line := by
  refine List.filterMap_congr fun other _ => ?_
  rw [meetLine_replacing h]

theorem offsetLinesFrom_replacing (ctx : Context Float) (s : Store Float) (p start stop : Handle)
    (value : Float) :
    @Rule.offsetLinesFrom Float (.replacing root quotient) ctx s p start stop value =
      Rule.offsetLinesFrom ctx s p start stop value := by
  unfold Rule.offsetLinesFrom
  cases s.position? start with
  | none => rfl
  | some a =>
      cases s.position? stop with
      | none => rfl
      | some b =>
          simp only [normalize_replacing h]
          rfl

theorem conclusions_replacing (rule : Rule) (ctx : Context Float) (s : Store Float)
    (fact : Fact Float) :
    @Rule.conclusions Float (.replacing root quotient) rule ctx s fact =
      rule.conclusions ctx s fact := by
  cases rule with
  | linesWithCircles =>
      cases fact with
      | onLine p a b => exact linesWithCirclesFrom_replacing h ctx s p ⟨a, b⟩
      | _ => simp only [Rule.conclusions]
  | circles =>
      cases fact with
      | onCircle p center radius => exact circlesFrom_replacing h ctx s p ⟨center, radius⟩
      | _ => simp only [Rule.conclusions]
  | lines =>
      cases fact with
      | onLine p a b => exact linesFrom_replacing h s p ⟨a, b⟩
      | _ => simp only [Rule.conclusions]
  | offsetLines =>
      cases fact with
      | lineDistance p start stop value =>
          exact offsetLinesFrom_replacing h ctx s p start stop value
      | _ => simp only [Rule.conclusions]
  | axisLinesAndCircles =>
      cases fact with
      | fixed p position => rfl
      | _ => simp only [Rule.conclusions]
  | collinearLines =>
      cases fact with
      | collinear points => rfl
      | _ => simp only [Rule.conclusions]
  | bisectorLines =>
      cases fact with
      | equidistant center p q => rfl
      | _ => simp only [Rule.conclusions]
  | equalRadii =>
      cases fact with
      | equidistant center p q => rfl
      | _ => simp only [Rule.conclusions]

theorem run_replacing (rule : Rule) (ctx : Context Float) (s : Store Float) :
    @Rule.run Float (.replacing root quotient) rule ctx s = rule.run ctx s := by
  refine List.foldl_ext _ _ s fun s fact _ => ?_
  rw [conclusions_replacing h]
  rfl

theorem pass_replacing (ctx : Context Float) (s : Store Float) :
    @pass Float (.replacing root quotient) ctx s = pass ctx s :=
  List.foldl_ext _ _ s fun s rule _ => run_replacing h rule ctx s

theorem propagate_replacing (ctx : Context Float) (s : Store Float) :
    @propagate Float (.replacing root quotient) ctx s = propagate ctx s := by
  have hfrom : ∀ (left done : Nat) (s : Store Float),
      @propagateFrom Float (.replacing root quotient) ctx left done s =
        propagateFrom ctx left done s := by
    intro left
    induction left with
    | zero => exact fun _ _ => rfl
    | succ left ih =>
        intro done s
        have hstep : @propagateFrom Float (.replacing root quotient) ctx (left + 1) done s =
            let next := @pass Float (.replacing root quotient) ctx s
            if next.size = s.size then ⟨next, done + 1, true⟩
            else @propagateFrom Float (.replacing root quotient) ctx left (done + 1) next := rfl
        rw [hstep, pass_replacing h, propagateFrom]
        simp only [ih]
  exact hfrom _ _ _

end Replacing

-- Everything that solving a sketch and picking in it take roots and quotients for comes out the
-- same with the given operations.
structure Unaffected (root : Float → Float) (quotient : Float → Float → Float) : Prop where
  propagate : ∀ ctx s, @propagate Float (.replacing root quotient) ctx s = propagate ctx s
  project : ∀ l p, @Line.project Float (.replacing root quotient) l p = l.project p
  segmentDist : ∀ l p, @Line.segmentDist Float (.replacing root quotient) l p = l.segmentDist p
  meetLine : ∀ l k, @Line.meetLine Float (.replacing root quotient) l k = l.meetLine k
  adjustedCenter : ∀ arc,
    @Arc.adjustedCenter Float (.replacing root quotient) arc = arc.adjustedCenter
  position : ∀ placement a b,
    @Placement.position Float (.replacing root quotient) placement a b = placement.position a b

-- No root of a negative number is taken, and nothing is divided by zero.
theorem unaffected_of_rightOnDomain {root : Float → Float} {quotient : Float → Float → Float}
    (h : RightOnDomain root quotient) : Unaffected root quotient where
  propagate := propagate_replacing h
  project := project_replacing h
  segmentDist := segmentDist_replacing h
  meetLine := meetLine_replacing h
  adjustedCenter := adjustedCenter_replacing h
  position := position_replacing h

end PlaneSketch.Solve

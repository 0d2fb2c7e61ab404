import PlaneSketch.Solve.Rule

namespace PlaneSketch.Solve

variable {α : Type} [Scalar α]

-- Every rule once, in order.
def pass (ctx : Context α) (s : Store α) : Store α :=
  Rule.all.foldl (fun s rule => rule.run ctx s) s

-- How far propagation got.
structure Propagation (α : Type) where
  store : Store α
  passes : Nat
  converged : Bool

-- Passes until one learns nothing, at most as many as are left.
def propagateFrom (ctx : Context α) : (left done : Nat) → Store α → Propagation α
  | 0, done, s => ⟨s, done, false⟩
  | left + 1, done, s =>
      let next := pass ctx s
      if next.size = s.size then ⟨next, done + 1, true⟩
      else propagateFrom ctx left (done + 1) next

def propagate (ctx : Context α) (s : Store α) : Propagation α :=
  propagateFrom ctx ctx.options.maxPasses.toNat 0 s

end PlaneSketch.Solve

import PlaneSketch.Solve.Propagate
import PlaneSketch.Solve.Seed

namespace PlaneSketch.Solve

structure Solution where
  -- The positions of the points that were found, in the order of finding.
  resolved : OrderedMap Handle (Point Float)
  updated : Sketch
  passes : Nat
  converged : Bool
  facts : List (Fact Float)

-- The points that a store knows the positions of.
def resolvedPositions (store : Store Float) : OrderedMap Handle (Point Float) :=
  .ofList (store.facts.filterMap fun
    | .fixed p position => some (p, position)
    | _ => none)

def finish (s : Sketch) (propagation : Propagation Float) : Solution :=
  let resolved := resolvedPositions propagation.store
  { resolved := resolved
    updated := s.withPositions resolved
    passes := propagation.passes
    converged := propagation.converged
    facts := propagation.store.facts }

-- The positions that the constraints of a sketch determine. Points without one stay where they are.
def solve (ruler : Ruler Float) (s : Sketch) (options : Options Float) :
    Except LookupError Solution := do
  let store ← seed s (.empty options.epsilon)
  .ok (finish s (propagate ⟨ruler, initialPositions s, options⟩ store))

namespace Solution

-- The lines a point was found to lie on, whether or not it was found itself.
def supportingLines (solution : Solution) (point : Handle) : List (Fact Float) :=
  solution.facts.filter fun
    | .onLine p _ _ => p == point
    | _ => false

-- The points of a sketch that already stand where the solution puts them, in ascending order.
def constrained (solution : Solution) (s : Sketch) (epsilon : Float) : List Handle :=
  let standing := s.points.filter fun p =>
    match solution.resolved.get? p.1 with
    | none => false
    | some position => position.near epsilon p.2
  Handle.sort (standing.map (·.1)).eraseDups

end Solution

end PlaneSketch.Solve

import PlaneSketch.Sketch.Describe
import PlaneSketch.Solve.Solution

namespace PlaneSketch.Cli

open Solve (Solution)

-- Coordinates have six decimal places.
def coordinates (p : Point Float) : String :=
  "(" ++ Decimal.fixed 6 p.x ++ ", " ++ Decimal.fixed 6 p.y ++ ")"

def pointLine (s : Sketch) (solution : Solution) (point : Handle × Point Float) :
    Except DescribeError Text := do
  let mark := if solution.resolved.contains point.1 then "" else " (unresolved)"
  .ok ("  " ++ (← s.word point.1) ++ ": " ++ coordinates point.2 ++ mark)

def constrainedLines (s : Sketch) (solution : Solution) : Except DescribeError (List Text) :=
  let constrained := solution.constrained s Scalar.tolerance
  if constrained.isEmpty then .ok ["  (none)"]
  else
    (s.points.filter fun point => constrained.contains point.1).mapM fun point => do
      .ok ("  " ++ (← s.word point.1))

def countLines (solution : Solution) : List Text :=
  ["Passes: " ++ toString solution.passes ++ " (converged: " ++
      (if solution.converged then "True" else "False") ++ ")",
    "Facts: " ++ toString solution.facts.length]

-- What is printed about a solved sketch.
def report (s : Sketch) (solution : Solution) (showFacts : Bool) : Except DescribeError Text := do
  let sketch ← s.describeAll
  let facts ← if showFacts then solution.facts.mapM s.describeFact else .ok []
  let points ← solution.updated.points.mapM (pointLine s solution)
  let constrained ← constrainedLines s solution
  let lines : List (List Text) :=
    [["Sketch:", sketch], countLines solution, facts.map (Text.ofString "  " ++ ·),
      ["Coordinates:"], points, ["Fully constrained:"], constrained]
  .ok (lines.flatten.flatMap (· ++ Text.ofString "\n"))

end PlaneSketch.Cli

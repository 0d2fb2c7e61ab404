import PlaneSketch.Decimal.Layout
import PlaneSketch.Fact.Store
import PlaneSketch.Solve.Solution
import PlaneSketch.Trace.Value

namespace PlaneSketch.Trace

-- A name with its fields.
def record (name : String) (fields : List (String × String)) : String :=
  name ++ "(" ++ String.intercalate ", " (fields.map fun field => field.1 ++ "=" ++ field.2) ++ ")"

-- A fixed sequence; a single item has a comma behind it.
def sequence : List String → String
  | [item] => "(" ++ item ++ ",)"
  | items => "(" ++ String.intercalate ", " items ++ ")"

def mapping (entries : List (String × String)) : String :=
  "\x7b" ++ String.intercalate ", " (entries.map fun entry => entry.1 ++ ": " ++ entry.2) ++ "\x7d"

def truthLiteral (b : Bool) : String := if b then "True" else "False"

def pointLiteral (p : Point Float) : String :=
  record "XY" [("x", Decimal.plain p.x), ("y", Decimal.plain p.y)]

def lineLiteral (l : Line Float) : String :=
  record "LineSpec" [("a", pointLiteral l.a), ("b", pointLiteral l.b)]

def placementLiteral (placement : Placement Float) : String :=
  record "Cosmetic" [("t", Decimal.plain placement.t), ("offset", Decimal.plain placement.offset)]

def axisLiteral : Axis → String
  | .horizontal => "<Axis.HORIZONTAL: 'horizontal'>"
  | .vertical => "<Axis.VERTICAL: 'vertical'>"

def partLiteral : Fact.Part Float → String
  | .handle h => toString h
  | .handles hs => sequence (hs.map fun h => toString h)
  | .number x => Decimal.plain x
  | .position p => pointLiteral p

def factLiteral (fact : Fact Float) : String :=
  record fact.kind.name (fact.parts.map fun part => (part.1.name, partLiteral part.2))

def elementFields : Element → List (String × String)
  | .point id position => [("id", toString id), ("position", pointLiteral position)]
  | .line id a b => [("id", toString id), ("endpoint_a", toString a), ("endpoint_b", toString b)]
  | .arc id a b center =>
      [("id", toString id), ("endpoint_a", toString a), ("endpoint_b", toString b),
        ("center", toString center)]
  | .fixed id point position =>
      [("id", toString id), ("point", toString point), ("position", pointLiteral position)]
  | .axisAligned id axis a b =>
      [("id", toString id), ("axis", axisLiteral axis), ("point_a", toString a),
        ("point_b", toString b)]
  | .distance id a b value placement measureOnly =>
      [("id", toString id), ("point_a", toString a), ("point_b", toString b),
        ("distance", Decimal.plain value), ("cosmetic", placementLiteral placement),
        ("measure_only", truthLiteral measureOnly)]
  | .lineDistance id point line value placement measureOnly =>
      [("id", toString id), ("point", toString point), ("line", toString line),
        ("distance", Decimal.plain value), ("cosmetic", placementLiteral placement),
        ("measure_only", truthLiteral measureOnly)]
  | .pointOnLine id point line =>
      [("id", toString id), ("point", toString point), ("line", toString line)]
  | .pointOnArc id point arc =>
      [("id", toString id), ("point", toString point), ("arc", toString arc)]
  | .foreign id _ => [("id", toString id)]

def elementLiteral (e : Element) : String := record e.kindName (elementFields e)

def labelsLiteral (labels : OrderedMap Handle Text) : String :=
  mapping (labels.entries.map fun entry => (toString entry.1, Text.quoted entry.2))

def sketchLiteral (s : Sketch) : String :=
  record "Sketch"
    [("elements", sequence (s.elements.map elementLiteral)), ("labels", labelsLiteral s.labels)]

def positionsLiteral (positions : OrderedMap Handle (Point Float)) : String :=
  mapping (positions.entries.map fun entry => (toString entry.1, pointLiteral entry.2))

def optionsLiteral (options : Solve.Options Float) : String :=
  record "SolveOptions"
    [("max_passes", toString options.maxPasses), ("epsilon", Decimal.plain options.epsilon),
      ("axis_line_length", Decimal.plain options.axisLength)]

-- The facts of a solution are left out.
def solutionLiteral (solution : Solve.Solution) : String :=
  record "Solution"
    [("resolved_positions", positionsLiteral solution.resolved),
      ("updated_sketch", sketchLiteral solution.updated), ("passes", toString solution.passes),
      ("converged", truthLiteral solution.converged)]

-- A sketch is shown by the count of its parts.
def sketchValue (s : Sketch) : Value :=
  .summary (record "Sketch"
    [("points", toString s.points.length), ("lines", toString s.lines.length),
      ("arcs", toString s.arcs.length), ("constraints", toString s.constraints.length)])

-- A store is shown by the count of its facts.
def storeValue (store : Store Float) : Value :=
  .summary (record "FactStore" [("facts", toString store.size)])

def positionsValue (positions : OrderedMap Handle (Point Float)) : Value :=
  .table (positions.entries.map fun entry => (.integer entry.1, .word (pointLiteral entry.2)))

end PlaneSketch.Trace

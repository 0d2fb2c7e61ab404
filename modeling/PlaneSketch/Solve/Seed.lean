import PlaneSketch.Fact.Store
import PlaneSketch.Sketch.Check

namespace PlaneSketch.Solve

-- The facts that an element states outright. What holds between two points is stated in both
-- directions; a dimension that only measures states nothing.
def statements (s : Sketch) : Element → Except LookupError (List (Fact Float))
  | .arc _ a b center => .ok [.equidistant center a b]
  | .fixed _ point position => .ok [.fixed point position]
  | .axisAligned _ .vertical a b => .ok [.vertical a b, .vertical b a]
  | .axisAligned _ .horizontal a b => .ok [.horizontal a b, .horizontal b a]
  | .distance _ a b value _ measureOnly =>
      if measureOnly then .ok [] else .ok [.distance a b value, .distance b a value]
  | .lineDistance _ point line value _ measureOnly =>
      if measureOnly then .ok []
      else do
        let ends ← s.lineEnds line
        .ok [.lineDistance point ends.1 ends.2 value, .lineDistance point ends.2 ends.1 (-value)]
  | .pointOnLine _ point line => do
      let ends ← s.lineEnds line
      .ok [.collinear (Handle.sort [point, ends.1, ends.2])]
  | .pointOnArc _ point arc => do
      let radius ← s.arcRadius arc
      .ok [.equidistant radius.1 radius.2 point]
  | _ => .ok []

-- The position of every point before solving.
def initialPositions (s : Sketch) : OrderedMap Handle (Point Float) := .ofList s.points

-- The store with all statements of the sketch, element by element.
def seed (s : Sketch) (store : Store Float) : Except LookupError (Store Float) :=
  s.elements.foldlM (fun store e => do
    let facts ← statements s e
    .ok (store.addAll facts)) store

end PlaneSketch.Solve

import PlaneSketch.Json.Value
import PlaneSketch.Sketch.Basic

namespace PlaneSketch.Document

open Json (Value)

def dumpPosition (p : Point Float) : List (Text × Value) := [("x", .float p.x), ("y", .float p.y)]

def dumpPlacement (placement : Placement Float) : Value :=
  .obj [("t", .float placement.t), ("offset", .float placement.offset)]

section Entries

variable {m : Type → Type} [Monad m] (label : Handle → m Text)

-- The list of a document that an element goes to, with its entry there, given how elements are
-- labelled. Elements of unknown kinds are left out.
def dumpElement : Element → m (Option (String × Value))
  | .point id position => do
      return some ("points", .obj (("id", .str (← label id)) :: dumpPosition position))
  | .line id a b => do
      return some ("lines", .obj [("id", .str (← label id)), ("endpoint_a", .str (← label a)),
        ("endpoint_b", .str (← label b))])
  | .arc id a b center => do
      return some ("arcs", .obj [("id", .str (← label id)), ("endpoint_a", .str (← label a)),
        ("endpoint_b", .str (← label b)), ("center", .str (← label center))])
  | .fixed id point position => do
      return some ("constraints", .obj [("id", .str (← label id)), ("type", .str "fixed"),
        ("point", .str (← label point)), ("position", .obj (dumpPosition position))])
  | .axisAligned id axis a b => do
      return some ("constraints", .obj [("id", .str (← label id)), ("type", .str "axis_aligned"),
        ("axis", .str axis.name), ("point_a", .str (← label a)), ("point_b", .str (← label b))])
  | .distance id a b value placement measureOnly => do
      return some ("constraints", .obj [("id", .str (← label id)),
        ("type", .str "point_point_distance"), ("point_a", .str (← label a)),
        ("point_b", .str (← label b)), ("distance", .float value),
        ("cosmetic", dumpPlacement placement), ("measure_only", .bool measureOnly)])
  | .lineDistance id point line value placement measureOnly => do
      return some ("constraints", .obj [("id", .str (← label id)),
        ("type", .str "point_line_distance"), ("point", .str (← label point)),
        ("line", .str (← label line)), ("distance", .float value),
        ("cosmetic", dumpPlacement placement), ("measure_only", .bool measureOnly)])
  | .pointOnLine id point line => do
      return some ("constraints", .obj [("id", .str (← label id)), ("type", .str "point_on_line"),
        ("point", .str (← label point)), ("line", .str (← label line))])
  | .pointOnArc id point arc => do
      return some ("constraints", .obj [("id", .str (← label id)), ("type", .str "point_on_arc"),
        ("point", .str (← label point)), ("arc", .str (← label arc))])
  | .foreign .. => return none

end Entries

-- The lists of a document in order.
def listNames : List String := ["points", "lines", "arcs", "constraints"]

-- The document with the given entries, each in its list.
def ofEntries (entries : List (String × Value)) : Value :=
  .obj (listNames.map fun list =>
    (Text.ofString list, .arr ((entries.filter fun entry => entry.1 == list).map (·.2))))

-- The document of a sketch. Every element goes by its label in it, or by one made from its handle.
def dump (s : Sketch) : Except Text.DigitsError Value := do
  let dumped ← s.elements.mapM (dumpElement s.label)
  .ok (ofEntries (dumped.filterMap id))

end PlaneSketch.Document

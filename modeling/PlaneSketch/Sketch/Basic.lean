import PlaneSketch.OrderedMap
import PlaneSketch.Sketch.Element
import PlaneSketch.Text.Integer
import PlaneSketch.Text.Literal

namespace PlaneSketch

-- A snapshot of all elements with the labels some of them have. Nothing is promised about the
-- handles: they may repeat, and references may lead nowhere. Where handles repeat, a lookup finds
-- the last element.
structure Sketch where
  elements : List Element
  labels : OrderedMap Handle Text

-- A lookup in a sketch that failed.
inductive LookupError where
  -- No point stands under this handle.
  | noPosition (id : Handle)
  | noElement (label : Text)
  | wrongKind (label : Text) (found expected : String)
  | notADimension (label : Text)
  -- The error itself could not be worded.
  | digits (error : Text.DigitsError)

def LookupError.message : LookupError → String
  | noPosition id => toString id
  | noElement label => "the sketch has no element " ++ Text.quoted label
  | wrongKind label found expected =>
      "element " ++ Text.quoted label ++ " is a " ++ found ++ ", expected " ++ expected
  | notADimension label => "element " ++ Text.quoted label ++ " is not a distance dimension"
  | digits error => error.message

namespace Sketch

def get? (s : Sketch) (id : Handle) : Option Element :=
  (s.elements.filter fun e => e.id == id).getLast?

def contains (s : Sketch) (id : Handle) : Bool := (s.get? id).isSome

-- The name an element goes by in text: its label, else its handle. The handle is written out in
-- either case, so where it is too long there is no name.
def label (s : Sketch) (id : Handle) : Except Text.DigitsError Text := do
  let digits ← Text.decimal id
  .ok ((s.labels.get? id).getD ("#" ++ digits))

-- An error that names an element, or the error that it cannot be named.
def blame {ε : Type} (s : Sketch) (id : Handle) (nameless : Text.DigitsError → ε)
    (named : Text → ε) : ε :=
  match s.label id with
  | .error error => nameless error
  | .ok label => named label

-- The element under a handle.
def element (s : Sketch) (id : Handle) : Except LookupError Element :=
  match s.get? id with
  | none => .error (s.blame id .digits .noElement)
  | some e => .ok e

-- The error about an element that is not of the expected kind.
def mismatch (s : Sketch) (id : Handle) (found : Element) (expected : Element.Kind) :
    LookupError :=
  s.blame id .digits fun label => .wrongKind label found.kindName expected.name

-- The element under a handle, which must be of the given kind.
def elementOf (s : Sketch) (id : Handle) (kind : Element.Kind) : Except LookupError Element :=
  match s.element id with
  | .error error => .error error
  | .ok e => if e.kind = kind then .ok e else .error (s.mismatch id e kind)

def ofKinds (s : Sketch) (wanted : Element.Kind → Bool) : List Element :=
  s.elements.filter fun e => wanted e.kind

-- The points with their positions.
def points (s : Sketch) : List (Handle × Point Float) :=
  s.elements.filterMap fun
    | .point id position => some (id, position)
    | _ => none

-- The lines with the handles of their ends.
def lines (s : Sketch) : List (Handle × Handle × Handle) :=
  s.elements.filterMap fun
    | .line id a b => some (id, a, b)
    | _ => none

def arcs (s : Sketch) : List Element := s.ofKinds (· == .arc)

def constraints (s : Sketch) : List Element := s.ofKinds Element.Kind.isConstraint

def pointPosition (s : Sketch) (id : Handle) : Except LookupError (Point Float) :=
  match s.element id with
  | .error error => .error error
  | .ok (.point _ position) => .ok position
  | .ok e => .error (s.mismatch id e .point)

def lineEnds (s : Sketch) (id : Handle) : Except LookupError (Handle × Handle) :=
  match s.element id with
  | .error error => .error error
  | .ok (.line _ a b) => .ok (a, b)
  | .ok e => .error (s.mismatch id e .line)

-- The first end and the center of an arc.
def arcRadius (s : Sketch) (id : Handle) : Except LookupError (Handle × Handle) :=
  match s.element id with
  | .error error => .error error
  | .ok (.arc _ a _ center) => .ok (center, a)
  | .ok e => .error (s.mismatch id e .arc)

def moveElement (positions : OrderedMap Handle (Point Float)) : Element → Element
  | .point id position => .point id ((positions.get? id).getD position)
  | e => e

-- The sketch with the points that have a new position moved there.
def withPositions (s : Sketch) (positions : OrderedMap Handle (Point Float)) : Sketch :=
  { s with elements := s.elements.map (moveElement positions) }

-- Two sketches have the same elements in the same order; labels do not count.
def agrees (same : Float → Float → Bool) (s t : Sketch) : Bool :=
  s.elements.length == t.elements.length &&
    (s.elements.zip t.elements).all fun pair => pair.1.agrees same pair.2

-- Equality of numbers as they compare, so that a NaN differs from every other.
def equals (s t : Sketch) : Bool := s.agrees (· == ·) t

-- Equality of numbers where a value handed on unchanged is itself, also if it is a NaN.
def preserves (s t : Sketch) : Bool :=
  s.agrees (fun x y => x == y || (x.isNaN && y.isNaN)) t

-- Whether moving the points left the sketch as it compares: elements that were not moved are
-- themselves.
def unmovedBy (s : Sketch) (positions : OrderedMap Handle (Point Float)) : Bool :=
  s.elements.all fun
    | .point id position =>
        match positions.get? id with
        | none => true
        | some moved => moved.x == position.x && moved.y == position.y
    | _ => true

end Sketch

end PlaneSketch

import PlaneSketch.Decimal.Layout
import PlaneSketch.Sketch.Basic

namespace PlaneSketch

-- Numbers in descriptions have six significant digits.
def describeNumber (x : Float) : String := Decimal.general 6 x

def describePosition (p : Point Float) : String :=
  "(" ++ describeNumber p.x ++ ", " ++ describeNumber p.y ++ ")"

-- Something there are no words for.
inductive DescribeError where
  | unknownElement (kindName : String)
  | unknownFact (kindName : String)
  | digits (error : Text.DigitsError)

def DescribeError.message : DescribeError → String
  | unknownElement kindName => "unknown sketch element " ++ kindName
  | unknownFact kindName => "unknown fact " ++ kindName
  | digits error => error.message

namespace Sketch

def measureMark (measureOnly : Bool) : String := if measureOnly then " [measure-only]" else ""

-- The label of an element in a description.
def word (s : Sketch) (id : Handle) : Except DescribeError Text :=
  (s.label id).mapError .digits

-- One line on an element, which need not be of this sketch; the sketch gives the labels.
def describe (s : Sketch) : Element → Except DescribeError Text
  | .point id position => do
      .ok ("point " ++ (← s.word id) ++ " at " ++ describePosition position)
  | .line id a b => do
      .ok ("line " ++ (← s.word id) ++ " " ++ (← s.word a) ++ "-" ++ (← s.word b))
  | .arc id a b center => do
      .ok ("arc " ++ (← s.word id) ++ " " ++ (← s.word a) ++ "-" ++ (← s.word b) ++ " center " ++
        (← s.word center))
  | .fixed _ point position => do
      .ok ("fixed " ++ (← s.word point) ++ " at " ++ describePosition position)
  | .axisAligned _ axis a b => do
      .ok (axis.name ++ " " ++ (← s.word a) ++ "-" ++ (← s.word b))
  | .distance _ a b value _ measureOnly => do
      .ok ("distance " ++ (← s.word a) ++ "-" ++ (← s.word b) ++ " = " ++ describeNumber value ++
        measureMark measureOnly)
  | .lineDistance _ point line value _ measureOnly => do
      .ok ("distance " ++ (← s.word point) ++ " to line " ++ (← s.word line) ++ " = " ++
        describeNumber value ++ measureMark measureOnly)
  | .pointOnLine _ point line => do
      .ok ("point " ++ (← s.word point) ++ " on line " ++ (← s.word line))
  | .pointOnArc _ point arc => do
      .ok ("point " ++ (← s.word point) ++ " on arc " ++ (← s.word arc))
  | .foreign _ kindName => .error (.unknownElement kindName)

-- All elements, a line each.
def describeAll (s : Sketch) : Except DescribeError Text := do
  let lines ← s.elements.mapM s.describe
  .ok (Text.join "\n" lines ++ "\n")

-- One line on a fact about points of this sketch.
def describeFact (s : Sketch) : Fact Float → Except DescribeError Text
  | .fixed p position => do
      .ok ("fixed " ++ (← s.word p) ++ " at " ++ describePosition position)
  | .onLine p a b => do
      .ok ((← s.word p) ++ " on line " ++ describePosition a ++ "-" ++ describePosition b)
  | .onCircle p center radius => do
      .ok ((← s.word p) ++ " on circle center " ++ describePosition center ++ " radius " ++
        describeNumber radius)
  | .vertical p q => do
      .ok ("vertical " ++ (← s.word p) ++ "-" ++ (← s.word q))
  | .horizontal p q => do
      .ok ("horizontal " ++ (← s.word p) ++ "-" ++ (← s.word q))
  | .distance p q value => do
      .ok ("distance " ++ (← s.word p) ++ "-" ++ (← s.word q) ++ " = " ++ describeNumber value)
  | .lineDistance p a b value => do
      .ok ("distance " ++ (← s.word p) ++ " to " ++ (← s.word a) ++ "->" ++ (← s.word b) ++
        " = " ++ describeNumber value)
  | .collinear points => do
      .ok ("collinear (" ++ Text.join ", " (← points.mapM s.word) ++ ")")
  | .equidistant center p q => do
      .ok ("equidistant from " ++ (← s.word center) ++ ": " ++ (← s.word p) ++ ", " ++
        (← s.word q))
  | .bare => .error (.unknownFact Fact.Kind.bare.name)

end Sketch

end PlaneSketch

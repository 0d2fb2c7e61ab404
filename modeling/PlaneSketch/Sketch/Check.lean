import PlaneSketch.Decimal.Layout
import PlaneSketch.Sketch.Basic

namespace PlaneSketch

namespace Sketch

-- The element a finding is about, by the name of its kind and its label.
structure Site where
  kindName : String
  label : Text

def Site.text (site : Site) : Text := "[" ++ site.kindName ++ " " ++ site.label ++ "]"

-- Why a sketch is not well formed.
inductive Invalid where
  | repeatedIds (labels : List Text)
  | missing (site : Site) (role : String) (label : Text)
  | wrongKind (site : Site) (role expected found : String) (label : Text)
  | notFinite (site : Site) (name : String)
  | equalEnds (site : Site)
  | negativeDistance (site : Site) (value : Float)
  | unsupported (kindName : String)
  -- What is found wrong could not be worded.
  | digits (error : Text.DigitsError)

def Invalid.message : Invalid → Text
  | repeatedIds labels => "duplicate element ids: " ++ Text.join ", " labels
  | missing site role label => site.text ++ " " ++ role ++ " refers to missing element " ++ label
  | wrongKind site role expected found label =>
      site.text ++ " " ++ role ++ " must be a " ++ expected ++ ", got " ++ found ++ " " ++ label
  | notFinite site name => site.text ++ " " ++ name ++ " must be finite"
  | equalEnds site => site.text ++ " endpoints must be distinct"
  | negativeDistance site value =>
      site.text ++ " distance must be non-negative, got " ++ Decimal.plain value
  | unsupported kindName => "unsupported sketch element " ++ kindName
  | digits error => error.message

-- The handles that more than one element has, in ascending order.
def repeatedIds (s : Sketch) : List Handle :=
  let ids := s.elements.map (·.id)
  Handle.sort (ids.eraseDups.filter fun id => 1 < ids.count id)

-- A finding about an element.
def finding (s : Sketch) (e : Element) (found : Site → Invalid) : Invalid :=
  s.blame e.id .digits fun label => found ⟨e.kindName, label⟩

-- A reference must lead to an element of the given kind.
def checkReference (s : Sketch) (e : Element) (role : String) (target : Handle)
    (kind : Element.Kind) : Except Invalid Unit :=
  match s.get? target with
  | none => .error (s.finding e fun site => s.blame target .digits (.missing site role))
  | some found =>
      if found.kind = kind then .ok ()
      else
        .error (s.finding e fun site =>
          s.blame target .digits (.wrongKind site role kind.name found.kindName))

def checkPoint (s : Sketch) (e : Element) (role : String) (target : Handle) :
    Except Invalid Unit :=
  s.checkReference e role target .point

def checkFinite (s : Sketch) (e : Element) (name : String) (values : List Float) :
    Except Invalid Unit :=
  if values.all Float.isFinite then .ok () else .error (s.finding e (.notFinite · name))

def checkElement (s : Sketch) (e : Element) : Except Invalid Unit :=
  match e with
  | .point _ position => s.checkFinite e "position" [position.x, position.y]
  | .line _ a b => do
      s.checkPoint e "endpoint_a" a
      s.checkPoint e "endpoint_b" b
      if a = b then .error (s.finding e .equalEnds) else .ok ()
  | .arc _ a b center => do
      s.checkPoint e "endpoint_a" a
      s.checkPoint e "endpoint_b" b
      s.checkPoint e "center" center
  | .fixed _ point position => do
      s.checkPoint e "point" point
      s.checkFinite e "position" [position.x, position.y]
  | .axisAligned _ _ a b => do
      s.checkPoint e "point_a" a
      s.checkPoint e "point_b" b
  | .distance _ a b value _ _ => do
      s.checkPoint e "point_a" a
      s.checkPoint e "point_b" b
      s.checkFinite e "distance" [value]
      if value < 0.0 then .error (s.finding e (.negativeDistance · value)) else .ok ()
  | .lineDistance _ point line value _ _ => do
      s.checkPoint e "point" point
      s.checkReference e "line" line .line
      s.checkFinite e "distance" [value]
  | .pointOnLine _ point line => do
      s.checkPoint e "point" point
      s.checkReference e "line" line .line
  | .pointOnArc _ point arc => do
      s.checkPoint e "point" point
      s.checkReference e "arc" arc .arc
  | .foreign _ kindName => .error (.unsupported kindName)

-- Accepts a sketch whose handles are distinct, whose references lead to elements of the right kind
-- and whose numbers make sense; refuses any other with the first thing found wrong.
def check (s : Sketch) : Except Invalid Unit :=
  match s.repeatedIds with
  | [] => s.elements.forM s.checkElement
  | ids =>
      match ids.mapM s.label with
      | .error error => .error (.digits error)
      | .ok labels => .error (.repeatedIds labels)

end Sketch

end PlaneSketch

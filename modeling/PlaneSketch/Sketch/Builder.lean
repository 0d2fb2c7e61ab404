import PlaneSketch.Sketch.Basic

namespace PlaneSketch

-- A sketch under construction. New elements take the next handle; handles are never given twice.
structure Builder where
  elements : OrderedMap Handle Element
  labels : OrderedMap Handle Text
  next : Handle

-- An operation that was refused.
inductive BuilderError where
  | noElement (id : Handle)
  | notAPoint (digits : String)
  | unknownAxis (name : Text)
  -- The refusal itself could not be worded.
  | digits (error : Text.DigitsError)

def BuilderError.message : BuilderError → String
  | noElement id => toString id
  | notAPoint number => "element #" ++ number ++ " is not a point"
  | unknownAxis name => Text.quoted name ++ " is not a valid Axis"
  | digits error => error.message

-- The refusal of a handle that is not that of a point.
def BuilderError.ofHandle (id : Handle) : BuilderError :=
  match Text.decimal id with
  | .error error => digits error
  | .ok number => notAPoint number

namespace Builder

def empty : Builder := ⟨.empty, .empty, 0⟩

-- Takes over an element under its own handle.
def adopt (b : Builder) (e : Element) : Builder :=
  { b with elements := b.elements.insert e.id e, next := max b.next (e.id + 1) }

-- Goes on from a snapshot.
def ofSketch (s : Sketch) : Builder :=
  let b := s.elements.foldl adopt empty
  { b with labels := b.labels.insertAll s.labels.entries }

-- The snapshot of what has been built.
def build (b : Builder) : Sketch := ⟨b.elements.values, b.labels⟩

-- Takes the next handle and gives it the label, if there is one.
def allocate (b : Builder) (label : Option Text) : Handle × Builder :=
  (b.next,
    { b with
      next := b.next + 1
      labels := match label with
        | none => b.labels
        | some text => b.labels.insert b.next text })

def store (b : Builder) (e : Element) : Builder :=
  { b with elements := b.elements.insert e.id e }

-- Adds the element made from the new handle.
def add (b : Builder) (label : Option Text) (make : Handle → Element) : Handle × Builder :=
  let (id, b) := b.allocate label
  (id, b.store (make id))

def kindOf (b : Builder) (id : Handle) : Except BuilderError Element.Kind :=
  match b.elements.get? id with
  | none => .error (.noElement id)
  | some e => .ok e.kind

def positionOf (b : Builder) (id : Handle) : Except BuilderError (Point Float) :=
  match b.elements.get? id with
  | none => .error (.noElement id)
  | some (.point _ position) => .ok position
  | some _ => .error (.ofHandle id)

-- Puts a point under a handle, whatever was there before.
def movePoint (b : Builder) (id : Handle) (position : Point Float) : Builder :=
  { b with elements := b.elements.insert id (.point id position) }

def remove (b : Builder) (id : Handle) : Builder :=
  { b with elements := b.elements.erase id, labels := b.labels.erase id }

-- Pins a point, at its present position unless another is given. The position is looked up before
-- a handle is taken.
def fix (b : Builder) (label : Option Text) (point : Handle) (position : Option (Point Float)) :
    Except BuilderError (Handle × Builder) :=
  match position with
  | some target => .ok (b.add label fun id => .fixed id point target)
  | none =>
      match b.positionOf point with
      | .error error => .error error
      | .ok target => .ok (b.add label fun id => .fixed id point target)

-- What can be done to a builder.
inductive Op where
  | addPoint (position : Point Float) (label : Option Text)
  | movePoint (id : Handle) (position : Point Float)
  | addLine (a b : Handle) (label : Option Text)
  | addArc (a b center : Handle) (label : Option Text)
  | fix (point : Handle) (position : Option (Point Float)) (label : Option Text)
  | axisAligned (axis : Text) (a b : Handle) (label : Option Text)
  | distance (a b : Handle) (value : Float) (placement : Placement Float) (measureOnly : Bool)
      (label : Option Text)
  | lineDistance (point line : Handle) (value : Float) (placement : Placement Float)
      (measureOnly : Bool) (label : Option Text)
  | pointOnLine (point line : Handle) (label : Option Text)
  | pointOnArc (point arc : Handle) (label : Option Text)
  | remove (id : Handle)

-- What an operation answers: the handle of a new element, nothing, or a refusal.
abbrev Answer := Except BuilderError (Option Handle)

def answer (result : Handle × Builder) : Answer × Builder := (.ok (some result.1), result.2)

-- One operation. An axis is looked at only after the handle and the label are taken, so a refusal
-- there uses them up.
def step (b : Builder) : Op → Answer × Builder
  | .addPoint position label => answer (b.add label fun id => .point id position)
  | .movePoint id position => (.ok none, b.movePoint id position)
  | .addLine p q label => answer (b.add label fun id => .line id p q)
  | .addArc p q center label => answer (b.add label fun id => .arc id p q center)
  | .fix point position label =>
      match b.fix label point position with
      | .ok result => answer result
      | .error error => (.error error, b)
  | .axisAligned name p q label =>
      match (Text.string? name).bind Axis.ofName? with
      | some axis => answer (b.add label fun id => .axisAligned id axis p q)
      | none => (.error (.unknownAxis name), (b.allocate label).2)
  | .distance p q value placement measureOnly label =>
      answer (b.add label fun id => .distance id p q value placement measureOnly)
  | .lineDistance point line value placement measureOnly label =>
      answer (b.add label fun id => .lineDistance id point line value placement measureOnly)
  | .pointOnLine point line label => answer (b.add label fun id => .pointOnLine id point line)
  | .pointOnArc point arc label => answer (b.add label fun id => .pointOnArc id point arc)
  | .remove id => (.ok none, b.remove id)

end Builder

end PlaneSketch

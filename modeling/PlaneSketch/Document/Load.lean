import PlaneSketch.Document.Error
import PlaneSketch.Sketch.Builder

namespace PlaneSketch.Document

open Json (Value)

-- The members of an object.
abbrev Entry := List (Text × Value)

def Entry.get? (entry : Entry) (key : String) : Option Value := entry.lookup (Text.ofString key)

-- A member that is not there reads as null.
def Entry.get (entry : Entry) (key : String) : Value := (entry.get? key).getD .null

-- A sketch being loaded: what has been built, and the handles by name.
structure Loading where
  builder : Builder
  handles : List (Text × Handle)

def Loading.empty : Loading := ⟨.empty, []⟩

def toFloat (place : Place) : Value → Except LoadError Float
  | .int n =>
      let x := Float.ofInt n
      if x.isInf then .error .hugeInteger else .ok x
  | .float x => .ok x
  | value => .error (.notANumber place value)

-- A position is an object with both coordinates or a list of two.
def toPosition (place : Place) : Value → Except LoadError (Point Float)
  | .obj members =>
      match Entry.get? members "x", Entry.get? members "y" with
      | some x, some y => do
          let x ← toFloat place x
          let y ← toFloat place y
          .ok ⟨x, y⟩
      | _, _ => .error (.incompletePosition place)
  | .arr [x, y] => do
      let x ← toFloat place x
      let y ← toFloat place y
      .ok ⟨x, y⟩
  | value => .error (.notAPosition place value)

def toPlacement (place : Place) : Value → Except LoadError (Placement Float)
  | .null => .ok .standard
  | .obj members => do
      let t ← toFloat place ((Entry.get? members "t").getD (.float 0.5))
      let offset ← toFloat place ((Entry.get? members "offset").getD (.float 0.0))
      .ok ⟨t, offset⟩
  | _ => .error (.notAPlacement place)

-- The entries of one of the lists of a document; a list that is not there is empty.
def entries (document : Entry) (key : String) : Except LoadError (List Entry) :=
  match (document.get? key).getD (.arr []) with
  | .arr items =>
      match items.mapM fun | .obj members => some members | _ => none with
      | some found => .ok found
      | none => .error (.notAList key)
  | _ => .error (.notAList key)

-- The name of an entry, if it has one. Names are not given twice.
def Loading.label (l : Loading) (place : Place) (entry : Entry) :
    Except LoadError (Option Text) :=
  match entry.get "id" with
  | .null => .ok none
  | value =>
      if (l.handles.lookup value.asName).isSome then .error (.repeatedId place value.asName)
      else .ok (some value.asName)

-- The name of an entry that must have one.
def Loading.requiredLabel (l : Loading) (place : Place) (entry : Entry) :
    Except LoadError Text := do
  match ← l.label place entry with
  | some name => .ok name
  | none => .error (.missingId place)

-- The handle that a member of an entry refers to by name.
def Loading.reference (l : Loading) (place : Place) (entry : Entry) (key : String)
    (kind : Element.Kind) : Except LoadError Handle :=
  match entry.get? key with
  | none => .error (.missingReference place key)
  | some value =>
      match l.handles.lookup value.asName with
      | none => .error (.unknownReference place key value.asName)
      | some handle =>
          match l.builder.kindOf handle with
          | .ok found =>
              if found = kind then .ok handle
              else .error (.wrongReference place key value.asName kind)
          | .error error => .error (.lookup error)

-- Adds an element under the name of its entry.
def Loading.add (l : Loading) (label : Option Text) (make : Handle → Element) : Loading :=
  let (handle, builder) := l.builder.add label make
  ⟨builder, match label with
    | none => l.handles
    | some name => (name, handle) :: l.handles⟩

def loadPoint (l : Loading) (place : Place) (entry : Entry) : Except LoadError Loading := do
  let label ← l.requiredLabel place entry
  let position ←
    match entry.get? "position" with
    | some value => toPosition place value
    | none => do
        let x ← toFloat place (entry.get "x")
        let y ← toFloat place (entry.get "y")
        .ok ⟨x, y⟩
  .ok (l.add label fun id => .point id position)

def loadLine (l : Loading) (place : Place) (entry : Entry) : Except LoadError Loading := do
  let label ← l.requiredLabel place entry
  let a ← l.reference place entry "endpoint_a" .point
  let b ← l.reference place entry "endpoint_b" .point
  .ok (l.add label fun id => .line id a b)

def loadArc (l : Loading) (place : Place) (entry : Entry) : Except LoadError Loading := do
  let label ← l.requiredLabel place entry
  let a ← l.reference place entry "endpoint_a" .point
  let b ← l.reference place entry "endpoint_b" .point
  let center ← l.reference place entry "center" .point
  .ok (l.add label fun id => .arc id a b center)

-- The position of a pin: the one given, else that of the point now.
def pinPosition (l : Loading) (place : Place) (entry : Entry) (point : Handle) :
    Except LoadError (Point Float) :=
  match entry.get? "position" with
  | some value => toPosition place value
  | none =>
      match l.builder.positionOf point with
      | .ok position => .ok position
      | .error error => .error (.lookup error)

def toAxis (place : Place) (value : Value) : Except LoadError Axis :=
  match value.word?.bind Axis.ofName? with
  | some axis => .ok axis
  | none => .error (.unknownAxis place value)

def loadConstraint (l : Loading) (place : Place) (entry : Entry) : Except LoadError Loading := do
  let label ← l.label place entry
  match (entry.get "type").word? with
  | some "fixed" => do
      let point ← l.reference place entry "point" .point
      let position ← pinPosition l place entry point
      .ok (l.add label fun id => .fixed id point position)
  | some "axis_aligned" => do
      let axis ← toAxis place (entry.get "axis")
      let a ← l.reference place entry "point_a" .point
      let b ← l.reference place entry "point_b" .point
      .ok (l.add label fun id => .axisAligned id axis a b)
  | some "point_point_distance" => do
      let a ← l.reference place entry "point_a" .point
      let b ← l.reference place entry "point_b" .point
      let value ← toFloat place (entry.get "distance")
      let placement ← toPlacement place (entry.get "cosmetic")
      let measureOnly := (entry.get "measure_only").truthy
      .ok (l.add label fun id => .distance id a b value placement measureOnly)
  | some "point_line_distance" => do
      let point ← l.reference place entry "point" .point
      let line ← l.reference place entry "line" .line
      let value ← toFloat place (entry.get "distance")
      let placement ← toPlacement place (entry.get "cosmetic")
      let measureOnly := (entry.get "measure_only").truthy
      .ok (l.add label fun id => .lineDistance id point line value placement measureOnly)
  | some "point_on_line" => do
      let point ← l.reference place entry "point" .point
      let line ← l.reference place entry "line" .line
      .ok (l.add label fun id => .pointOnLine id point line)
  | some "point_on_arc" => do
      let point ← l.reference place entry "point" .point
      let arc ← l.reference place entry "arc" .arc
      .ok (l.add label fun id => .pointOnArc id point arc)
  | _ => .error (.unknownType place (entry.get "type"))

-- The entries of one list in order.
def loadList (document : Entry) (key : String)
    (loadEntry : Loading → Place → Entry → Except LoadError Loading) (l : Loading) :
    Except LoadError Loading := do
  let found ← entries document key
  found.zipIdx.foldlM (fun l entry => loadEntry l ⟨key, entry.2⟩ entry.1) l

-- A sketch from its document. Points come first, then lines, arcs and constraints, so that what an
-- entry refers to is there before it.
def load : Value → Except LoadError Sketch
  | .obj document => do
      let l ← loadList document "points" loadPoint .empty
      let l ← loadList document "lines" loadLine l
      let l ← loadList document "arcs" loadArc l
      let l ← loadList document "constraints" loadConstraint l
      .ok l.builder.build
  | _ => .error .notAnObject

end PlaneSketch.Document

import PlaneSketch.Sketch.Builder

namespace PlaneSketch

-- A number as a caller gives it.
inductive Numeral where
  | double (x : Float)
  -- Of any size; it is rounded to a double.
  | integer (n : Int)
  -- Something that does not read as a number, with what is said about it.
  | other (complaint : Text)

namespace Numeral

-- Why what is given is no number.
inductive Error where
  | tooLarge
  | notANumber (complaint : Text)

def Error.message : Error → Text
  | tooLarge => "int too large to convert to float"
  | notANumber complaint => complaint

def read : Numeral → Except Error Float
  | double x => .ok x
  | integer n =>
      let x := Float.ofInt n
      if x.isInf then .error .tooLarge else .ok x
  | other complaint => .error (.notANumber complaint)

end Numeral

namespace Builder

-- Whether an operation makes a new element.
def Op.adds : Op → Bool
  | .movePoint .. => false
  | .remove _ => false
  | _ => true

-- An operation as it is called, with its numbers as they are given.
inductive Call where
  | addPoint (x y : Numeral) (label : Option Text)
  | movePoint (id : Handle) (x y : Numeral)
  | fixAt (point : Handle) (x y : Numeral) (label : Option Text)
  | distance (a b : Handle) (value : Numeral) (placement : Placement Float) (measureOnly : Bool)
      (label : Option Text)
  | lineDistance (point line : Handle) (value : Numeral) (placement : Placement Float)
      (measureOnly : Bool) (label : Option Text)
  -- One that takes no numbers, or only doubles.
  | plain (op : Op)

namespace Call

-- The operation that is called. Coordinates are read in order, and the first that is no number
-- refuses the call.
def read : Call → Except Numeral.Error Op
  | addPoint x y label => do
      let x ← x.read
      let y ← y.read
      .ok (.addPoint ⟨x, y⟩ label)
  | movePoint id x y => do
      let x ← x.read
      let y ← y.read
      .ok (.movePoint id ⟨x, y⟩)
  | fixAt point x y label => do
      let x ← x.read
      let y ← y.read
      .ok (.fix point (some ⟨x, y⟩) label)
  | distance a b value placement measureOnly label => do
      let value ← value.read
      .ok (.distance a b value placement measureOnly label)
  | lineDistance point line value placement measureOnly label => do
      let value ← value.read
      .ok (.lineDistance point line value placement measureOnly label)
  | plain op => .ok op

def adds : Call → Bool
  | movePoint .. => false
  | plain op => op.adds
  | _ => true

-- The handle under which a call puts a point.
def target (call : Call) : Option Handle :=
  match call.read with
  | .error _ => none
  | .ok (.movePoint id _) => some id
  | .ok _ => none

-- The label of a call that takes the next handle before the last of what it is given is looked at.
-- A pin is looked at first, and a point that is moved takes no handle.
def early : Call → Option (Option Text)
  | addPoint _ _ label => some label
  | distance _ _ _ _ _ label => some label
  | lineDistance _ _ _ _ _ label => some label
  | plain (.axisAligned _ _ _ label) => some label
  | _ => none

end Call

inductive CallError where
  | operation (error : BuilderError)
  | numeral (error : Numeral.Error)

def CallError.message : CallError → Text
  | operation error => error.message
  | numeral error => error.message

-- What is left of a call that is refused.
def reserve (b : Builder) (call : Call) : Builder :=
  match call.early with
  | some label => (b.allocate label).2
  | none => b

-- One call: its numbers are read, some of them only after a handle and a label are taken, and the
-- operation is carried out.
def perform (b : Builder) (call : Call) : Except CallError (Option Handle) × Builder :=
  match call.read with
  | .error error => (.error (.numeral error), b.reserve call)
  | .ok op =>
      let (answer, next) := b.step op
      (answer.mapError .operation, next)

end Builder

end PlaneSketch

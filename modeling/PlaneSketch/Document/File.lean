import PlaneSketch.Document.Dump
import PlaneSketch.Document.Load
import PlaneSketch.Json.Reader
import PlaneSketch.Json.Writer

namespace PlaneSketch.Document

-- Line ends of other systems become plain line ends.
def unifyLineEnds : List Char → List Char
  | '\r' :: '\n' :: rest => '\n' :: unifyLineEnds rest
  | '\r' :: rest => '\n' :: unifyLineEnds rest
  | c :: rest => c :: unifyLineEnds rest
  | [] => []

-- Why a file does not hold a sketch.
inductive FileError where
  | malformed (file : Text) (expected : Json.Expectation) (location : Json.Location)
  | longInteger (digits : Nat)
  | tooDeep (nest : Json.Nest)
  | document (error : LoadError)

def FileError.message : FileError → Text
  | malformed file expected location =>
      file ++ ": invalid JSON (" ++ (Json.ReadError.malformed expected location).message ++ ")"
  | longInteger digits => (Json.ReadError.longInteger digits).message
  | tooDeep nest => (Json.ReadError.tooDeep nest).message
  | document error => error.message

def FileError.ofRead (file : Text) : Json.ReadError → FileError
  | .malformed expected location => .malformed file expected location
  | .longInteger digits => .longInteger digits
  | .tooDeep nest => .tooDeep nest

-- The sketch in the text of a file.
def readText (file : Text) (text : String) : Except FileError Sketch :=
  match Json.parse (String.ofList (unifyLineEnds text.toList)) with
  | .error error => .error (.ofRead file error)
  | .ok value =>
      match load value with
      | .error error => .error (.document error)
      | .ok sketch => .ok sketch

-- The text of a file that holds the sketch.
def writeText (s : Sketch) : Except Text.DigitsError String := do
  .ok (Json.render (← dump s))

end PlaneSketch.Document

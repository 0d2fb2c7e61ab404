import PlaneSketch.Cli.Arguments
import PlaneSketch.Cli.Files
import PlaneSketch.Cli.Help
import PlaneSketch.Cli.Level
import PlaneSketch.Cli.Report
import PlaneSketch.Document.File
import PlaneSketch.Sketch.Check
import PlaneSketch.Solve.Log

namespace PlaneSketch.Cli

open Trace (Level Record)

-- The files a run works on.
structure Disk (m : Type → Type) where
  read : Text → m (Except FileFailure String)
  -- Makes the directories on the way to a file.
  makeWay : Path → m (Except FileFailure Unit)
  write : Path → String → m (Except FileFailure Unit)

-- What a run does not handle.
inductive Crash where
  | hugeInteger
  | tooDeep (nest : Json.Nest)
  | file (failure : FileFailure)
  | level (error : LevelError)
  -- The count of passes was asked for without a count.
  | noPasses
  | lookup (error : LookupError)
  | describe (error : DescribeError)
  | digits (error : Text.DigitsError)

def Crash.message : Crash → String
  | hugeInteger => Document.LoadError.hugeInteger.message
  | tooDeep nest => (Json.ReadError.tooDeep nest).message
  | file failure => failure.message
  | level error => error.message
  | noPasses => "'<' not supported between instances of 'list' and 'int'"
  | lookup error => error.message
  | describe error => error.message
  | digits error => error.message

inductive Ending where
  | exit (code : Nat)
  | crash (cause : Crash)

structure Outcome where
  ending : Ending
  output : Text
  errors : Text

def mainLogger : String := "sketch_solver.__main__"

def documentLogger : String := "sketch_solver.io"

def info (message : Text) : Record := ⟨.info, mainLogger, message⟩

def loaded (s : Sketch) : Record :=
  ⟨.info, documentLogger, "Loaded sketch with " ++ toString s.elements.length ++ " element(s)"⟩

-- What comes of preparing a run: the sketch and the options, a complaint, or a crash.
inductive Prepared where
  | ready (sketch : Sketch) (options : Solve.Options Float)
  | refused (message : Text)
  | crashed (cause : Crash)

-- From the text of the file to a sketch that can be solved, with the records made on the way.
def prepare (request : Request) (content : Except FileFailure String) : Prepared × List Record :=
  match content with
  | .error failure => (.refused failure.message, [])
  | .ok text =>
      match Document.readText request.path text with
      | .error (.document .hugeInteger) => (.crashed .hugeInteger, [])
      | .error (.tooDeep nest) => (.crashed (.tooDeep nest), [])
      | .error error => (.refused error.message, [])
      | .ok sketch =>
          match sketch.check with
          | .error error => (.refused error.message, [loaded sketch])
          | .ok () =>
              match request.maxPasses with
              | none => (.crashed .noPasses, [loaded sketch])
              | some maxPasses =>
                  match { Solve.Options.standard with maxPasses }.check with
                  | .error error => (.refused error.message, [loaded sketch])
                  | .ok options => (.ready sketch options, [loaded sketch])

-- Records under a threshold as text.
def recordText (threshold : Level) (records : List Record) : Text :=
  (Trace.visible threshold records).flatMap Record.line

variable {m : Type → Type} [Monad m]

-- Writes the solved sketch where the request wants it. The directories are made before the
-- document.
def save (disk : Disk m) (threshold : Level) (target : Text) (solution : Solve.Solution)
    (soFar : Outcome) : m Outcome := do
  let path := Path.ofText target
  let errors := soFar.errors ++
    recordText threshold [info ("Writing solved sketch to " ++ path.text)]
  let crash (cause : Crash) : Outcome := { soFar with ending := .crash cause, errors := errors }
  match ← disk.makeWay path with
  | .error failure => return crash (.file failure)
  | .ok () =>
      match Document.writeText solution.updated with
      | .error error => return crash (.digits error)
      | .ok text =>
          match ← disk.write path text with
          | .error failure => return crash (.file failure)
          | .ok () =>
              return { soFar with
                output := soFar.output ++ "Solved sketch written to " ++ path.text ++ "\n"
                errors := errors }

-- Solves a prepared sketch and reports on it.
def solveAndReport (disk : Disk m) (threshold : Level) (request : Request) (sketch : Sketch)
    (options : Solve.Options Float) (errors : Text) : m Outcome := do
  let (result, records) := Solve.Log.solve threshold .standard sketch options
  let errors := errors ++ recordText threshold (info "Validation succeeded" :: records)
  match result with
  | .error error => return ⟨.crash (.lookup error), "", errors⟩
  | .ok solution =>
      match report sketch solution request.showFacts with
      | .error error => return ⟨.crash (.describe error), "", errors⟩
      | .ok output =>
          let outcome : Outcome := ⟨.exit 0, output, errors⟩
          match request.outputPath with
          | some target =>
              if target.isEmpty then return outcome
              else save disk threshold target solution outcome
          | none => return outcome

-- One run of a request.
def runRequest (disk : Disk m) (request : Request) : m Outcome := do
  match levelOf request.logLevel with
  | .error error => return ⟨.crash (.level error), "", ""⟩
  | .ok threshold =>
      let content ← disk.read request.path
      let (prepared, records) := prepare request content
      let errors := recordText threshold
        (info ("Reading sketch from " ++ request.path) :: records)
      match prepared with
      | .crashed cause => return ⟨.crash cause, "", errors⟩
      | .refused message =>
          return ⟨.exit 1, "", errors ++ recordText threshold [⟨.error, mainLogger, message⟩]⟩
      | .ready sketch options => solveAndReport disk threshold request sketch options errors

-- One run with the given arguments.
def run (disk : Disk m) (arguments : List Text) : m Outcome :=
  match parse arguments with
  | .error .help => return ⟨.exit 0, help, ""⟩
  | .error (.usage error) =>
      return ⟨.exit 2, "", usage ++ programName ++ ": error: " ++ error.message ++ "\n"⟩
  | .ok request => runRequest disk request

-- Files in memory.
def memoryDisk : Disk (StateM Files) where
  read path := do
    let files ← get
    return files.read path
  makeWay path := do
    match (← get).makeWay path with
    | .ok files => do
        set files
        return .ok ()
    | .error failure => return .error failure
  write path content := do
    match (← get).write path content with
    | .ok files => do
        set files
        return .ok ()
    | .error failure => return .error failure

end PlaneSketch.Cli

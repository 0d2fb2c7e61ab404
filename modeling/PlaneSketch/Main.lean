import PlaneSketch.Cli.Run

namespace PlaneSketch.Cli

-- A text for the system. Halves of surrogate pairs are written as escapes.
def systemText (text : Text) : String :=
  String.ofList (text.flatMap fun
    | .char c => [c]
    | symbol => Text.numericEscape symbol.codePoint)

-- The failure that an error of the system amounts to.
def failureOf (path : Text) : IO.Error → FileFailure
  | .noFileOrDirectory .. => .notFound path
  | .alreadyExists .. => .alreadyThere path
  | .inappropriateType .. => .isADirectory path
  | _ => .notADirectory path

def attempt {α : Type} (path : Text) (action : IO α) : IO (Except FileFailure α) := do
  match ← action.toBaseIO with
  | .ok value => return .ok value
  | .error error => return .error (failureOf path error)

-- The files of the system.
def systemDisk : Disk IO where
  read path := attempt path (IO.FS.readFile (systemText path))
  makeWay path := attempt path.parent.text (IO.FS.createDirAll (systemText path.parent.text))
  write path content := attempt path.text (IO.FS.writeFile (systemText path.text) content)

end PlaneSketch.Cli

open PlaneSketch.Cli in
def main (arguments : List String) : IO UInt32 := do
  let outcome ← run systemDisk (arguments.map PlaneSketch.Text.ofString)
  IO.eprint (systemText outcome.errors)
  IO.print (systemText outcome.output)
  match outcome.ending with
  | .exit code => return code.toUInt32
  | .crash cause => do
      IO.eprintln cause.message
      return 1

import PlaneSketch.OrderedMap
import PlaneSketch.Text.Encoding

namespace PlaneSketch.Cli

-- Why a file could not be used.
inductive FileFailure where
  | notFound (path : Text)
  | alreadyThere (path : Text)
  | notADirectory (path : Text)
  | isADirectory (path : Text)
  | nameTooLong (path : Text)
  -- Names are kept as bytes.
  | unencodable (cause : Text.Unencodable)
  -- No file has a name with a null character in it.
  | nullCharacter

def FileFailure.message : FileFailure → String
  | notFound path => "[Errno 2] No such file or directory: " ++ Text.quoted path
  | alreadyThere path => "[Errno 17] File exists: " ++ Text.quoted path
  | notADirectory path => "[Errno 20] Not a directory: " ++ Text.quoted path
  | isADirectory path => "[Errno 21] Is a directory: " ++ Text.quoted path
  | nameTooLong path => "[Errno 36] File name too long: " ++ Text.quoted path
  | unencodable cause => cause.message
  | nullCharacter => "embedded null byte"

-- A path cut at its slashes: where it starts, and the names on the way.
structure Path where
  root : Text
  names : List Text

namespace Path

def dot : Text := "."

-- Empty names and single dots lead nowhere and are dropped. Two slashes in front are not the same
-- as one, three and more are.
def ofText (text : Text) : Path :=
  let slashes := (text.takeWhile (· == .char '/')).length
  { root := if slashes = 0 then "" else if slashes = 2 then "//" else "/"
    names := (Text.split '/' text).filter fun name => name ≠ [] ∧ name ≠ dot }

def text (path : Path) : Text :=
  if path.root = [] ∧ path.names = [] then dot
  else path.root ++ Text.join "/" path.names

def parent (path : Path) : Path := { path with names := path.names.dropLast }

end Path

-- What a name stands for.
inductive Node where
  | file (text : String)
  | directory

-- Files by the names that lead to them from the working directory. Names for the directory above
-- and for the top of the tree may stand in front.
structure Files where
  nodes : OrderedMap (List Text) Node

namespace Files

def empty : Files := ⟨.empty⟩

def above : Text := ".."

def top : Text := "/"

-- The working directory, those above it and the top of the tree are always there.
def get? (files : Files) (location : List Text) : Option Node :=
  if location = [top] ∨ location.all (· == above) then some .directory
  else files.nodes.get? location

-- Puts a node where a path leads, with the directories on the way that are not there yet.
def place (files : Files) (path : Path) (node : Node) : Files :=
  let makeWay (files : Files) (depth : Nat) : Files :=
    let location := path.names.take depth
    if (files.get? location).isSome then files
    else ⟨files.nodes.insert location .directory⟩
  let files := (List.range path.names.length).foldl makeWay files
  ⟨files.nodes.insert path.names node⟩

-- One step up.
def up (location : List Text) : List Text :=
  match location.getLast? with
  | none => [above]
  | some name =>
      if name = above then location ++ [above]
      else if name = top then location
      else location.dropLast

-- The most bytes that a name has, and the count of bytes that no path reaches.
def nameLimit : Nat := 255

def pathLimit : Nat := 4096

-- Where a path leads and what is there.
structure Found where
  location : List Text
  node : Option Node

-- Follows names from a location, each of them in a directory. Failures carry the whole path.
def walk (files : Files) (path : Text) : List Text → List Text → Except FileFailure Found
  | location, [] => .ok ⟨location, files.get? location⟩
  | location, name :: rest =>
      match files.get? location with
      | none => .error (.notFound path)
      | some (.file _) => .error (.notADirectory path)
      | some .directory =>
          if nameLimit < Text.byteCount name then .error (.nameTooLong path)
          else walk files path (if name = above then up location else location ++ [name]) rest

-- Follows a path, which first of all must be one.
def follow (files : Files) (text : Text) : Except FileFailure Found :=
  match Text.unencodable? text with
  | some cause => .error (.unencodable cause)
  | none =>
      if .char '\x00' ∈ text then .error .nullCharacter
      else if text = [] then .error (.notFound text)
      else if pathLimit ≤ Text.byteCount text then .error (.nameTooLong text)
      else
        let path := Path.ofText text
        files.walk text (if path.root = [] then [] else [top]) path.names

-- Whether a text asks for a directory: it ends in a slash or a dot.
def asksDirectory (text : Text) : Bool :=
  match (Text.split '/' text).getLast? with
  | some last => last = [] ∨ last = Path.dot
  | none => false

-- The text of a file.
def read (files : Files) (text : Text) : Except FileFailure String := do
  let found ← files.follow text
  match found.node with
  | some .directory => .error (.isADirectory text)
  | some (.file content) =>
      if asksDirectory text then .error (.notADirectory text) else .ok content
  | none => .error (.notFound text)

-- Makes one directory in a directory that is there.
def makeDirectory (files : Files) (path : Path) : Except FileFailure Files := do
  let found ← files.follow path.text
  match found.node with
  | some _ => .error (.alreadyThere path.text)
  | none => .ok ⟨files.nodes.insert found.location .directory⟩

def isDirectory (files : Files) (path : Path) : Bool :=
  match files.follow path.text with
  | .ok ⟨_, some .directory⟩ => true
  | _ => false

-- Makes a directory that may be there already.
def ensureDirectory (files : Files) (path : Path) : Except FileFailure Files :=
  match files.makeDirectory path with
  | .ok files => .ok files
  | .error failure => if files.isDirectory path then .ok files else .error failure

-- Makes a directory and those on the way to it, as many as the path has names at most.
def ensureDirectories (files : Files) (path : Path) : Nat → Except FileFailure Files
  | 0 => files.ensureDirectory path
  | depth + 1 =>
      match files.makeDirectory path with
      | .error (.notFound name) =>
          if path.names = [] then .error (.notFound name)
          else do
            let files ← files.ensureDirectories path.parent depth
            files.ensureDirectory path
      | .error failure => if files.isDirectory path then .ok files else .error failure
      | .ok files => .ok files

-- Makes the directories on the way to a file.
def makeWay (files : Files) (path : Path) : Except FileFailure Files :=
  files.ensureDirectories path.parent path.names.length

-- Writes a file in a directory that is there.
def write (files : Files) (path : Path) (content : String) : Except FileFailure Files := do
  let found ← files.follow path.text
  match found.node with
  | some .directory => .error (.isADirectory path.text)
  | _ => .ok ⟨files.nodes.insert found.location (.file content)⟩

end Files

end PlaneSketch.Cli

import PlaneSketch.Text.Integer
import PlaneSketch.Text.Literal

namespace PlaneSketch.Cli

-- What the program is asked to do. Options that take a value may be given none.
structure Request where
  path : Text
  logLevel : Option Text
  maxPasses : Option Int
  showFacts : Bool
  outputPath : Option Text

-- The options there are.
inductive Flag where
  | help
  | logLevel
  | maxPasses
  | showFacts
  | outputPath
deriving DecidableEq

namespace Flag

-- The spellings of all options in order.
def spellings : List (String × Flag) :=
  [("-h", help), ("--help", help), ("--log-level", logLevel), ("--max-passes", maxPasses),
    ("--show-facts", showFacts), ("--output-path", outputPath)]

-- How an option is named in messages.
def name : Flag → String
  | help => "-h/--help"
  | logLevel => "--log-level"
  | maxPasses => "--max-passes"
  | showFacts => "--show-facts"
  | outputPath => "--output-path"

def takesValue : Flag → Bool
  | help | showFacts => false
  | logLevel | maxPasses | outputPath => true

def ofText? (text : Text) : Option Flag :=
  (spellings.find? fun spelling => Text.ofString spelling.1 = text).map (·.2)

end Flag

-- Why the arguments make no sense.
inductive UsageError where
  | ambiguous (argument : Text) (candidates : List String)
  | expectedValue (flag : Flag)
  | ignoredValue (flag : Flag) (value : Text)
  | notAnInteger (value : Text)
  | missingPath
  | unrecognized (arguments : List Text)

def UsageError.message : UsageError → Text
  | ambiguous argument candidates =>
      "ambiguous option: " ++ argument ++ " could match " ++ String.intercalate ", " candidates
  | expectedValue flag => "argument " ++ flag.name ++ ": expected one argument"
  | ignoredValue flag value =>
      "argument " ++ flag.name ++ ": ignored explicit argument " ++ Text.quoted value
  | notAnInteger value =>
      "argument " ++ Flag.maxPasses.name ++ ": invalid int value: " ++ Text.quoted value
  | missingPath => "the following arguments are required: path"
  | unrecognized arguments => "unrecognized arguments: " ++ Text.join " " arguments

-- The mark behind which every word is plain.
def separatorMark : Text := "--"

-- One word of the command line.
inductive Word where
  | plain (text : Text)
  | separator
  -- A value may be attached, behind an equals sign or behind the letter of a short option.
  | option (text : Text) (flag : Flag) (short : Bool) (attached : Option Text)
  | unknownOption (text : Text)

def Word.text : Word → Text
  | plain text => text
  | separator => separatorMark
  | option text .. => text
  | unknownOption text => text

-- What looks like a negative number is not an option.
def looksNegative (text : Text) : Bool :=
  let isDigit : Symbol → Bool
    | .char c => (Text.digitValue? c).isSome
    | .half _ => false
  let body := if text.getLast? = some (.char '\n') then text.dropLast else text
  match body with
  | .char '-' :: rest =>
      match rest.dropWhile isDigit with
      | [] => !rest.isEmpty
      | .char '.' :: digits => !digits.isEmpty && digits.all isDigit
      | _ => false
  | _ => false

-- The two sides of the first equals sign, if there is one.
def splitEquals (text : Text) : Text × Option Text :=
  match text.dropWhile (· != .char '=') with
  | [] => (text, none)
  | _ :: value => (text.takeWhile (· != .char '='), some value)

def isLong (text : Text) : Bool := text.take 2 = separatorMark

-- A long option may be cut short as long as only one starts that way; a value may follow the letter
-- of the short option.
def abbreviations (text : Text) : List (String × Flag × Option Text) :=
  let (front, attached) := splitEquals text
  if isLong text then
    Flag.spellings.filterMap fun spelling =>
      if front.isPrefixOf (Text.ofString spelling.1) then some (spelling.1, spelling.2, attached)
      else none
  else if text.take 2 = Text.ofString "-h" then [("-h", .help, some (text.drop 2))]
  else []

def classify (text : Text) : Except UsageError Word :=
  if text.head? ≠ some (.char '-') ∨ text.length = 1 then .ok (.plain text)
  else
    match Flag.ofText? text with
    | some flag => .ok (.option text flag (!isLong text) none)
    | none =>
        let (front, attached) := splitEquals text
        match attached, Flag.ofText? front with
        | some value, some flag => .ok (.option text flag (!isLong text) (some value))
        | _, _ =>
            match abbreviations text with
            | [(_, flag, attached)] => .ok (.option text flag (!isLong text) attached)
            | [] =>
                if looksNegative text || .char ' ' ∈ text then .ok (.plain text)
                else .ok (.unknownOption text)
            | several => .error (.ambiguous text (several.map (·.1)))

def classifyAll : List Text → Except UsageError (List Word)
  | [] => .ok []
  | text :: rest =>
      if text = separatorMark then .ok (.separator :: rest.map .plain)
      else do
        let word ← classify text
        let words ← classifyAll rest
        .ok (word :: words)

-- The request as far as it has been read.
structure Reading where
  path : Option Text := none
  logLevel : Option Text := some "INFO"
  maxPasses : Option Int := some 50
  showFacts : Bool := false
  outputPath : Option Text := none
  unrecognized : List Text := []

-- How reading can end early.
inductive Stop where
  | help
  | usage (error : UsageError)

-- An option that takes a value, with the value or with none.
def Reading.take (r : Reading) (flag : Flag) (value : Option Text) : Except Stop Reading :=
  match flag with
  | .help => .error .help
  | .showFacts => .ok { r with showFacts := true }
  | .logLevel => .ok { r with logLevel := value }
  | .outputPath => .ok { r with outputPath := value }
  | .maxPasses =>
      match value with
      | none => .ok { r with maxPasses := none }
      | some text =>
          match Text.integer? text with
          | some n => .ok { r with maxPasses := some n }
          | none => .error (.usage (.notAnInteger text))

-- Letters behind the short option are short options themselves, and there is only one.
def bundled : Text → Stop
  | [] => .help
  | .char 'h' :: rest => bundled rest
  | rest => .usage (.ignoredValue .help rest)

-- An option with a value attached to it. The separator is no value.
def Reading.takeAttached (r : Reading) (flag : Flag) (short : Bool) (attached : Text) :
    Except Stop Reading :=
  if flag.takesValue then r.take flag (if attached = separatorMark then none else some attached)
  else if short ∧ attached ≠ [] then .error (bundled attached)
  else .error (.usage (.ignoredValue flag attached))

-- The path takes the first plain word, together with a separator on either side of it.
def takePath : List Word → Option (Text × List Word)
  | .separator :: .plain text :: rest => some (text, rest)
  | .plain text :: .separator :: rest => some (text, rest)
  | .plain text :: rest => some (text, rest)
  | _ => none

def Word.isOption : Word → Bool
  | option .. => true
  | unknownOption .. => true
  | _ => false

-- The words behind the last option: the path, if it is still to come, and what nobody asked for.
def Reading.takeRest (r : Reading) (words : List Word) : Reading :=
  match r.path, takePath words with
  | none, some (path, rest) =>
      { r with path := some path, unrecognized := r.unrecognized ++ rest.map Word.text }
  | _, _ => { r with unrecognized := r.unrecognized ++ words.map Word.text }

-- Word after word. The count of words bounds the steps, since each takes one at least.
def Reading.takeAll (r : Reading) : Nat → List Word → Except Stop Reading
  | 0, words => .ok (r.takeRest words)
  | fuel + 1, words =>
      if words.any Word.isOption then
        match words with
        | [] => .ok r
        | .option _ flag short (some attached) :: rest => do
            let r ← r.takeAttached flag short attached
            r.takeAll fuel rest
        | .option _ flag _ none :: rest =>
            if flag.takesValue then
              match rest with
              | .plain value :: rest => do
                  let r ← r.take flag (some value)
                  r.takeAll fuel rest
              | _ => .error (.usage (.expectedValue flag))
            else do
              let r ← r.take flag none
              r.takeAll fuel rest
        | .unknownOption text :: rest =>
            Reading.takeAll { r with unrecognized := r.unrecognized ++ [text] } fuel rest
        | word :: rest =>
            match r.path, takePath words with
            | none, some (path, rest) => Reading.takeAll { r with path := some path } fuel rest
            | _, _ =>
                Reading.takeAll { r with unrecognized := r.unrecognized ++ [word.text] } fuel rest
      else .ok (r.takeRest words)

-- A request from the words of the command line.
def parse (arguments : List Text) : Except Stop Request :=
  match classifyAll arguments with
  | .error error => .error (.usage error)
  | .ok words => do
      let r ← Reading.takeAll {} words.length words
      match r.path, r.unrecognized with
      | none, _ => .error (.usage .missingPath)
      | some path, [] => .ok ⟨path, r.logLevel, r.maxPasses, r.showFacts, r.outputPath⟩
      | some _, words => .error (.usage (.unrecognized words))

end PlaneSketch.Cli

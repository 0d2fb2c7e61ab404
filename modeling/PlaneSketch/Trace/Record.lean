import PlaneSketch.Trace.Value

namespace PlaneSketch.Trace

inductive Level where
  | debug
  | info
  | warning
  | error
  | critical
deriving DecidableEq

namespace Level

def all : List Level := [debug, info, warning, error, critical]

def name : Level → String
  | debug => "DEBUG"
  | info => "INFO"
  | warning => "WARNING"
  | error => "ERROR"
  | critical => "CRITICAL"

def rank : Level → Nat
  | debug => 10
  | info => 20
  | warning => 30
  | error => 40
  | critical => 50

def ofName? (text : String) : Option Level := all.find? fun level => level.name = text

-- Whether records of this level are kept under a threshold.
def passes (level threshold : Level) : Bool := threshold.rank ≤ level.rank

end Level

-- A message of some part of the program.
structure Record where
  level : Level
  logger : String
  message : Text

def Record.line (record : Record) : Text :=
  record.level.name ++ ":" ++ record.logger ++ ":" ++ record.message ++ "\n"

-- The records that a threshold lets through.
def visible (threshold : Level) (records : List Record) : List Record :=
  records.filter fun record => record.level.passes threshold

-- A call that is traced.
structure Call where
  logger : String
  name : Text
  -- The text behind the name on entering.
  arguments : Text
  -- Whether the result is shown on leaving.
  showResult : Bool

-- The records of a call around those made inside it; a call without a result has failed. Calls are
-- traced only where nothing is filtered out.
def Call.records (call : Call) (threshold : Level) (inside : List Record)
    (result : Option Value) : List Record :=
  if Level.debug.passes threshold then
    let leaving : Record :=
      match result with
      | none => ⟨.error, call.logger, "Exception in " ++ call.name⟩
      | some value =>
          ⟨.debug, call.logger,
            "Exiting " ++ call.name ++ if call.showResult then " -> " ++ value.short else ""⟩
    ⟨.debug, call.logger, "Entering " ++ call.name ++ call.arguments⟩ :: inside ++ [leaving]
  else inside

def Call.withArguments (logger : String) (name : Text) (arguments : Arguments) : Call :=
  ⟨logger, name, " (" ++ arguments.short ++ ")", true⟩

-- What a name in a module stands for.
inductive Entry where
  -- A function with the module it was defined in.
  | function (module : Option Text)
  | other

-- The names whose functions are traced: those defined in the module itself, unless they are to be
-- skipped.
def traced (module : Option Text) (entries : List (Text × Entry)) (skip : List Text) :
    List Text :=
  entries.filterMap fun
    | (name, .function home) => if home = module ∧ name ∉ skip then some name else none
    | _ => none

-- Tracing of a module was switched on.
def enabled (logger : String) (module : Option Text) : Record :=
  let name : Text :=
    match module with
    | none | some [] => "<unknown module>"
    | some name => name
  ⟨.debug, logger, "Verbose debug logging enabled for " ++ name⟩

end PlaneSketch.Trace

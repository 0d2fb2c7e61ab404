import PlaneSketch.Text.Literal
import PlaneSketch.Trace.Record

namespace PlaneSketch.Cli

open Trace (Level)

-- Why the wanted level is none.
inductive LevelError where
  | noName
  -- Names that stand for something other than a level.
  | layout
  | styles

-- The layout of records and the three ways to write it.
def recordLayout : String := "%(levelname)s:%(name)s:%(message)s"

def styles : String :=
  "\x7b'%': (<class 'logging.PercentStyle'>, '" ++ recordLayout ++ "'), " ++
  "'\x7b': (<class 'logging.StrFormatStyle'>, " ++
  "'\x7blevelname\x7d:\x7bname\x7d:\x7bmessage\x7d'), " ++
  "'$': (<class 'logging.StringTemplateStyle'>, " ++
  "'$\x7blevelname\x7d:$\x7bname\x7d:$\x7bmessage\x7d')\x7d"

def LevelError.message : LevelError → String
  | noName => "'list' object has no attribute 'upper'"
  | layout => "Unknown level: " ++ Text.quoted recordLayout
  | styles => "Level not an integer or a valid string: " ++ Cli.styles

-- The capital form of the letters in names of levels. Beside the plain ones there are a small i
-- without a dot, a long s and two ways to write s and t in one.
def capital (c : Char) : List Char :=
  if c.toNat = 0x131 then ['I']
  else if c.toNat = 0x17f then ['S']
  else if c.toNat = 0xfb05 ∨ c.toNat = 0xfb06 then ['S', 'T']
  else [c.toUpper]

def inCapitals (cs : List Char) : String := String.ofList (cs.flatMap capital)

-- The level of a name, in small or capital letters. A name that means nothing stands for the level
-- of information.
def levelOf : Option Text → Except LevelError Level
  | none => .error .noName
  | some name =>
      match (Text.chars? name).map inCapitals with
      | some "CRITICAL" | some "FATAL" => .ok .critical
      | some "ERROR" => .ok .error
      | some "WARNING" | some "WARN" => .ok .warning
      | some "DEBUG" | some "NOTSET" => .ok .debug
      | some "BASIC_FORMAT" => .error .layout
      | some "_STYLES" => .error .styles
      | _ => .ok .info

end PlaneSketch.Cli

namespace PlaneSketch.Json

-- What a reader can stumble over.
inductive Expectation where
  | value
  | propertyName
  | colon
  | comma
  | endOfText
  | closingQuote
  | printable
  | escape
  | unicodeEscape
  | noByteOrderMark

namespace Expectation

def message : Expectation → String
  | value => "Expecting value"
  | propertyName => "Expecting property name enclosed in double quotes"
  | colon => "Expecting ':' delimiter"
  | comma => "Expecting ',' delimiter"
  | endOfText => "Extra data"
  | closingQuote => "Unterminated string starting at"
  | printable => "Invalid control character at"
  | escape => "Invalid \\escape"
  | unicodeEscape => "Invalid \\uXXXX escape"
  | noByteOrderMark => "Unexpected UTF-8 BOM (decode using utf-8-sig)"

end Expectation

-- What holds other values.
inductive Nest where
  | list
  | object

def Nest.name : Nest → String
  | list => "array"
  | object => "object"

-- Where reading stopped, by the count of characters from there to the end, or what is too large
-- to be read at all.
inductive Fault where
  | stopped (expected : Expectation) (left : Nat)
  | longInteger (digits : Nat)
  | tooDeep (nest : Nest)

-- Integers with more digits than this are refused.
def integerDigitLimit : Nat := 4300

-- Values inside more values than this are refused.
def depthLimit : Nat := 990

-- A position in a text: line and column count from one, the offset from zero.
structure Location where
  line : Nat
  column : Nat
  offset : Nat

def Location.ofOffset (text : List Char) (offset : Nat) : Location :=
  let before := text.take offset
  { line := before.count '\n' + 1
    column := (before.reverse.takeWhile (· != '\n')).length + 1
    offset := offset }

-- Why a text is not a document.
inductive ReadError where
  | malformed (expected : Expectation) (location : Location)
  | longInteger (digits : Nat)
  | tooDeep (nest : Nest)

def ReadError.message : ReadError → String
  | malformed expected location =>
      expected.message ++ ": line " ++ toString location.line ++ " column " ++
        toString location.column ++ " (char " ++ toString location.offset ++ ")"
  | longInteger digits =>
      "Exceeds the limit (" ++ toString integerDigitLimit ++
        " digits) for integer string conversion: value has " ++ toString digits ++
        " digits; use sys.set_int_max_str_digits() to increase the limit"
  | tooDeep nest =>
      "maximum recursion depth exceeded while decoding a JSON " ++ nest.name ++
        " from a unicode string"

def Fault.locate (text : List Char) : Fault → ReadError
  | stopped expected left => .malformed expected (.ofOffset text (text.length - left))
  | longInteger digits => .longInteger digits
  | tooDeep nest => .tooDeep nest

end PlaneSketch.Json

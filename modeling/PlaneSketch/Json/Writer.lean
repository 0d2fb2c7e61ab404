import PlaneSketch.Json.Value

namespace PlaneSketch.Json

-- A code point beyond four hexadecimal digits is written as a surrogate pair.
def unicodeEscape (n : Nat) : List Char :=
  if n < 0x10000 then '\\' :: 'u' :: Text.hex 4 n
  else
    '\\' :: 'u' :: Text.hex 4 (0xD800 + (n - 0x10000) / 0x400) ++
      '\\' :: 'u' :: Text.hex 4 (0xDC00 + (n - 0x10000) % 0x400)

-- Everything but printable ASCII is escaped.
def escapeChar (c : Char) : List Char :=
  if c = '"' ∨ c = '\\' then ['\\', c]
  else if c = '\n' then ['\\', 'n']
  else if c = '\r' then ['\\', 'r']
  else if c = '\t' then ['\\', 't']
  else if c = Char.ofNat 8 then ['\\', 'b']
  else if c = Char.ofNat 12 then ['\\', 'f']
  else if ' ' ≤ c ∧ c ≤ '~' then [c]
  else unicodeEscape c.toNat

def escapeSymbol : Symbol → List Char
  | .char c => escapeChar c
  | .half offset => unicodeEscape (Symbol.half offset).codePoint

def writeText (text : Text) : String :=
  String.ofList ('"' :: text.flatMap escapeSymbol ++ ['"'])

-- Two blanks for each level.
def indentation (level : Nat) : String := String.ofList (List.replicate (2 * level) ' ')

-- Parts on lines of their own, one level deeper than the brackets around them.
def block (level : Nat) (opening closing : String) (parts : List String) : String :=
  if parts.isEmpty then opening ++ closing
  else
    opening ++ "\n" ++
      String.intercalate ",\n" (parts.map fun part => indentation (level + 1) ++ part) ++
      "\n" ++ indentation level ++ closing

mutual

def writeValue (level : Nat) : Value → String
  | .null => "null"
  | .bool true => "true"
  | .bool false => "false"
  | .int n => toString n
  | .float x => Decimal.stored x
  | .str s => writeText s
  | .arr items => block level "[" "]" (writeItems (level + 1) items)
  | .obj members => block level "\x7b" "\x7d" (writeMembers (level + 1) members)

def writeItems (level : Nat) : List Value → List String
  | [] => []
  | item :: rest => writeValue level item :: writeItems level rest

def writeMembers (level : Nat) : List (Text × Value) → List String
  | [] => []
  | (name, value) :: rest =>
      (writeText name ++ ": " ++ writeValue level value) :: writeMembers level rest

end

-- A document as the text of a file.
def render (value : Value) : String := writeValue 0 value ++ "\n"

end PlaneSketch.Json

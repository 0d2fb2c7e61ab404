import PlaneSketch.Text.Basic
import PlaneSketch.Text.Printable

namespace PlaneSketch.Text

def hexDigit (n : Nat) : Char := Nat.digitChar (n % 16)

-- The number in the given count of lower case hexadecimal digits.
def hex : Nat → Nat → List Char
  | 0, _ => []
  | count + 1, n => hex count (n / 16) ++ [hexDigit n]

-- The shortest of the three numeric escapes that holds the code point.
def numericEscape (n : Nat) : List Char :=
  if n < 0x100 then '\\' :: 'x' :: hex 2 n
  else if n < 0x10000 then '\\' :: 'u' :: hex 4 n
  else '\\' :: 'U' :: hex 8 n

def escape (quote : Char) : Symbol → List Char
  | .half offset => numericEscape (Symbol.half offset).codePoint
  | .char c =>
      if c = quote ∨ c = '\\' then ['\\', c]
      else if c = '\n' then ['\\', 'n']
      else if c = '\r' then ['\\', 'r']
      else if c = '\t' then ['\\', 't']
      else if isPrintable c then [c]
      else numericEscape c.toNat

-- Single quotes, unless the text holds one and no double quote.
def quoteFor (text : Text) : Char :=
  if .char '\'' ∈ text ∧ .char '"' ∉ text then '"' else '\''

-- A text in quotes with everything escaped that would not show. Nothing but characters remains.
def quoted (text : Text) : String :=
  let quote := quoteFor text
  String.ofList (quote :: text.flatMap (escape quote) ++ [quote])

end PlaneSketch.Text

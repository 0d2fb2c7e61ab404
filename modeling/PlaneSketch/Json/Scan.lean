import PlaneSketch.Json.Fault
import PlaneSketch.Json.Value

namespace PlaneSketch.Json

-- Something read, with the rest of the text.
abbrev Scanned (α : Type) := α × List Char

-- Scanning fails here, in front of the given rest of the text.
def expected {α : Type} (what : Expectation) (rest : List Char) : Except Fault α :=
  .error (.stopped what rest.length)

def isSpace (c : Char) : Bool := c == ' ' || c == '\t' || c == '\n' || c == '\r'

def skipSpace (cs : List Char) : List Char := cs.dropWhile isSpace

def hexValue? (c : Char) : Option Nat :=
  if '0' ≤ c ∧ c ≤ '9' then some (c.toNat - '0'.toNat)
  else if 'a' ≤ c ∧ c ≤ 'f' then some (c.toNat - 'a'.toNat + 10)
  else if 'A' ≤ c ∧ c ≤ 'F' then some (c.toNat - 'A'.toNat + 10)
  else none

def hexValues? (digits : List Char) : Option Nat :=
  digits.foldl (fun n c => n.bind fun n => (hexValue? c).map (16 * n + ·)) (some 0)

def isHighSurrogate (n : Nat) : Bool := 0xD800 ≤ n && n < 0xDC00

def isLowSurrogate (n : Nat) : Bool := 0xDC00 ≤ n && n < 0xE000

-- After the `u` of an escape: four digits and, for the first half of a surrogate pair, the escape
-- of the other half. A character must follow the digits, since the text is still open.
def scanUnicode (cs : List Char) : Except Fault (Scanned Symbol) :=
  match cs with
  | a :: b :: c :: d :: e :: rest =>
      match hexValues? [a, b, c, d] with
      | none => .error (.stopped .unicodeEscape (cs.length + 1))
      | some high =>
          match isHighSurrogate high, e :: rest with
          | true, '\\' :: 'u' :: p :: q :: r :: s :: next :: more =>
              match hexValues? [p, q, r, s] with
              | none => .error (.stopped .unicodeEscape (more.length + 6))
              | some low =>
                  if isLowSurrogate low then
                    .ok (.char (Char.ofNat (0x10000 + (high - 0xD800) * 0x400 + (low - 0xDC00))),
                      next :: more)
                  else .ok (.ofUnit high, e :: rest)
          | _, _ => .ok (.ofUnit high, e :: rest)
  | _ => .error (.stopped .unicodeEscape (cs.length + 1))

-- The character after a backslash that stands for another one.
def simpleEscape? : Char → Option Char
  | '"' => some '"'
  | '\\' => some '\\'
  | '/' => some '/'
  | 'b' => some (Char.ofNat 8)
  | 'f' => some (Char.ofNat 12)
  | 'n' => some '\n'
  | 'r' => some '\r'
  | 't' => some '\t'
  | _ => none

-- The rest of a quoted text. What was read so far stands reversed; `opening` counts the characters
-- from the opening quote to the end.
def scanText (opening : Nat) : Nat → Text → List Char → Except Fault (Scanned Text)
  | 0, _, _ => .error (.stopped .closingQuote opening)
  | _ + 1, _, [] => .error (.stopped .closingQuote opening)
  | _ + 1, read, '"' :: rest => .ok (read.reverse, rest)
  | _ + 1, _, ['\\'] => .error (.stopped .closingQuote opening)
  | fuel + 1, read, '\\' :: 'u' :: rest =>
      match scanUnicode rest with
      | .error fault => .error fault
      | .ok (symbol, rest) => scanText opening fuel (symbol :: read) rest
  | fuel + 1, read, '\\' :: escaped :: rest =>
      match simpleEscape? escaped with
      | none => .error (.stopped .escape (rest.length + 2))
      | some c => scanText opening fuel (.char c :: read) rest
  | fuel + 1, read, c :: rest =>
      if c.toNat ≤ 0x1f then expected .printable (c :: rest)
      else scanText opening fuel (.char c :: read) rest

def digitsValue (digits : List Char) : Nat :=
  digits.foldl (fun n c => 10 * n + (c.toNat - '0'.toNat)) 0

-- The whole part of a number: a zero, or digits that do not start with one.
def scanWhole : List Char → Option (List Char × List Char)
  | '0' :: rest => some (['0'], rest)
  | c :: rest =>
      if c.isDigit then some (c :: rest.takeWhile Char.isDigit, rest.dropWhile Char.isDigit)
      else none
  | [] => none

-- A point counts only if a digit follows.
def scanFraction : List Char → List Char × List Char
  | '.' :: c :: rest =>
      if c.isDigit then (c :: rest.takeWhile Char.isDigit, rest.dropWhile Char.isDigit)
      else ([], '.' :: c :: rest)
  | cs => ([], cs)

-- An exponent mark counts only if a digit follows it, a sign apart.
def scanExponent (cs : List Char) : Option Int × List Char :=
  let digits (sign : Int) (rest : List Char) : Option Int × List Char :=
    match rest.takeWhile Char.isDigit with
    | [] => (none, cs)
    | found => (some (sign * digitsValue found), rest.dropWhile Char.isDigit)
  match cs with
  | [] => (none, cs)
  | c :: rest =>
      if c = 'e' ∨ c = 'E' then
        match rest with
        | '-' :: rest => digits (-1) rest
        | '+' :: rest => digits 1 rest
        | rest => digits 1 rest
      else (none, cs)

-- The double nearest to a decimal.
def decimalFloat (negative : Bool) (digits : Nat) (exponent : Int) : Float :=
  let magnitude := Float.ofScientific digits (exponent < 0) exponent.natAbs
  if negative then -magnitude else magnitude

-- A number is an integer when it has neither a fraction nor an exponent.
def scanNumber (cs : List Char) : Except Fault (Scanned Value) :=
  let negative := cs.head? == some '-'
  match scanWhole (if negative then cs.tail else cs) with
  | none => expected .value cs
  | some (whole, rest) =>
      let (fraction, rest) := scanFraction rest
      let (exponent, rest) := scanExponent rest
      match fraction, exponent with
      | [], none =>
          if integerDigitLimit < whole.length then .error (.longInteger whole.length)
          else
            let n := digitsValue whole
            .ok (.int (if negative then -n else n), rest)
      | _, _ =>
          .ok (.float (decimalFloat negative (digitsValue (whole ++ fraction))
            (exponent.getD 0 - fraction.length)), rest)

end PlaneSketch.Json

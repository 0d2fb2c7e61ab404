import PlaneSketch.Text.Basic

namespace PlaneSketch.Text

-- The zeros of the scripts that write numbers in base ten. The other nine digits follow each.
def decimalZeros : List Nat :=
  [0x30, 0x660, 0x6f0, 0x7c0, 0x966, 0x9e6, 0xa66, 0xae6, 0xb66, 0xbe6, 0xc66, 0xce6, 0xd66, 0xde6,
    0xe50, 0xed0, 0xf20, 0x1040, 0x1090, 0x17e0, 0x1810, 0x1946, 0x19d0, 0x1a80, 0x1a90, 0x1b50,
    0x1bb0, 0x1c40, 0x1c50, 0xa620, 0xa8d0, 0xa900, 0xa9d0, 0xa9f0, 0xaa50, 0xabf0, 0xff10,
    0x104a0, 0x10d30, 0x11066, 0x110f0, 0x11136, 0x111d0, 0x112f0, 0x11450, 0x114d0, 0x11650,
    0x116c0, 0x11730, 0x118e0, 0x11950, 0x11c50, 0x11d50, 0x11da0, 0x16a60, 0x16ac0, 0x16b50,
    0x1d7ce, 0x1d7d8, 0x1d7e2, 0x1d7ec, 0x1d7f6, 0x1e140, 0x1e2f0, 0x1e950, 0x1fbf0]

def digitValue? (c : Char) : Option Nat :=
  (decimalZeros.find? fun start => start ≤ c.toNat && c.toNat < start + 10).map (c.toNat - ·)

-- The blanks that may stand around an integer.
def isBlank (c : Char) : Bool :=
  let n := c.toNat
  (9 ≤ n && n ≤ 13) || n == 0x20 || n == 0x85 || n == 0xa0 || n == 0x1680 ||
    (0x2000 ≤ n && n ≤ 0x200a) || n == 0x2028 || n == 0x2029 || n == 0x202f || n == 0x205f ||
    n == 0x3000

-- Digits, with single low lines between them allowed. The flag tells that a digit must follow.
def digitsValue? : Nat → Bool → List Char → Option Nat
  | n, pending, [] => if pending then none else some n
  | n, pending, c :: rest =>
      match digitValue? c with
      | some d => digitsValue? (10 * n + d) false rest
      | none => if c = '_' ∧ pending = false then digitsValue? n true rest else none

-- How many digits an integer may have, to be read or written.
def digitLimit : Nat := 4300

-- Why an integer is not written out.
inductive DigitsError where
  | tooMany
deriving DecidableEq

def DigitsError.message : DigitsError → String
  | tooMany =>
      "Exceeds the limit (" ++ toString digitLimit ++
        " digits) for integer string conversion; use sys.set_int_max_str_digits() to increase " ++
        "the limit"

-- The first number that has more digits.
@[irreducible] def firstLong : Nat := Nat.pow 10 digitLimit

-- The digits of an integer, with a sign below zero.
def decimal (n : Int) : Except DigitsError String :=
  if n.natAbs < firstLong then .ok (toString n) else .error .tooMany

-- An integer as a person writes it: blanks around it, a sign and low lines are allowed.
def integer? (text : Text) : Option Int := do
  let cs ← chars? text
  let trimmed := ((cs.dropWhile isBlank).reverse.dropWhile isBlank).reverse
  let (negative, digits) :=
    match trimmed with
    | '-' :: rest => (true, rest)
    | '+' :: rest => (false, rest)
    | rest => (false, rest)
  if digitLimit < (digits.filter (· != '_')).length then none
  else (digitsValue? 0 true digits).map fun n => if negative then -(n : Int) else n

end PlaneSketch.Text

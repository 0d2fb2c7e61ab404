import PlaneSketch.Decimal.Shortest

namespace PlaneSketch.Decimal

-- How a number is written once its digits are chosen.
structure Layout where
  -- Exponents from -4 up to this bound are written without an exponent mark.
  positionalBelow : Int
  -- Whole numbers keep a point and a zero.
  wholePoint : Bool
  infinite : String
  notANumber : String

namespace Layout

-- Shortest text: a point or an exponent always shows that the number is not an integer.
def plain : Layout := ⟨16, true, "inf", "nan"⟩

-- The text of a rounded number with at most the given count of digits.
def general (count : Nat) : Layout := ⟨count, false, "inf", "nan"⟩

-- Shortest text in a document.
def document : Layout := ⟨16, true, "Infinity", "NaN"⟩

end Layout

-- The digits as text without trailing zeros, one digit at least.
def Digits.text (d : Digits) : List Char :=
  match (Nat.toDigits 10 d.digits).reverse.dropWhile (· == '0') with
  | [] => ['0']
  | kept => kept.reverse

def zeros (count : Nat) : List Char := List.replicate count '0'

-- An exponent has a sign and at least two digits.
def exponentMark (exponent : Int) : List Char :=
  let digits := Nat.toDigits 10 exponent.natAbs
  'e' :: (if exponent < 0 then '-' else '+') ::
    (if digits.length < 2 then zeros (2 - digits.length) ++ digits else digits)

def fraction (layout : Layout) : List Char → List Char
  | [] => if layout.wholePoint then ['.', '0'] else []
  | digits => '.' :: digits

def Layout.write (layout : Layout) (d : Digits) : List Char :=
  let digits := d.text
  if -4 ≤ d.exponent ∧ d.exponent < layout.positionalBelow then
    if d.exponent < 0 then
      '0' :: '.' :: (zeros ((-d.exponent).toNat - 1) ++ digits)
    else
      let whole := d.exponent.toNat + 1
      digits.take whole ++ zeros (whole - digits.length) ++ fraction layout (digits.drop whole)
  else
    match digits with
    | [] => []
    | first :: [] => first :: exponentMark d.exponent
    | first :: rest => first :: '.' :: rest ++ exponentMark d.exponent

def signed : Float.Model.UnpackedFloat.Sign → List Char → String
  | .positive, text => String.ofList text
  | .negative, text => String.ofList ('-' :: text)

-- The text of a double, its digits chosen by the given function of mantissa and exponent.
def Layout.render (layout : Layout) (choose : Nat → Int → Digits) (x : Float) : String :=
  match x.toModel.unpack with
  | .notANumber => layout.notANumber
  | .infinity sign => signed sign layout.infinite.toList
  | .zero sign => signed sign ('0' :: fraction layout [])
  | .finite sign mantissa exponent _ => signed sign (layout.write (choose mantissa exponent))

-- The fewest digits that read back, as a value is shown.
def plain (x : Float) : String := Layout.plain.render shortest x

-- The fewest digits that read back, as a value is stored.
def stored (x : Float) : String := Layout.document.render shortest x

-- Rounded to at most the given count of significant digits.
def general (count : Nat) (x : Float) : String :=
  (Layout.general count).render (fun m e => (Ratio.ofDyadic m e).significant count) x

-- Rounded to the given count of decimal places, all of them shown.
def fixed (places : Nat) (x : Float) : String :=
  let spread (n : Nat) : List Char :=
    let digits := Nat.toDigits 10 n
    let padded := zeros (places + 1 - digits.length) ++ digits
    padded.take (padded.length - places) ++ '.' :: padded.drop (padded.length - places)
  match x.toModel.unpack with
  | .notANumber => "nan"
  | .infinity sign => signed sign ['i', 'n', 'f']
  | .zero sign => signed sign (spread 0)
  | .finite sign mantissa exponent _ =>
      signed sign (spread ((Ratio.ofDyadic mantissa exponent).shift places).round)

end PlaneSketch.Decimal

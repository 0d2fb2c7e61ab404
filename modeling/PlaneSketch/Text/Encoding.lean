import PlaneSketch.Text.Literal

namespace PlaneSketch

namespace Symbol

-- Some of the halves stand for a single byte that is not part of any character.
def isByte (symbol : Symbol) : Bool := 0xDC80 ≤ symbol.codePoint && symbol.codePoint ≤ 0xDCFF

-- Whether there are bytes for a symbol.
def isEncodable : Symbol → Bool
  | char _ => true
  | half offset => (half offset).isByte

-- How many bytes a symbol takes.
def byteCount : Symbol → Nat
  | char c => c.utf8Size
  | half _ => 1

end Symbol

namespace Text

def byteCount (text : Text) : Nat := text.foldl (fun n symbol => n + symbol.byteCount) 0

-- A half that there are no bytes for, with the places where it and the halves behind it stand.
structure Unencodable where
  symbol : Symbol
  first : Nat
  last : Nat

def Unencodable.message (cause : Unencodable) : String :=
  let place :=
    if cause.first = cause.last then
      "character " ++ quoted [cause.symbol] ++ " in position " ++ toString cause.first
    else "characters in position " ++ toString cause.first ++ "-" ++ toString cause.last
  "'utf-8' codec can't encode " ++ place ++ ": surrogates not allowed"

-- The first place of a text that cannot be written as bytes.
def unencodable? (text : Text) : Option Unencodable :=
  match text.dropWhile Symbol.isEncodable with
  | [] => none
  | symbol :: rest =>
      let first := (text.takeWhile Symbol.isEncodable).length
      some ⟨symbol, first, first + (rest.takeWhile Symbol.isHalf).length⟩

theorem dropWhile_isEncodable_ofChars (cs : List Char) :
    (ofChars cs).dropWhile Symbol.isEncodable = [] := by
  induction cs with
  | nil => rfl
  | cons c rest ih => exact ih

-- Every string can be written as bytes.
theorem unencodable?_ofString (s : String) : unencodable? (ofString s) = none := by
  rw [unencodable?, ofString, dropWhile_isEncodable_ofChars]

end Text

end PlaneSketch

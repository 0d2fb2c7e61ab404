namespace PlaneSketch

-- One place of a text: a character, or half of a surrogate pair that stands alone. An escape in a
-- document can name such a half, which is no character, and it is kept apart from all others.
inductive Symbol where
  | char (c : Char)
  -- Counted from the first of the halves.
  | half (offset : Fin 0x800)
deriving DecidableEq

namespace Symbol

def firstHalf : Nat := 0xD800

def codePoint : Symbol → Nat
  | char c => c.toNat
  | half offset => firstHalf + offset.val

-- The symbol of a code unit of sixteen bits.
def ofUnit (n : Nat) : Symbol :=
  if h : n - firstHalf < 0x800 ∧ firstHalf ≤ n then half ⟨n - firstHalf, h.1⟩
  else char (Char.ofNat n)

def isHalf : Symbol → Bool
  | char _ => false
  | half _ => true

end Symbol

-- A text as its symbols in order.
abbrev Text := List Symbol

namespace Text

def ofChars (cs : List Char) : Text := cs.map Symbol.char

def ofString (s : String) : Text := ofChars s.toList

instance : Coe String Text := ⟨ofString⟩

-- The characters of a text that holds nothing else.
def chars? : Text → Option (List Char)
  | [] => some []
  | .char c :: rest => (chars? rest).map (c :: ·)
  | .half _ :: _ => none

-- A text without lone halves as a string.
def string? (text : Text) : Option String := (chars? text).map String.ofList

-- Whether one text comes before another by its code points, or is the same.
def notAfter : Text → Text → Bool
  | [], _ => true
  | _ :: _, [] => false
  | a :: s, b :: t =>
      a.codePoint < b.codePoint || (a.codePoint == b.codePoint && notAfter s t)

def join (separator : Text) (parts : List Text) : Text := List.intercalate separator parts

-- The parts between the places where a character stands, one more than there are such places.
def split (c : Char) : Text → List Text
  | [] => [[]]
  | symbol :: rest =>
      if symbol = .char c then [] :: split c rest
      else
        match split c rest with
        | [] => [[symbol]]
        | part :: parts => (symbol :: part) :: parts

theorem chars?_ofChars (cs : List Char) : chars? (ofChars cs) = some cs := by
  induction cs with
  | nil => rfl
  | cons c rest ih =>
      have h : chars? (ofChars rest) = some rest := ih
      simp only [ofChars, List.map_cons, chars?] at h ⊢
      rw [h]
      rfl

-- No string is lost in a text.
theorem string?_ofString (s : String) : string? (ofString s) = some s := by
  simp [string?, ofString, chars?_ofChars]

theorem ofString_inj {s t : String} : ofString s = ofString t ↔ s = t := by
  refine ⟨fun h => Option.some.inj ?_, congrArg ofString⟩
  rw [← string?_ofString s, h, string?_ofString]

end Text

end PlaneSketch

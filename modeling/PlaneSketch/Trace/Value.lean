import PlaneSketch.Text.Literal

namespace PlaneSketch.Trace

-- What stands around the items of a collection.
inductive Brackets where
  | square
  | round
  | curly

def Brackets.around (items : String) : Brackets → String
  | square => "[" ++ items ++ "]"
  | round => "(" ++ items ++ ")"
  | curly => "\x7b" ++ items ++ "\x7d"

-- A value as a trace shows it.
inductive Value where
  -- A value with a text of its own, which loses its middle if it is long.
  | word (text : String)
  | integer (n : Int)
  | text (s : Text)
  -- A summary, which is never shortened.
  | summary (text : String)
  | collection (brackets : Brackets) (items : List Value)
  | table (entries : List (Value × Value))

def nothing : Value := .word "None"

def truth (b : Bool) : Value := .word (if b then "True" else "False")

-- How many characters of a value are shown, by what it is.
def textLimit : Nat := 30

def integerLimit : Nat := 40

def wordLimit : Nat := 160

-- The lengths of what is kept in front of and behind the mark that stands for the middle.
def keptFront (limit : Nat) : Nat := (limit - 3) / 2

def keptBack (limit : Nat) : Nat := limit - 3 - keptFront limit

-- The last characters from a position counted from the end. A position before the start is counted
-- from the end once more.
def lastFrom {α : Type} (count : Nat) (xs : List α) : List α :=
  if count ≤ xs.length then xs.drop (xs.length - count) else xs.drop (2 * xs.length - count)

-- A text within the limit as it is, a longer one without its middle.
def cutMiddle (limit : Nat) (text : String) : String :=
  let cs := text.toList
  if cs.length ≤ limit then text
  else String.ofList (cs.take (keptFront limit) ++ ['.', '.', '.'] ++ lastFrom (keptBack limit) cs)

-- A quoted text. The middle is cut before quoting, so that the two ends of the content remain, and
-- again after, since escapes are longer than what they stand for.
def shortText (text : Text) : String :=
  let quoted := Text.quoted (text.take textLimit)
  if quoted.length ≤ textLimit then quoted
  else
    let ends := (Text.quoted
      (text.take (keptFront textLimit) ++ lastFrom (keptBack textLimit) text)).toList
    String.ofList
      (ends.take (keptFront textLimit) ++ ['.', '.', '.'] ++ lastFrom (keptBack textLimit) ends)

-- A text clipped at a length. A negative length counts from the end.
def clip (length : Int) (text : String) : String :=
  if (text.length : Int) ≤ length then text
  else
    let kept := if 0 ≤ length then length.toNat else (text.length + length).toNat
    String.ofList (text.toList.take kept) ++ "... (truncated)"

-- How many items of a collection are shown and how much of a single value.
structure Limits where
  items : Int
  length : Int

def Limits.standard : Limits := ⟨5, 400⟩

mutual

-- A value as a trace shows it. The limits given are those of the value itself; what is inside it
-- has the standard ones.
def Value.show (limits : Limits) : Value → String
  | .word text => clip limits.length (cutMiddle wordLimit text)
  | .integer n => clip limits.length (cutMiddle integerLimit (toString n))
  | .text s => clip limits.length (shortText s)
  | .summary text => text
  | .collection brackets items =>
      brackets.around (String.intercalate ", " (showItems limits.items.toNat items))
  | .table entries =>
      Brackets.curly.around (String.intercalate ", " (showEntries limits.items.toNat entries))

def showItems : Nat → List Value → List String
  | _, [] => []
  | 0, _ :: _ => ["..."]
  | left + 1, item :: rest => item.show .standard :: showItems left rest

def showEntries : Nat → List (Value × Value) → List String
  | _, [] => []
  | 0, _ :: _ => ["..."]
  | left + 1, (key, value) :: rest =>
      (key.show .standard ++ ": " ++ value.show .standard) :: showEntries left rest

end

def Value.short (value : Value) : String := value.show .standard

-- The arguments of a call, by place and by name.
structure Arguments where
  positional : List Value
  named : List (Text × Value)

def Arguments.short (arguments : Arguments) : Text :=
  let positional : List Text :=
    if arguments.positional.isEmpty then []
    else ["args=[" ++ String.intercalate ", " (arguments.positional.map Value.short) ++ "]"]
  let named : List Text :=
    if arguments.named.isEmpty then []
    else
      ["kwargs=\x7b" ++ Text.join ", "
        (arguments.named.map fun entry => entry.1 ++ "=" ++ entry.2.short) ++ "\x7d"]
  match positional ++ named with
  | [] => "no-args"
  | parts => Text.join ", " parts

end PlaneSketch.Trace

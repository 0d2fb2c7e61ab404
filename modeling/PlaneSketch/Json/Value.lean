import PlaneSketch.Decimal.Layout
import PlaneSketch.OrderedMap
import PlaneSketch.Text.Literal

namespace PlaneSketch.Json

-- A decoded document. Integers and floating numbers stay apart, and an object keeps its members in
-- the order in which their names first came.
inductive Value where
  | null
  | bool (b : Bool)
  | int (n : Int)
  | float (x : Float)
  | str (s : Text)
  | arr (items : List Value)
  | obj (members : List (Text × Value))
deriving Inhabited

namespace Value

-- An object from its members as written: the last of several values of one name counts.
def ofMembers (members : List (Text × Value)) : Value :=
  .obj (OrderedMap.ofList members).entries

mutual

-- The text of a value inside a message.
def literal : Value → String
  | null => "None"
  | bool true => "True"
  | bool false => "False"
  | int n => toString n
  | float x => Decimal.plain x
  | str s => Text.quoted s
  | arr items => "[" ++ String.intercalate ", " (literals items) ++ "]"
  | obj members => "\x7b" ++ String.intercalate ", " (memberLiterals members) ++ "\x7d"

def literals : List Value → List String
  | [] => []
  | item :: rest => item.literal :: literals rest

def memberLiterals : List (Text × Value) → List String
  | [] => []
  | (name, value) :: rest => (Text.quoted name ++ ": " ++ value.literal) :: memberLiterals rest

end

-- A value as a name: a text is itself, anything else the text it has in messages.
def asName : Value → Text
  | str s => s
  | value => value.literal

-- The word that a value is, if it is a text of characters.
def word? : Value → Option String
  | str s => Text.string? s
  | _ => none

-- A value as a yes or no: empty and zero count as no.
def truthy : Value → Bool
  | null => false
  | bool b => b
  | int n => n ≠ 0
  | float x => !(x == 0.0)
  | str s => !s.isEmpty
  | arr items => !items.isEmpty
  | obj members => !members.isEmpty

end Value

end PlaneSketch.Json

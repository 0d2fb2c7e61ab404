import PlaneSketch.Json.Value
import PlaneSketch.Sketch.Builder

namespace PlaneSketch.Document

-- An entry of a document: the list it stands in and its index there.
structure Place where
  list : String
  index : Nat

def Place.text (place : Place) : String := place.list ++ "[" ++ toString place.index ++ "]"

-- Why a document does not describe a sketch.
inductive LoadError where
  | notAnObject
  | notAList (key : String)
  | missingId (place : Place)
  | repeatedId (place : Place) (label : Text)
  | missingReference (place : Place) (key : String)
  | unknownReference (place : Place) (key : String) (label : Text)
  | wrongReference (place : Place) (key : String) (label : Text) (expected : Element.Kind)
  | notANumber (place : Place) (value : Json.Value)
  -- An integer that no double is near to.
  | hugeInteger
  | incompletePosition (place : Place)
  | notAPosition (place : Place) (value : Json.Value)
  | notAPlacement (place : Place)
  | unknownAxis (place : Place) (value : Json.Value)
  | unknownType (place : Place) (value : Json.Value)
  -- An element that a name stands for is not there.
  | lookup (error : BuilderError)

-- How the kinds of elements that can be referred to are named in messages.
def article : Element.Kind → String
  | .point => "a point"
  | .line => "a line"
  | .arc => "an arc"
  | kind => kind.name

def LoadError.message : LoadError → String
  | notAnObject => "sketch document must be a JSON object"
  | notAList key => "'" ++ key ++ "' must be a list of objects"
  | missingId place => place.text ++ ": missing 'id'"
  | repeatedId place label => place.text ++ ": duplicate id " ++ Text.quoted label
  | missingReference place key => place.text ++ ": missing '" ++ key ++ "'"
  | unknownReference place key label =>
      place.text ++ ": '" ++ key ++ "' refers to unknown id " ++ Text.quoted label
  | wrongReference place key label expected =>
      place.text ++ ": '" ++ key ++ "' must refer to " ++ article expected ++ ", got " ++
        Text.quoted label
  | notANumber place value => place.text ++ ": expected a number, got " ++ value.literal
  | hugeInteger => "int too large to convert to float"
  | incompletePosition place => place.text ++ ": position needs 'x' and 'y'"
  | notAPosition place value => place.text ++ ": expected a position, got " ++ value.literal
  | notAPlacement place => place.text ++ ": 'cosmetic' must be an object"
  | unknownAxis place value => place.text ++ ": unknown axis " ++ value.literal
  | unknownType place value => place.text ++ ": unknown constraint type " ++ value.literal
  | lookup error => error.message

-- Whether an error says what is wrong with the document. The others come from what loading uses.
def LoadError.isFormat : LoadError → Bool
  | hugeInteger => false
  | lookup _ => false
  | _ => true

end PlaneSketch.Document

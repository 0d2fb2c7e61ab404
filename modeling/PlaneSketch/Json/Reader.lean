import PlaneSketch.Json.Scan

namespace PlaneSketch.Json

mutual

-- One value, which may hold others down to the given depth. An opening bracket takes two steps of
-- the recursion, one for the list and one for its first item, and no character takes more; so
-- twice the length of the text is enough steps.
def scanValue : Nat → Nat → List Char → Except Fault (Scanned Value)
  | 0, _, cs => expected .value cs
  | fuel + 1, depth, cs =>
      match cs with
      | '"' :: rest => do
          let (text, rest) ← scanText cs.length fuel [] rest
          .ok (.str text, rest)
      | '\x7b' :: rest =>
          match depth with
          | 0 => .error (.tooDeep .object)
          | depth + 1 =>
              match skipSpace rest with
              | '\x7d' :: rest => .ok (.obj [], rest)
              | rest => do
                  let (members, rest) ← scanMembers fuel depth rest
                  .ok (.ofMembers members, rest)
      | '[' :: rest =>
          match depth with
          | 0 => .error (.tooDeep .list)
          | depth + 1 =>
              match skipSpace rest with
              | ']' :: rest => .ok (.arr [], rest)
              | rest => do
                  let (items, rest) ← scanItems fuel depth rest
                  .ok (.arr items, rest)
      | 'n' :: 'u' :: 'l' :: 'l' :: rest => .ok (.null, rest)
      | 't' :: 'r' :: 'u' :: 'e' :: rest => .ok (.bool true, rest)
      | 'f' :: 'a' :: 'l' :: 's' :: 'e' :: rest => .ok (.bool false, rest)
      | 'N' :: 'a' :: 'N' :: rest => .ok (.float (0.0 / 0.0), rest)
      | 'I' :: 'n' :: 'f' :: 'i' :: 'n' :: 'i' :: 't' :: 'y' :: rest =>
          .ok (.float (1.0 / 0.0), rest)
      | '-' :: 'I' :: 'n' :: 'f' :: 'i' :: 'n' :: 'i' :: 't' :: 'y' :: rest =>
          .ok (.float (-1.0 / 0.0), rest)
      | _ => scanNumber cs

-- The items of a list up to its closing bracket.
def scanItems : Nat → Nat → List Char → Except Fault (Scanned (List Value))
  | 0, _, cs => expected .value cs
  | fuel + 1, depth, cs => do
      let (item, rest) ← scanValue fuel depth cs
      match skipSpace rest with
      | ']' :: rest => .ok ([item], rest)
      | ',' :: rest => do
          let (items, rest) ← scanItems fuel depth (skipSpace rest)
          .ok (item :: items, rest)
      | rest => expected .comma rest

-- The members of an object up to its closing brace.
def scanMembers : Nat → Nat → List Char → Except Fault (Scanned (List (Text × Value)))
  | 0, _, cs => expected .propertyName cs
  | fuel + 1, depth, cs =>
      match cs with
      | '"' :: rest => do
          let (name, rest) ← scanText cs.length fuel [] rest
          match skipSpace rest with
          | ':' :: rest => do
              let (value, rest) ← scanValue fuel depth (skipSpace rest)
              match skipSpace rest with
              | '\x7d' :: rest => .ok ([(name, value)], rest)
              | ',' :: rest => do
                  let (members, rest) ← scanMembers fuel depth (skipSpace rest)
                  .ok ((name, value) :: members, rest)
              | rest => expected .comma rest
          | rest => expected .colon rest
      | _ => expected .propertyName cs

end

-- A whole text: one value with nothing but blanks around it.
def scanDocument (cs : List Char) : Except Fault Value :=
  match cs with
  | '\ufeff' :: _ => expected .noByteOrderMark cs
  | _ => do
      let (value, rest) ← scanValue (2 * cs.length + 2) depthLimit (skipSpace cs)
      match skipSpace rest with
      | [] => .ok value
      | rest => expected .endOfText rest

def parse (text : String) : Except ReadError Value :=
  match scanDocument text.toList with
  | .ok value => .ok value
  | .error fault => .error (fault.locate text.toList)

end PlaneSketch.Json

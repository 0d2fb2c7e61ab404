namespace PlaneSketch

-- A finite map that remembers the order in which its keys first came. A key that is given again
-- keeps its place and takes the new value.
structure OrderedMap (κ ν : Type) where
  entries : List (κ × ν) := []
deriving DecidableEq

namespace OrderedMap

variable {κ ν : Type}

def empty : OrderedMap κ ν := ⟨[]⟩

def keys (m : OrderedMap κ ν) : List κ := m.entries.map (·.1)

def values (m : OrderedMap κ ν) : List ν := m.entries.map (·.2)

def size (m : OrderedMap κ ν) : Nat := m.entries.length

variable [DecidableEq κ]

def insertEntry (key : κ) (value : ν) : List (κ × ν) → List (κ × ν)
  | [] => [(key, value)]
  | entry :: rest =>
      if entry.1 = key then (key, value) :: rest else entry :: insertEntry key value rest

def insert (m : OrderedMap κ ν) (key : κ) (value : ν) : OrderedMap κ ν :=
  ⟨insertEntry key value m.entries⟩

def erase (m : OrderedMap κ ν) (key : κ) : OrderedMap κ ν :=
  ⟨m.entries.filter fun entry => entry.1 ≠ key⟩

def insertAll (m : OrderedMap κ ν) (entries : List (κ × ν)) : OrderedMap κ ν :=
  entries.foldl (fun m entry => m.insert entry.1 entry.2) m

def ofList (entries : List (κ × ν)) : OrderedMap κ ν := empty.insertAll entries

def get? (m : OrderedMap κ ν) (key : κ) : Option ν :=
  (m.entries.find? fun entry => entry.1 = key).map (·.2)

def contains (m : OrderedMap κ ν) (key : κ) : Bool := (m.get? key).isSome

end OrderedMap

end PlaneSketch

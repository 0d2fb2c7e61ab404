namespace PlaneSketch

-- The number an element of a sketch goes by.
abbrev Handle := Int

namespace Handle

def insertSorted (h : Handle) : List Handle → List Handle
  | [] => [h]
  | k :: rest => if h ≤ k then h :: k :: rest else k :: insertSorted h rest

-- In ascending order, repetitions kept.
def sort (hs : List Handle) : List Handle := hs.foldr insertSorted []

end Handle

end PlaneSketch

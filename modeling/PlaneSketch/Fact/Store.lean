import PlaneSketch.Fact.Pattern

namespace PlaneSketch

-- The facts learned so far, in order. A fact is only ever appended, and only if it repeats none
-- that is there.
structure Store (α : Type) where
  epsilon : α
  facts : List (Fact α)
deriving DecidableEq

namespace Store

variable {α : Type}

def empty (epsilon : α) : Store α := ⟨epsilon, []⟩

def size (s : Store α) : Nat := s.facts.length

-- The facts of one kind.
def ofKind (s : Store α) (kind : Fact.Kind) : List (Fact α) :=
  s.facts.filter fun fact => fact.kind == kind

-- The position a point is known to have.
def position? (s : Store α) (point : Handle) : Option (Point α) :=
  s.facts.findSome? fun
    | .fixed p position => if p = point then some position else none
    | _ => none

-- The points known to stand above or below a point.
def verticalsFrom (s : Store α) (point : Handle) : List Handle :=
  s.facts.filterMap fun
    | .vertical p q => if p = point then some q else none
    | _ => none

def horizontalsFrom (s : Store α) (point : Handle) : List Handle :=
  s.facts.filterMap fun
    | .horizontal p q => if p = point then some q else none
    | _ => none

def distancesFrom (s : Store α) (point : Handle) : List (Handle × α) :=
  s.facts.filterMap fun
    | .distance p q d => if p = point then some (q, d) else none
    | _ => none

def linesOf (s : Store α) (point : Handle) : List (Line α) :=
  s.facts.filterMap fun
    | .onLine p a b => if p = point then some ⟨a, b⟩ else none
    | _ => none

def circlesOf (s : Store α) (point : Handle) : List (Circle α) :=
  s.facts.filterMap fun
    | .onCircle p center radius => if p = point then some ⟨center, radius⟩ else none
    | _ => none

-- The first distance learned from one point to another.
def distance? (s : Store α) (p q : Handle) : Option α :=
  (s.distancesFrom p).lookup q

variable [Scalar α]

-- Whether a fact repeats one in the store.
def knows (s : Store α) (fact : Fact α) : Bool :=
  s.facts.any fun known => known.sameAs s.epsilon fact

def add (s : Store α) (fact : Fact α) : Store α :=
  if s.knows fact then s else { s with facts := s.facts ++ [fact] }

-- What is answered when a fact is added: whether it was new.
def isNew (s : Store α) (fact : Fact α) : Bool := !s.knows fact

def addAll (s : Store α) (facts : List (Fact α)) : Store α := facts.foldl add s

-- The facts of the pattern's own kind that it accepts.
def matching (s : Store α) (pattern : Fact.Pattern α) : List (Fact α) :=
  (s.ofKind pattern.kind).filter (pattern.accepts s.epsilon)

-- The distance between two points: measured where both positions are known, else learned in
-- either direction.
def knownDistance? (s : Store α) (p q : Handle) : Option α :=
  if p = q then some 0.0
  else
    match s.position? p, s.position? q with
    | some a, some b => some (a.dist b)
    | _, _ => (s.distance? p q).or (s.distance? q p)

end Store

end PlaneSketch

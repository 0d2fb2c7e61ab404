import PlaneSketch.Fact.Store
import PlaneSketch.OrderedMap

namespace PlaneSketch

-- A question to a store: for all facts of one kind, or for those that a pattern describes.
inductive Fact.Query (α : Type) where
  | ofKind (kind : Kind)
  | matching (pattern : Pattern α)

-- A store that also keeps the facts of each kind in a bucket of their own, so that nobody who
-- looks for one kind goes through the others. Both copies are written whenever a fact is learned.
structure IndexedStore (α : Type) where
  epsilon : α
  facts : List (Fact α)
  buckets : OrderedMap Fact.Kind (List (Fact α))

namespace IndexedStore

variable {α : Type}

-- Every kind that says something has its bucket from the start. The bare kind gets one with the
-- first of its facts.
def empty (epsilon : α) : IndexedStore α :=
  ⟨epsilon, [], .ofList ((Fact.Kind.all.filter (· ≠ .bare)).map fun kind => (kind, []))⟩

-- The plain store with the same facts.
def toStore (s : IndexedStore α) : Store α := ⟨s.epsilon, s.facts⟩

def size (s : IndexedStore α) : Nat := s.facts.length

def bucket (s : IndexedStore α) (kind : Fact.Kind) : List (Fact α) :=
  (s.buckets.get? kind).getD []

-- The store with one fact more. A bucket that is not there yet is made for it.
def learn (s : IndexedStore α) (fact : Fact α) : IndexedStore α :=
  { s with
    facts := s.facts ++ [fact]
    buckets := s.buckets.insert fact.kind (s.bucket fact.kind ++ [fact]) }

variable [Scalar α]

-- Whether a fact repeats one in its bucket.
def knows (s : IndexedStore α) (fact : Fact α) : Bool :=
  (s.bucket fact.kind).any fun known => known.sameAs s.epsilon fact

-- The answer, whether the fact was new, and the store afterwards.
def add (s : IndexedStore α) (fact : Fact α) : Bool × IndexedStore α :=
  if s.knows fact then (false, s) else (true, s.learn fact)

def addAll (s : IndexedStore α) (facts : List (Fact α)) : IndexedStore α :=
  facts.foldl (fun s fact => (s.add fact).2) s

def answer (s : IndexedStore α) : Fact.Query α → List (Fact α)
  | .ofKind kind => s.bucket kind
  | .matching pattern => (s.bucket pattern.kind).filter (pattern.accepts s.epsilon)

def first? (s : IndexedStore α) (query : Fact.Query α) : Option (Fact α) :=
  match s.answer query with
  | [] => none
  | fact :: _ => some fact

end IndexedStore

end PlaneSketch

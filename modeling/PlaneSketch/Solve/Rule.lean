import PlaneSketch.Fact.Store
import PlaneSketch.OrderedMap
import PlaneSketch.Solve.Nearest
import PlaneSketch.Solve.Options

namespace PlaneSketch.Solve

-- What stays the same while facts are derived: the options, and the positions the points had
-- before with the ruler that is laid to them, which decide between several candidates.
structure Context (α : Type) where
  ruler : Ruler α
  initial : OrderedMap Handle (Point α)
  options : Options α

-- The ways to derive facts from facts, in the order in which a pass tries them.
inductive Rule where
  | axisLinesAndCircles
  | linesWithCircles
  | circles
  | lines
  | offsetLines
  | collinearLines
  | bisectorLines
  | equalRadii
deriving DecidableEq

namespace Rule

def all : List Rule :=
  [axisLinesAndCircles, linesWithCircles, circles, lines, offsetLines, collinearLines,
    bisectorLines, equalRadii]

-- The kind of fact that a rule starts from.
def trigger : Rule → Fact.Kind
  | axisLinesAndCircles => .fixed
  | linesWithCircles => .onLine
  | circles => .onCircle
  | lines => .onLine
  | offsetLines => .lineDistance
  | collinearLines => .collinear
  | bisectorLines => .equidistant
  | equalRadii => .equidistant

variable {α : Type} [Scalar α]

-- From a fixed point, the lines of the points above, below and beside it, and the circles of the
-- points at known distances.
def axisLinesAndCirclesFrom (ctx : Context α) (s : Store α) (p : Handle) (position : Point α) :
    List (Fact α) :=
  let upright := position + ⟨0.0, ctx.options.axisLength⟩
  let level := position + ⟨ctx.options.axisLength, 0.0⟩
  (s.verticalsFrom p).map (fun q => .onLine q position upright) ++
    (s.horizontalsFrom p).map (fun q => .onLine q position level) ++
    (s.distancesFrom p).map (fun d => .onCircle d.1 position d.2)

def linesWithCirclesFrom (ctx : Context α) (s : Store α) (p : Handle) (line : Line α) :
    List (Fact α) :=
  (s.circlesOf p).filterMap fun circle =>
    (ctx.ruler.nearest (line.meetCircle circle) (ctx.initial.get? p)).map (.fixed p)

def circlesFrom (ctx : Context α) (s : Store α) (p : Handle) (circle : Circle α) : List (Fact α) :=
  (s.circlesOf p).filterMap fun other =>
    if circle.center.dist other.center ≤ ctx.options.epsilon then none
    else (ctx.ruler.nearest (circle.meetCircle other) (ctx.initial.get? p)).map (.fixed p)

def linesFrom (s : Store α) (p : Handle) (line : Line α) : List (Fact α) :=
  (s.linesOf p).filterMap fun other => (line.meetLine other).map (.fixed p)

-- A point at a signed distance from a line with both ends fixed lies on the line moved by that
-- distance to the left.
def offsetLinesFrom (ctx : Context α) (s : Store α) (p start stop : Handle) (value : α) :
    List (Fact α) :=
  match s.position? start, s.position? stop with
  | some a, some b =>
      if a.dist b ≤ ctx.options.epsilon then []
      else
        let shift := (b - a).normalize.rotate90.scale value
        [.onLine p (a + shift) (b + shift)]
  | _, _ => []

-- The first fixed position of a group and the first one apart from it.
def anchors (ctx : Context α) (s : Store α) (points : List Handle) :
    Option (Point α × Point α) :=
  match points.filterMap s.position? with
  | [] => none
  | a :: rest => (rest.find? fun b => !b.near ctx.options.epsilon a).map fun b => (a, b)

def collinearLinesFrom (ctx : Context α) (s : Store α) (points : List Handle) : List (Fact α) :=
  match anchors ctx s points with
  | some (a, b) => points.map fun p => .onLine p a b
  | none => []

-- A center at one distance from two fixed points lies on their perpendicular bisector.
def bisectorLinesFrom (ctx : Context α) (s : Store α) (center p q : Handle) : List (Fact α) :=
  match s.position? p, s.position? q with
  | some a, some b =>
      if a.dist b ≤ ctx.options.epsilon then []
      else
        let mid := a.midpoint b
        [.onLine center mid (mid + ⟨b.y - a.y, -(b.x - a.x)⟩)]
  | _, _ => []

def equalRadiiFrom (s : Store α) (center p q : Handle) : List (Fact α) :=
  match s.knownDistance? center p, s.knownDistance? center q with
  | some r, none => [.distance center q r]
  | none, some r => [.distance center p r]
  | _, _ => []

-- What a rule concludes from one fact of the kind it starts from.
def conclusions (rule : Rule) (ctx : Context α) (s : Store α) (fact : Fact α) : List (Fact α) :=
  match rule, fact with
  | axisLinesAndCircles, .fixed p position => axisLinesAndCirclesFrom ctx s p position
  | linesWithCircles, .onLine p a b => linesWithCirclesFrom ctx s p ⟨a, b⟩
  | circles, .onCircle p center radius => circlesFrom ctx s p ⟨center, radius⟩
  | lines, .onLine p a b => linesFrom s p ⟨a, b⟩
  | offsetLines, .lineDistance p start stop value => offsetLinesFrom ctx s p start stop value
  | collinearLines, .collinear points => collinearLinesFrom ctx s points
  | bisectorLines, .equidistant center p q => bisectorLinesFrom ctx s center p q
  | equalRadii, .equidistant center p q => equalRadiiFrom s center p q
  | _, _ => []

-- One fact after another, those there at the start; each sees what the ones before have added.
def run (rule : Rule) (ctx : Context α) (s : Store α) : Store α :=
  (s.ofKind rule.trigger).foldl (fun s fact => s.addAll (rule.conclusions ctx s fact)) s

end Rule

end PlaneSketch.Solve

import PlaneSketch.Geometry.Point

namespace PlaneSketch.Solve

-- How the nearest of several candidates is found: the length of an offset, and the place of the
-- smallest of some lengths. Solving leaves both open.
structure Ruler (α : Type) where
  length : α → α → α
  smallest : List α → Nat
  smallest_lt : ∀ lengths, lengths ≠ [] → smallest lengths < lengths.length

variable {α : Type} [Scalar α]

-- One length comes before another when it is smaller, or when it is the first that cannot be
-- compared even with itself.
def precedes (d e : α) : Bool :=
  decide (d < e) || (!(d == d) && e == e)

-- The place of the length that comes before all others, the earliest of several.
def placeOfLeast : List α → Nat
  | [] => 0
  | d :: rest =>
      let place := placeOfLeast rest
      match rest[place]? with
      | none => 0
      | some e => if precedes e d then place + 1 else 0

theorem placeOfLeast_lt (lengths : List α) (hne : lengths ≠ []) :
    placeOfLeast lengths < lengths.length := by
  induction lengths with
  | nil => exact absurd rfl hne
  | cons d rest ih =>
      simp only [placeOfLeast]
      split
      · exact Nat.succ_pos _
      · rename_i e he
        obtain ⟨hlt, -⟩ := List.getElem?_eq_some_iff.mp he
        split
        · exact Nat.succ_lt_succ hlt
        · exact Nat.succ_pos _

namespace Ruler

-- The lengths of vectors themselves, and the first of the smallest.
def standard : Ruler α := ⟨Scalar.hypot, placeOfLeast, placeOfLeast_lt⟩

def dist (ruler : Ruler α) (p q : Point α) : α := ruler.length (p.x - q.x) (p.y - q.y)

-- The candidate nearest to a reference. Without a reference the first candidate is taken; a single
-- one is not measured.
def nearest (ruler : Ruler α) (candidates : List (Point α)) (reference : Option (Point α)) :
    Option (Point α) :=
  match candidates, reference with
  | [], _ => none
  | first :: _, none => some first
  | [only], some _ => some only
  | candidates, some origin => candidates[ruler.smallest (candidates.map (ruler.dist · origin))]?

end Ruler

end PlaneSketch.Solve

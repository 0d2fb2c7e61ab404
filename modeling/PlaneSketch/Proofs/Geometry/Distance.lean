import PlaneSketch.Geometry.Circle
import PlaneSketch.Proofs.Binary.Magnitude

namespace PlaneSketch

open Binary

namespace Point

variable {p q o : Point Float}

structure IsFinite (p : Point Float) : Prop where
  x : p.x.isFinite = true
  y : p.y.isFinite = true

theorem unpack_dist (p q : Point Float) :
    (p.dist q).toModel.unpack = (Float.Model.pack (unpackedHypot
      (p.x - q.x : Float).toModel.unpack (p.y - q.y : Float).toModel.unpack)).unpack :=
  rfl

theorem dist_self (hp : p.IsFinite) : (p.dist p).toModel.unpack = .zero .positive := by
  rw [unpack_dist, unpack_sub_self hp.x, unpack_sub_self hp.y]
  rfl

-- Positions at distance zero are the same, up to the signs of zeros.
theorem sameValue_of_dist {r : Float.Model.UnpackedFloat.Sign}
    (h : (p.dist q).toModel.unpack = .zero r) :
    SameValue p.x.toModel.unpack q.x.toModel.unpack ∧
      SameValue p.y.toModel.unpack q.y.toModel.unpack := by
  have hfits (x y : Float) : Fits (x - y : Float).toModel.unpack := fits_unpack _
  have hsame {x y : Float} {t : Float.Model.UnpackedFloat.Sign}
      (hxy : (x - y : Float).toModel.unpack = .zero t) :
      SameValue x.toModel.unpack y.toModel.unpack := by
    obtain ⟨s, hs⟩ := zero_of_unpack_pack (fits_sub (fits_unpack _) (fits_unpack _)) hxy
    exact sameValue_of_sub hs
  obtain ⟨s, hs⟩ := zero_of_unpack_pack
    (fits_unpackedHypot (hfits p.x q.x) (hfits p.y q.y)) h
  obtain ⟨⟨t, hx⟩, u, hy⟩ := zero_of_unpackedHypot (hfits p.x q.x) (hfits p.y q.y) hs
  exact ⟨hsame hx, hsame hy⟩

theorem dist_congr (hx : SameValue p.x.toModel.unpack q.x.toModel.unpack)
    (hy : SameValue p.y.toModel.unpack q.y.toModel.unpack) (o : Point Float) :
    p.dist o = q.dist o :=
  congrArg (fun a => Float.ofModel (Float.Model.pack a))
    ((hx.sub _).unpack_pack.unpackedHypot (hy.sub _).unpack_pack)

theorem isNaN_dist (p o : Point Float) :
    (p.dist o).isNaN = (((p.x - o.x : Float).isNaN || (p.y - o.y : Float).isNaN) &&
      !(p.x - o.x : Float).isInf && !(p.y - o.y : Float).isInf) :=
  isNaN_hypot _ _

-- Whether the distance is a number does not depend on where it is measured from.
def Steady (p : Point Float) : Prop :=
  ∀ o o' : Point Float, o.IsFinite → o'.IsFinite → (p.dist o).isNaN = (p.dist o').isNaN

theorem steady_of_not_isNaN (hx : p.x.isNaN = false) (hy : p.y.isNaN = false) : p.Steady := by
  have hnumber (o : Point Float) (ho : o.IsFinite) : (p.dist o).isNaN = false := by
    rw [isNaN_dist, isNaN_sub_of_isFinite ho.x, isNaN_sub_of_isFinite ho.y, hx, hy]
    rfl
  intro o o' ho ho'
  rw [hnumber o ho, hnumber o' ho']

theorem steady_of_not_isFinite (hx : p.x.isFinite = false) (hy : p.y.isFinite = false) :
    p.Steady := by
  have hclass (o : Point Float) (ho : o.IsFinite) : (p.dist o).isNaN =
      ((p.x.isNaN || p.y.isNaN) && !p.x.isInf && !p.y.isInf) := by
    rw [isNaN_dist, isNaN_sub_of_isFinite ho.x, isNaN_sub_of_isFinite ho.y,
      isInf_sub_of_isFinite hx ho.x, isInf_sub_of_isFinite hy ho.y]
  intro o o' ho ho'
  rw [hclass o ho, hclass o' ho']

theorem isNaN_dist_of_isFinite (hp : p.IsFinite) (ho : o.IsFinite) : (p.dist o).isNaN = false := by
  rw [isNaN_dist, isNaN_sub_of_isFinite ho.x, isNaN_sub_of_isFinite ho.y,
    isNaN_of_isFinite hp.x, isNaN_of_isFinite hp.y]
  rfl

-- Moving a finite position along a finite direction leaves both coordinates numbers, or neither
-- of them finite, however far it goes.
theorem steady_add_scale (hp : p.IsFinite) {d : Point Float} (hd : d.IsFinite) (k : Float) :
    (p + d.scale k).Steady := by
  cases hfinite : k.isFinite with
  | true =>
      exact steady_of_not_isNaN
        ((isNaN_add_of_isFinite hp.x).trans (isNaN_mul_of_isFinite hd.x hfinite))
        ((isNaN_add_of_isFinite hp.y).trans (isNaN_mul_of_isFinite hd.y hfinite))
  | false =>
      have hinfinite {a b : Float} : (a + b * k).isFinite = false := by
        refine Bool.eq_false_iff.mpr fun h => ?_
        have hk := (isFinite_of_mul (isFinite_of_add h).2).2
        rw [hfinite] at hk
        cases hk
      exact steady_of_not_isFinite hinfinite hinfinite

theorem isFinite_of_add_scale {d : Point Float} {k : Float} (h : (p + d.scale k).IsFinite) :
    p.IsFinite ∧ d.IsFinite := by
  obtain ⟨hx, hdx⟩ := isFinite_of_add h.x
  obtain ⟨hy, hdy⟩ := isFinite_of_add h.y
  exact ⟨⟨hx, hy⟩, (isFinite_of_mul hdx).1, (isFinite_of_mul hdy).1⟩

end Point

-- Two candidates of which one being finite makes both of them steady.
def Comparable (a b : Point Float) : Prop := a.IsFinite ∨ b.IsFinite → a.Steady ∧ b.Steady

theorem comparable_add_scale (p d : Point Float) (j k : Float) :
    Comparable (p + d.scale j) (p + d.scale k) := by
  intro h
  obtain ⟨hp, hd⟩ := h.elim Point.isFinite_of_add_scale Point.isFinite_of_add_scale
  exact ⟨Point.steady_add_scale hp hd j, Point.steady_add_scale hp hd k⟩

-- The points a line and a circle or two circles have in common are none, one, or two of which
-- neither spoils the choice of the other.
inductive Candidates : List (Point Float) → Prop
  | none : Candidates []
  | one (p : Point Float) : Candidates [p]
  | two {p q : Point Float} (h : Comparable p q) : Candidates [p, q]

theorem candidates_meetCircle_line (l : Line Float) (c : Circle Float) :
    Candidates (l.meetCircle c) := by
  unfold Line.meetCircle
  split
  · exact .none
  simp only
  split
  · exact .one _
  split
  · exact .none
  exact .two (comparable_add_scale _ _ _ _)

theorem candidates_meetCircle (c d : Circle Float) : Candidates (c.meetCircle d) := by
  unfold Circle.meetCircle
  simp only
  split
  · exact .none
  split
  · exact .none
  split
  · exact .none
  split
  · exact .one _
  exact .two (comparable_add_scale _ _ _ _)

end PlaneSketch

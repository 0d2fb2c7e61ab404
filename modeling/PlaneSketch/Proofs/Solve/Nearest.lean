import PlaneSketch.Proofs.Binary.Identities
import PlaneSketch.Proofs.Binary.Order
import PlaneSketch.Proofs.Geometry.Distance
import PlaneSketch.Solve.Nearest

namespace PlaneSketch.Solve

open Binary

section Order

variable {c d e : Float}

theorem precedes_iff :
    precedes d e = true ↔ d < e ∨ d.isNaN = true ∧ e.isNaN = false := by
  have hunfold : precedes d e = (decide (d < e) || (!(d == d) && e == e)) := rfl
  rw [hunfold, beq_self, beq_self]
  simp

theorem precedes_iff_lt (hd : d.isNaN = false) : precedes d e = true ↔ d < e := by
  rw [precedes_iff, hd]
  simp

-- What is not a number comes before any number, and nothing comes before it.
theorem precedes_of_isNaN (hd : d.isNaN = true) (he : e.isNaN = false) : precedes d e = true :=
  precedes_iff.mpr (.inr ⟨hd, he⟩)

theorem not_precedes_of_isNaN (he : e.isNaN = true) (d : Float) : ¬precedes d e = true := by
  rw [precedes_iff, he]
  rintro (hlt | ⟨-, hnumber⟩)
  · rw [isNaN_of_lt hlt] at he
    cases he
  · cases hnumber

theorem precedes_trans (hcd : precedes c d = true) (hde : precedes d e = true) :
    precedes c e = true := by
  rw [precedes_iff] at hcd hde ⊢
  rcases hcd with hcd | ⟨hc, hd⟩ <;> rcases hde with hde | ⟨hd', he⟩
  · exact .inl (trans_lt_lt hcd hde)
  · rw [isNaN_of_lt hcd] at hd'
    cases hd'
  · exact .inr ⟨hc, isNaN_of_lt hde⟩
  · rw [hd] at hd'
    cases hd'

-- What comes before a length comes before any other, or this one does.
theorem precedes_or (hce : precedes c e = true) (d : Float) :
    precedes c d = true ∨ precedes d e = true := by
  rw [precedes_iff] at hce
  rw [precedes_iff, precedes_iff]
  have he : e.isNaN = false := hce.elim isNaN_of_lt And.right
  cases hd : d.isNaN with
  | true => exact .inr (.inr ⟨rfl, he⟩)
  | false =>
      rcases hce with hce | ⟨hc, -⟩
      · by_cases hde : d < e
        · exact .inr (.inl hde)
        · exact .inl (.inl (trans_lt_le hce ((not_lt_iff_le hd he).mp hde)))
      · exact .inl (.inr ⟨hc, rfl⟩)

-- The place found is that of a length that comes before all earlier ones, and that no later one
-- comes before.
theorem placeOfLeast_leads {lengths : List Float} (hne : lengths ≠ []) :
    ∃ before d after, lengths = before ++ d :: after ∧ placeOfLeast lengths = before.length ∧
      (∀ e ∈ before, precedes d e = true) ∧ ∀ e ∈ after, precedes e d = false := by
  induction lengths with
  | nil => exact absurd rfl hne
  | cons d rest ih =>
      by_cases hrest : rest = []
      · subst hrest
        exact ⟨[], d, [], rfl, rfl, by simp, by simp⟩
      · obtain ⟨before, e, after, rfl, hplace, hbefore, hafter⟩ := ih hrest
        have hfound : (before ++ e :: after)[before.length]? = some e := by simp
        simp only [placeOfLeast, hplace, hfound]
        by_cases hfirst : precedes e d = true
        · exact ⟨d :: before, e, after, rfl, by simp [hfirst],
            List.forall_mem_cons.mpr ⟨hfirst, hbefore⟩, hafter⟩
        · refine ⟨[], d, before ++ e :: after, rfl, by simp [hfirst], by simp, fun f hf => ?_⟩
          rw [Bool.eq_false_iff]
          intro hfd
          rcases List.mem_append.mp hf with hf | hf
          · exact hfirst (precedes_trans (hbefore f hf) hfd)
          · rcases List.mem_cons.mp hf with rfl | hf
            · exact hfirst hfd
            · rcases precedes_or hfd e with hfe | hed
              · rw [hafter f hf] at hfe
                cases hfe
              · exact hfirst hed

-- Among numbers, the place found is that of the first of the smallest.
theorem placeOfLeast_least {lengths : List Float} (hne : lengths ≠ [])
    (hnumbers : ∀ d ∈ lengths, d.isNaN = false) : ∃ before d after,
    lengths = before ++ d :: after ∧ placeOfLeast lengths = before.length ∧
      (∀ e ∈ before, d < e) ∧ ∀ e ∈ after, d ≤ e := by
  obtain ⟨before, d, after, rfl, hplace, hbefore, hafter⟩ := placeOfLeast_leads hne
  have hd : d.isNaN = false := hnumbers d (by simp)
  refine ⟨before, d, after, rfl, hplace, fun e he => ?_, fun e he => ?_⟩
  · exact (precedes_iff_lt hd).mp (hbefore e he)
  · have hnumber : e.isNaN = false := hnumbers e (by simp [he])
    have hnot := hafter e he
    rw [Bool.eq_false_iff, Ne, precedes_iff_lt hnumber] at hnot
    exact (not_lt_iff_le hnumber hd).mp hnot

-- The first that is not a number is found before any number.
theorem placeOfLeast_nan {before after : List Float} (hnumbers : ∀ e ∈ before, e.isNaN = false)
    (hd : d.isNaN = true) : placeOfLeast (before ++ d :: after) = before.length := by
  obtain ⟨front, e, back, heq, hplace, hfront, hback⟩ :=
    placeOfLeast_leads (List.append_ne_nil_of_right_ne_nil before (List.cons_ne_nil d after))
  refine hplace.trans ?_
  rcases List.append_eq_append_iff.mp heq with ⟨between, rfl, hrest⟩ | ⟨between, rfl, hrest⟩
  · cases between with
    | nil => simp
    | cons f between =>
        -- what is not a number would stand before the place found
        obtain ⟨rfl, -⟩ := List.cons_eq_cons.mp (by simpa using hrest)
        exact absurd (hfront d (by simp)) (not_precedes_of_isNaN hd e)
  · cases between with
    | nil => simp
    | cons f between =>
        -- the place found would be that of a number, with this one behind it
        obtain ⟨rfl, rfl⟩ := List.cons_eq_cons.mp (by simpa using hrest)
        have hleads := precedes_of_isNaN hd (hnumbers e (by simp))
        rw [hback d (by simp)] at hleads
        cases hleads

end Order

namespace Ruler

section Any

variable {α : Type} [Scalar α] {candidates : List (Point α)}

theorem nearest_eq_getElem? (ruler : Ruler α) (hne : candidates ≠ []) (o : Point α) :
    ruler.nearest candidates (some o) =
      candidates[ruler.smallest (candidates.map (ruler.dist · o))]? := by
  match candidates with
  | [] => exact absurd rfl hne
  | [only] =>
      have hlt := ruler.smallest_lt [ruler.dist only o] (List.cons_ne_nil _ _)
      have hplace : ruler.smallest [ruler.dist only o] = 0 := Nat.lt_one_iff.mp hlt
      rw [List.map_singleton, hplace]
      rfl
  | _ :: _ :: _ => rfl

theorem nearest_eq_none_iff {ruler : Ruler α} {reference : Option (Point α)} :
    ruler.nearest candidates reference = none ↔ candidates = [] := by
  refine ⟨fun h => ?_, fun h => by rw [h, nearest]⟩
  by_contra hne
  cases reference with
  | none =>
      obtain ⟨first, rest, rfl⟩ := List.exists_cons_of_ne_nil hne
      cases h
  | some o =>
      have hlt := ruler.smallest_lt (candidates.map (ruler.dist · o)) (by simpa using hne)
      rw [nearest_eq_getElem? ruler hne, List.getElem?_eq_none_iff] at h
      rw [List.length_map] at hlt
      omega

end Any

-- What is known of a ruler: only no offset at all has no length, the signs of an offset play no
-- part, infinite offsets are infinitely long even beside a NaN, and the smallest length is the
-- first of the smallest or the first that is not a number.
structure Lawful (ruler : Ruler Float) : Prop where
  zero : ruler.length 0.0 0.0 = 0.0
  positive : ∀ x y, ¬((x == 0.0) = true ∧ (y == 0.0) = true) →
    (ruler.length x y).isNaN = false → 0.0 < ruler.length x y
  even : ∀ x y, ruler.length (-x) y = ruler.length x y ∧ ruler.length x (-y) = ruler.length x y
  isNaN : ∀ x y, (ruler.length x y).isNaN = ((x.isNaN || y.isNaN) && !x.isInf && !y.isInf)
  least : ∀ lengths, lengths ≠ [] → (∀ d ∈ lengths, d.isNaN = false) → ∃ before d after,
    lengths = before ++ d :: after ∧ ruler.smallest lengths = before.length ∧
      (∀ e ∈ before, d < e) ∧ ∀ e ∈ after, d ≤ e
  nan : ∀ before d after, (∀ e ∈ before, e.isNaN = false) → d.isNaN = true →
    ruler.smallest (before ++ d :: after) = before.length

theorem lawful_standard : (standard : Ruler Float).Lawful where
  zero := rfl
  positive _ _ := hypot_pos
  even x y := ⟨hypot_neg_left x y, hypot_neg_right x y⟩
  isNaN := isNaN_hypot
  least _ := placeOfLeast_least
  nan _ _ _ := placeOfLeast_nan

namespace Lawful

variable {ruler : Ruler Float} {a b c o : Point Float}

theorem smallest_pair (h : ruler.Lawful) (d e : Float) :
    ruler.smallest [d, e] = if precedes e d = true then 1 else 0 := by
  cases hd : d.isNaN with
  | true =>
      rw [if_neg (not_precedes_of_isNaN hd e)]
      exact h.nan [] d [e] (by simp) hd
  | false =>
      cases he : e.isNaN with
      | true =>
          rw [if_pos (precedes_of_isNaN he hd)]
          exact h.nan [d] e [] (by simpa using hd) he
      | false =>
          have hnumbers : ∀ f ∈ [d, e], f.isNaN = false :=
            List.forall_mem_cons.mpr ⟨hd, List.forall_mem_singleton.mpr he⟩
          obtain ⟨before, f, after, heq, hplace, hbefore, hafter⟩ :=
            h.least [d, e] (List.cons_ne_nil d [e]) hnumbers
          rw [hplace]
          match before, heq with
          | [], heq =>
              obtain ⟨rfl, rfl⟩ := List.cons_eq_cons.mp heq
              have hle : d ≤ e := hafter e List.mem_cons_self
              rw [if_neg fun hlt => not_le_of_lt ((precedes_iff_lt he).mp hlt) hle]
              rfl
          | [first], heq =>
              obtain ⟨hfirst, heq⟩ := List.cons_eq_cons.mp heq
              obtain ⟨rfl, -⟩ := List.cons_eq_cons.mp heq
              subst hfirst
              rw [if_pos ((precedes_iff_lt he).mpr (hbefore d List.mem_cons_self))]
              rfl
          | _ :: _ :: _, heq => simp at heq

theorem nearest_pair (h : ruler.Lawful) (a b o : Point Float) :
    ruler.nearest [a, b] (some o) =
      some (if precedes (ruler.dist b o) (ruler.dist a o) = true then b else a) := by
  have hunfold : ruler.nearest [a, b] (some o) =
      [a, b][ruler.smallest [ruler.dist a o, ruler.dist b o]]? := rfl
  rw [hunfold, h.smallest_pair]
  split <;> rfl

-- Whether a distance is a number does not depend on the ruler.
theorem isNaN_dist (h : ruler.Lawful) (p q : Point Float) :
    (ruler.dist p q).isNaN = (p.dist q).isNaN := by
  rw [Ruler.dist, h.isNaN, Point.isNaN_dist]

theorem dist_self (h : ruler.Lawful) (hc : c.IsFinite) : ruler.dist c c = 0.0 := by
  have hsub {x : Float} (hx : x.isFinite = true) : x - x = 0.0 := by
    change Float.ofModel (Float.Model.pack (Float.Model.UnpackedFloat.sub _ x.toModel.unpack
      x.toModel.unpack)) = _
    rw [sub_self_of_isFinite hx]
    rfl
  rw [Ruler.dist, hsub hc.x, hsub hc.y, h.zero]

-- Lengths do not tell a coordinate from the same one with the other sign of zero.
theorem length_congr (h : ruler.Lawful) {x x' y y' : Float}
    (hx : SameValue x.toModel.unpack x'.toModel.unpack)
    (hy : SameValue y.toModel.unpack y'.toModel.unpack) :
    ruler.length x y = ruler.length x' y' := by
  have hsame {x x' : Float} (hx : SameValue x.toModel.unpack x'.toModel.unpack) :
      x = x' ∨ x = -x' := by
    have hpacked {z : Float} {a : Float.Model.UnpackedFloat} (hz : z.toModel.unpack = a) :
        z = Float.ofModel (Float.Model.pack a) := by
      rw [← hz, pack_unpack]
    rcases hx with hx | ⟨s, t, hs, ht⟩
    · rw [hpacked hx, pack_unpack]
      exact .inl rfl
    · rw [hpacked hs, hpacked ht]
      cases s <;> cases t <;> first | exact .inl rfl | exact .inr rfl
  rcases hsame hx with rfl | rfl <;> rcases hsame hy with rfl | rfl <;>
    simp only [(h.even _ _).1, (h.even _ _).2]

theorem not_length_lt_zero (h : ruler.Lawful) (x y : Float) : ¬ruler.length x y < 0.0 := by
  have hzero {x : Float} (hx : (x == 0.0) = true) :
      SameValue x.toModel.unpack (0.0 : Float).toModel.unpack := by
    obtain ⟨s, hs⟩ := unpack_of_beq_zero hx
    exact .inr ⟨s, .positive, hs, rfl⟩
  intro hlt
  by_cases hoffset : (x == 0.0) = true ∧ (y == 0.0) = true
  · rw [h.length_congr (hzero hoffset.1) (hzero hoffset.2), h.zero] at hlt
    exact not_lt_self _ hlt
  · exact not_lt_self _ (trans_lt_lt hlt (h.positive x y hoffset (isNaN_left_of_le (le_of_lt hlt))))

theorem dist_congr (h : ruler.Lawful) (hx : SameValue a.x.toModel.unpack b.x.toModel.unpack)
    (hy : SameValue a.y.toModel.unpack b.y.toModel.unpack) (o : Point Float) :
    ruler.dist a o = ruler.dist b o :=
  h.length_congr (hx.sub _).unpack_pack (hy.sub _).unpack_pack

-- Positions that are not at a positive distance are the same, up to the signs of zeros.
theorem sameValue_of_dist (h : ruler.Lawful) (hnumber : (ruler.dist a b).isNaN = false)
    (hzero : ¬0.0 < ruler.dist a b) :
    SameValue a.x.toModel.unpack b.x.toModel.unpack ∧
      SameValue a.y.toModel.unpack b.y.toModel.unpack := by
  have hsame {x y : Float} (hxy : (x - y == 0.0) = true) :
      SameValue x.toModel.unpack y.toModel.unpack := by
    obtain ⟨t, ht⟩ := unpack_of_beq_zero hxy
    obtain ⟨s, hs⟩ := zero_of_unpack_pack (fits_sub (fits_unpack _) (fits_unpack _)) ht
    exact sameValue_of_sub hs
  by_contra hapart
  refine hzero (h.positive _ _ (fun hoffset => hapart ?_) hnumber)
  exact ⟨hsame hoffset.1, hsame hoffset.2⟩

-- Of two candidates, the one that was chosen is chosen again when it becomes the reference itself:
-- it is at distance zero, and the other one is not.
theorem nearest_pair_self (h : ruler.Lawful) (hab : Comparable a b) (ho : o.IsFinite)
    (hc : c.IsFinite) (hnearest : ruler.nearest [a, b] (some o) = some c) :
    ruler.nearest [a, b] (some c) = some c := by
  rw [h.nearest_pair] at hnearest ⊢
  by_cases hb : precedes (ruler.dist b o) (ruler.dist a o) = true
  · obtain rfl : b = c := by simpa [hb] using hnearest
    obtain ⟨ha, -⟩ := hab (.inr hc)
    have hnumber : (ruler.dist a o).isNaN = false :=
      (precedes_iff.mp hb).elim isNaN_of_lt And.right
    have hagain : (ruler.dist a b).isNaN = false := by
      rwa [h.isNaN_dist, ha b o hc ho, ← h.isNaN_dist]
    rw [if_pos]
    rw [precedes_iff, h.dist_self hc]
    refine .inl ?_
    by_contra hzero
    obtain ⟨hx, hy⟩ := h.sameValue_of_dist hagain hzero
    rw [h.dist_congr hx hy o, precedes_iff] at hb
    rcases hb with hb | ⟨hnan, hnumber⟩
    · exact not_lt_self _ hb
    · rw [hnan] at hnumber
      cases hnumber
  · obtain rfl : a = c := by simpa [hb] using hnearest
    obtain ⟨-, hsteady⟩ := hab (.inl hc)
    rw [if_neg fun hagain => ?_]
    rw [h.dist_self hc] at hagain
    rcases precedes_iff.mp hagain with hlt | ⟨hnan, -⟩
    · exact h.not_length_lt_zero _ _ hlt
    · rw [h.isNaN_dist, hsteady a o hc ho, ← h.isNaN_dist] at hnan
      refine hb (precedes_of_isNaN hnan ?_)
      rw [h.isNaN_dist]
      exact Point.isNaN_dist_of_isFinite hc ho

theorem nearest_self (h : ruler.Lawful) {candidates : List (Point Float)}
    (hcandidates : Candidates candidates) (ho : o.IsFinite) (hc : c.IsFinite)
    (hnearest : ruler.nearest candidates (some o) = some c) :
    ruler.nearest candidates (some c) = some c := by
  cases hcandidates with
  | none => cases hnearest
  | one p =>
      obtain rfl : p = c := Option.some.inj hnearest
      rfl
  | two hab => exact h.nearest_pair_self hab ho hc hnearest

end Lawful

-- A candidate that none of the others is closer than, and none before it as close.
def IsNearest (ruler : Ruler Float) (candidates : List (Point Float)) (o q : Point Float) : Prop :=
  ∃ before after, candidates = before ++ q :: after ∧
    (∀ c ∈ before, ¬ruler.dist c o ≤ ruler.dist q o) ∧
      ∀ c ∈ after, ¬ruler.dist c o < ruler.dist q o

section Choice

variable {ruler : Ruler Float} {candidates : List (Point Float)} {o c : Point Float}

-- A choice among lengths is a choice among the candidates that have them.
theorem nearest_of_smallest {before after : List Float} {d : Float}
    (hlengths : candidates.map (ruler.dist · o) = before ++ d :: after)
    (hplace : ruler.smallest (candidates.map (ruler.dist · o)) = before.length) :
    ∃ front q back, candidates = front ++ q :: back ∧ ruler.nearest candidates (some o) = some q ∧
      before = front.map (ruler.dist · o) ∧ d = ruler.dist q o ∧
      after = back.map (ruler.dist · o) := by
  obtain ⟨front, rest, rfl, rfl, hrest⟩ := List.map_eq_append_iff.mp hlengths
  obtain ⟨q, back, rfl, rfl, rfl⟩ := List.map_eq_cons_iff.mp hrest
  refine ⟨front, q, back, rfl, ?_, rfl, rfl, rfl⟩
  rw [nearest_eq_getElem? ruler (by simp), hplace, List.length_map]
  simp

theorem Lawful.isNearest_of_nearest (h : ruler.Lawful)
    (hnearest : ruler.nearest candidates (some o) = some c) : ruler.IsNearest candidates o c := by
  have hne : candidates ≠ [] := by
    rintro rfl
    cases hnearest
  have hlengths : candidates.map (ruler.dist · o) ≠ [] := by simpa using hne
  cases hfound : (candidates.map (ruler.dist · o)).find? Float.isNaN with
  | none =>
      have hnumbers : ∀ d ∈ candidates.map (ruler.dist · o), d.isNaN = false := fun d hd =>
        Bool.eq_false_iff.mpr (List.find?_eq_none.mp hfound d hd)
      obtain ⟨before, d, after, heq, hplace, hbefore, hafter⟩ := h.least _ hlengths hnumbers
      obtain ⟨front, q, back, rfl, hq, rfl, rfl, rfl⟩ := nearest_of_smallest heq hplace
      obtain rfl : q = c := Option.some.inj (hq.symm.trans hnearest)
      refine ⟨front, back, rfl, fun e he => ?_, fun e he => ?_⟩
      · exact not_le_of_lt (hbefore _ (List.mem_map_of_mem he))
      · exact fun hlt => not_le_of_lt hlt (hafter _ (List.mem_map_of_mem he))
  | some d =>
      obtain ⟨hd, before, after, heq, hbefore⟩ := List.find?_eq_some_iff_append.mp hfound
      have hplace := h.nan before d after (by simpa using hbefore) hd
      rw [← heq] at hplace
      obtain ⟨front, q, back, rfl, hq, rfl, rfl, rfl⟩ := nearest_of_smallest heq hplace
      obtain rfl : q = c := Option.some.inj (hq.symm.trans hnearest)
      refine ⟨front, back, rfl, fun e _ => not_le_of_isNaN hd, fun e _ hlt => ?_⟩
      rw [isNaN_of_lt hlt] at hd
      cases hd

end Choice

end Ruler

end PlaneSketch.Solve

import PlaneSketch.Proofs.Geometry.Box
import PlaneSketch.Proofs.Sketch.Cursor

namespace PlaneSketch

open Binary

-- A test that succeeds everywhere keeps what it answers yes for.
theorem filterM_ok {ε β : Type} {test : β → Except ε Bool} {keep : β → Bool} {xs : List β}
    (h : ∀ x ∈ xs, test x = .ok (keep x)) : xs.filterM test = .ok (xs.filter keep) := by
  have hscan : ∀ (rest kept : List β), (∀ x ∈ rest, x ∈ xs) →
      rest.filterAuxM test kept = .ok ((rest.filter keep).reverse ++ kept) := by
    intro rest
    induction rest with
    | nil => exact fun kept _ => rfl
    | cons x rest ih =>
        intro kept hrest
        rw [List.forall_mem_cons] at hrest
        rw [List.filterAuxM, h x hrest.1]
        change rest.filterAuxM test (cond (keep x) (x :: kept) kept) = _
        rw [ih _ hrest.2]
        cases hkeep : keep x <;> simp [hkeep]
  rw [List.filterM, hscan xs [] fun x hx => hx, List.append_nil]
  change Except.ok (xs.filter keep).reverse.reverse = _
  rw [List.reverse_reverse]

-- What passes a stricter test is a part of what passes the other, in the same order.
theorem filter_sublist_filter {β : Type} {strict loose : β → Bool} {xs : List β}
    (h : ∀ x ∈ xs, strict x = true → loose x = true) :
    (xs.filter strict).Sublist (xs.filter loose) := by
  have htwice : xs.filter strict = (xs.filter loose).filter strict := by
    rw [List.filter_filter]
    refine List.filter_congr fun x hx => ?_
    cases hstrict : strict x with
    | false => rfl
    | true => rw [h x hx hstrict, Bool.and_self]
  rw [htwice]
  exact List.filter_sublist

namespace Sketch

variable {s : Sketch} {inner outer box : Box Float}

-- The lines that a test accepts.
def accepted (s : Sketch) (test : Handle → Handle → Except LookupError Bool) :
    List (Handle × Handle × Handle) :=
  s.lines.filter fun line => (test line.2.1 line.2.2).toOption.getD false

theorem selectInBox_eq {test : Handle → Handle → Except LookupError Bool}
    (htest : ∀ l a b, .line l a b ∈ s.elements → Gives (test a b) fun _ => True) :
    s.selectInBox box test = .ok (s.pointsInBox box ++ (s.accepted test).map (·.1)) := by
  have hlines : ∀ line ∈ s.lines, test line.2.1 line.2.2 =
      .ok ((test line.2.1 line.2.2).toOption.getD false) := by
    intro line hline
    obtain ⟨answer, hanswer, -⟩ := htest _ _ _ (mem_lines.mp hline)
    rw [hanswer]
    rfl
  rw [selectInBox, filterM_ok hlines]
  rfl

section Linked

variable (hs : s.Linked)
include hs

-- Both tests look up the ends of the line, and these are there.
theorem Linked.exists_ends {l a b : Handle} (h : .line l a b ∈ s.elements) :
    ∃ p q, .point a p ∈ s.elements ∧ .point b q ∈ s.elements ∧
      (∀ box, s.lineInBox box a b = .ok (box.contains 0.0 p && box.contains 0.0 q)) ∧
      ∀ box, s.lineTouchesBox box a b =
        .ok (box.contains 0.0 p || box.contains 0.0 q || crossesBox box ⟨p, q⟩) := by
  obtain ⟨p, hp⟩ := hs.exists_point (p := a) h (by simp [Element.references])
  obtain ⟨q, hq⟩ := hs.exists_point (p := b) h (by simp [Element.references])
  have hstart := hs.positionAt_eq hp
  have hstop := hs.positionAt_eq hq
  refine ⟨p, q, hp, hq, fun box => ?_, fun box => ?_⟩
  · rw [lineInBox, hstart, hstop]
    change (if box.contains 0.0 p = true then _ else _) = _
    cases box.contains 0.0 p <;> rfl
  · rw [lineTouchesBox, hstart, hstop]
    rfl

theorem Linked.fullyInBox_eq (box : Box Float) : s.fullyInBox box =
    .ok (s.pointsInBox box ++ (s.accepted (s.lineInBox box)).map (·.1)) :=
  selectInBox_eq fun _ _ _ hline => by
    obtain ⟨p, q, -, -, hfully, -⟩ := hs.exists_ends hline
    exact ⟨_, hfully box, trivial⟩

theorem Linked.partlyInBox_eq (box : Box Float) : s.partlyInBox box =
    .ok (s.pointsInBox box ++ (s.accepted (s.lineTouchesBox box)).map (·.1)) :=
  selectInBox_eq fun _ _ _ hline => by
    obtain ⟨p, q, -, -, -, hpartly⟩ := hs.exists_ends hline
    exact ⟨_, hpartly box, trivial⟩

-- Handles of points and of lines are all different, and a selection takes them as they come.
theorem Linked.nodup_selection (box : Box Float)
    (test : Handle → Handle → Except LookupError Bool) :
    (s.pointsInBox box ++ (s.accepted test).map (·.1)).Nodup := by
  refine ((nodup_points hs.distinct).sublist (List.filter_sublist.map _)).append
    ((nodup_lines hs.distinct).sublist (List.filter_sublist.map _)) fun id hpoint hline => ?_
  obtain ⟨⟨p, position⟩, hmem, rfl⟩ := List.mem_map.mp hpoint
  obtain ⟨⟨l, a, b⟩, hmem', rfl⟩ := List.mem_map.mp hline
  have hp := mem_points.mp (List.mem_of_mem_filter hmem)
  have hl := mem_lines.mp (List.mem_of_mem_filter hmem')
  cases hs.eq_of_id hp hl rfl

end Linked

-- A test that lets through what another one does selects more.
theorem selection_sublist {test test' : Handle → Handle → Except LookupError Bool}
    (hpoints : ∀ p, inner.contains 0.0 p = true → outer.contains 0.0 p = true)
    (htest : ∀ l a b, .line l a b ∈ s.elements → test a b = .ok true → test' a b = .ok true) :
    (s.pointsInBox inner ++ (s.accepted test).map (·.1)).Sublist
      (s.pointsInBox outer ++ (s.accepted test').map (·.1)) := by
  refine List.Sublist.append (List.Sublist.map _ (filter_sublist_filter fun p _ => hpoints p.2))
    (List.Sublist.map _ (filter_sublist_filter ?_))
  rintro ⟨l, a, b⟩ hline hyes
  have hanswer : test a b = .ok true := by
    cases hresult : test a b with
    | error => simp [hresult, Except.toOption] at hyes
    | ok => simpa [hresult, Except.toOption] using hyes
  simp [htest l a b (mem_lines.mp hline) hanswer, Except.toOption]

end Sketch

-- A smaller box selects a part of what a larger one does: of what lies in the larger box, and of
-- what touches it. What a box selects does not depend on the corners it is given by.
theorem selections_nested {s : Sketch} {inner outer : Box Float} (hcheck : s.check = .ok ())
    (houter : outer.IsNumber) (hinside : inner.Inside outer) :
    ∃ few many touched, s.fullyInBox inner = .ok few ∧ s.fullyInBox outer = .ok many ∧
      s.partlyInBox outer = .ok touched ∧ few.Nodup ∧ many.Nodup ∧ touched.Nodup ∧
      few.Sublist many ∧ few.Sublist touched ∧ many.Sublist touched ∧
      ∀ turned ∈ outer.descriptions, s.fullyInBox turned = .ok many := by
  have hs : s.Linked := (Sketch.wellFormed_of_check hcheck).toLinked
  have hcontains : ∀ p, inner.contains 0.0 p = true → outer.contains 0.0 p = true :=
    fun p hp => hinside.contains houter hp
  -- A line with both ends in a box lies in every larger box, and touches it.
  have hlines : ∀ {box : Box Float},
      (∀ p, box.contains 0.0 p = true → outer.contains 0.0 p = true) →
      ∀ l a b, .line l a b ∈ s.elements → s.lineInBox box a b = .ok true →
        s.lineInBox outer a b = .ok true ∧ s.lineTouchesBox outer a b = .ok true := by
    intro box hbox l a b hline hyes
    obtain ⟨p, q, -, -, hfully, hpartly⟩ := hs.exists_ends hline
    rw [hfully, Except.ok.injEq, Bool.and_eq_true] at hyes
    rw [hfully, hpartly, hbox p hyes.1, hbox q hyes.2]
    exact ⟨rfl, rfl⟩
  refine ⟨_, _, _, hs.fullyInBox_eq inner, hs.fullyInBox_eq outer, hs.partlyInBox_eq outer,
    hs.nodup_selection inner _, hs.nodup_selection outer _, hs.nodup_selection outer _,
    Sketch.selection_sublist hcontains fun l a b hline hyes =>
      (hlines hcontains l a b hline hyes).1,
    Sketch.selection_sublist hcontains fun l a b hline hyes =>
      (hlines hcontains l a b hline hyes).2,
    Sketch.selection_sublist (fun _ => id) fun l a b hline hyes =>
      (hlines (fun _ => id) l a b hline hyes).2, fun turned hturned => ?_⟩
  rw [← hs.fullyInBox_eq outer]
  have hsame := Box.contains_of_description houter hturned
  unfold Sketch.fullyInBox Sketch.selectInBox Sketch.pointsInBox Sketch.lineInBox
  rw [hsame]

-- Two rungs, of which only the lower one fits into a box.
def ladderSketch : Sketch where
  elements := [.point 0 ⟨0.0, 0.0⟩, .point 1 ⟨2.0, 0.0⟩, .line 2 0 1, .point 3 ⟨0.0, 4.0⟩,
    .point 4 ⟨9.0, 4.0⟩, .line 5 3 4]
  labels := .empty

theorem selections_nested_ladder :
    let inner : Box Float := ⟨⟨2.0, -1.0⟩, ⟨-1.0, 1.0⟩⟩
    let outer : Box Float := ⟨⟨-1.0, 5.0⟩, ⟨3.0, -2.0⟩⟩
    (ladderSketch.fullyInBox inner).toOption = some [0, 1, 2] ∧
      (ladderSketch.fullyInBox outer).toOption = some [0, 1, 3, 2] ∧
      (ladderSketch.partlyInBox outer).toOption = some [0, 1, 3, 2, 5] ∧
      ([0, 1, 2] : List Handle).Sublist [0, 1, 3, 2] ∧
      ([0, 1, 3, 2] : List Handle).Sublist [0, 1, 3, 2, 5] ∧
      ∀ turned ∈ outer.descriptions,
        ladderSketch.fullyInBox turned = ladderSketch.fullyInBox outer := by
  intro inner outer
  have hcheck : ladderSketch.check = .ok () := Sketch.check_eq_ok_of_isOk (by decide +kernel)
  have houter : outer.IsNumber :=
    ⟨⟨by decide +kernel, by decide +kernel⟩, by decide +kernel, by decide +kernel⟩
  have hinside : inner.Inside outer := ⟨by decide +kernel, by decide +kernel⟩
  have hfew : (ladderSketch.fullyInBox inner).toOption = some [0, 1, 2] := by decide +kernel
  have hmany : (ladderSketch.fullyInBox outer).toOption = some [0, 1, 3, 2] := by decide +kernel
  have htouched : (ladderSketch.partlyInBox outer).toOption = some [0, 1, 3, 2, 5] := by
    decide +kernel
  obtain ⟨few, many, touched, hinner, houter, hpartly, -, -, -, hgrown, -, hpart, hturned⟩ :=
    selections_nested hcheck houter hinside
  rw [hinner] at hfew
  rw [houter] at hmany
  rw [hpartly] at htouched
  cases Option.some.inj hfew
  cases Option.some.inj hmany
  cases Option.some.inj htouched
  exact ⟨by rw [hinner]; rfl, by rw [houter]; rfl, by rw [hpartly]; rfl, hgrown, hpart,
    fun turned h => (hturned turned h).trans houter.symm⟩

end PlaneSketch

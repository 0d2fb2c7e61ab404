import PlaneSketch.Proofs.Geometry.SideCrossing
import PlaneSketch.Proofs.Sketch.Boxes

namespace PlaneSketch

open Binary

section Crossing

variable {box : Box Float} {l side : Line Float} {s : ℝ}

-- The crossing with a side is found where it belongs.
theorem crossesBox_of_crossing (hbox : box.Plain) (hl : l.Plain) (hs : 0 ≤ s ∧ s ≤ 1)
    (hin : box.real.contains 0 (l.real.pointAt s) = true) (hside : side ∈ box.sides)
    (hcrossing : ∃ t u, l.crossing side = some (t, u) ∧ Estimates t s (2 ^ (-48 : ℤ))) :
    Sketch.crossesBox box l = true := by
  obtain ⟨t, u, hcrossing, ht⟩ := hcrossing
  have hmeet : l.meetLine side = some (l.pointAt t) := by
    rw [Line.meetLine, hcrossing]
    rfl
  have hmarks := hl.marks_pointAt ht hs
  refine List.any_eq_true.mpr ⟨side, hside, ?_⟩
  rw [hmeet]
  simp only [hl.segmentDist_pointAt hs hmarks, Box.contains_of_marks hbox.range hmarks hin,
    decide_false, Bool.not_false, Bool.and_self]

-- A place on a side that the line is not as good as parallel to is found.
theorem crossesBox_of_crossed (hbox : box.Plain) (hl : l.Plain)
    (hcrossed : box.real.Crossed l.real s) : Sketch.crossesBox box l = true := by
  obtain ⟨hs, hin, hside⟩ := hcrossed
  have hfound {side : Line Float} (hmem : side ∈ box.sides) :=
    crossesBox_of_crossing hbox hl hs hin hmem
  rw [hbox.range.real_low, hbox.range.real_high] at hside
  rcases hside with ⟨hsteep, hleft | hright⟩ | ⟨hsteep, hbottom | htop⟩
  · have hmem : ⟨box.low, ⟨box.low.x, box.high.y⟩⟩ ∈ box.sides := by simp [Box.sides]
    exact hfound hmem (hl.exists_crossing_upright (hbox.side hmem) hs rfl hsteep hleft)
  · have hmem : ⟨box.high, ⟨box.high.x, box.low.y⟩⟩ ∈ box.sides := by simp [Box.sides]
    exact hfound hmem (hl.exists_crossing_upright (hbox.side hmem) hs rfl hsteep hright)
  · have hmem : ⟨⟨box.high.x, box.low.y⟩, box.low⟩ ∈ box.sides := by simp [Box.sides]
    exact hfound hmem (hl.exists_crossing_level (hbox.side hmem) hs rfl hsteep hbottom)
  · have hmem : ⟨⟨box.low.x, box.high.y⟩, box.high⟩ ∈ box.sides := by simp [Box.sides]
    exact hfound hmem (hl.exists_crossing_level (hbox.side hmem) hs rfl hsteep htop)

end Crossing

-- A line that is in the box for some of its length is selected, in sketches of ordinary size: a
-- line with an end in the box by that end, and another by where it crosses a side. Sides that it
-- is nearly parallel to are passed over, and where these are very long beside the others, the line
-- may cross no other side.
theorem partlyInBox_crossed {s : Sketch} {box : Box Float} {id a b : Handle} {p q : Point Float}
    {t : ℝ} (hcheck : s.check = .ok ()) (hline : .line id a b ∈ s.elements)
    (hp : .point a p ∈ s.elements) (hq : .point b q ∈ s.elements) (hbox : box.Plain)
    (hplain : Line.Plain ⟨p, q⟩) (hcompact : box.real.CompactAlong (Line.real ⟨p, q⟩))
    (ht : 0 ≤ t ∧ t ≤ 1) (hin : box.real.contains 0 ((Line.real ⟨p, q⟩).pointAt t) = true) :
    ∃ ids, s.partlyInBox box = .ok ids ∧ id ∈ ids := by
  have hs : s.Linked := (Sketch.wellFormed_of_check hcheck).toLinked
  obtain ⟨p', q', hp', hq', -, htouches⟩ := hs.exists_ends hline
  obtain rfl := hs.position_unique hp hp'
  obtain rfl := hs.position_unique hq hq'
  have htouched : s.lineTouchesBox box a b = .ok true := by
    rw [htouches box, Except.ok.injEq, Bool.or_eq_true, Bool.or_eq_true]
    by_contra! hmissed
    obtain ⟨⟨hstart, hfinish⟩, hcrosses⟩ := hmissed
    have hstart' : box.real.contains 0 (Line.real ⟨p, q⟩).a = false :=
      Bool.eq_false_iff.mpr fun h => hstart (hbox.range.contains_real hplain.start.isFinite h)
    have hfinish' : box.real.contains 0 (Line.real ⟨p, q⟩).b = false :=
      Bool.eq_false_iff.mpr fun h => hfinish (hbox.range.contains_real hplain.finish.isFinite h)
    obtain ⟨u, hcrossed⟩ := Box.exists_crossed hstart' hfinish' ht hin hcompact
    exact hcrosses (crossesBox_of_crossed hbox hplain hcrossed)
  have haccepted : (id, a, b) ∈ s.accepted (s.lineTouchesBox box) := by
    refine List.mem_filter.mpr ⟨Sketch.mem_lines.mpr hline, ?_⟩
    simp only [htouched]
    rfl
  exact ⟨_, hs.partlyInBox_eq box,
    List.mem_append_right _ (List.mem_map.mpr ⟨_, haccepted, rfl⟩)⟩

-- A brace that passes through a box from corner to corner and beyond.
def braceSketch : Sketch where
  elements := [.point 0 ⟨-2.0, -1.0⟩, .point 1 ⟨2.0, 1.0⟩, .line 2 0 1]
  labels := .empty

theorem partlyInBox_crossed_brace : ∃ ids,
    braceSketch.partlyInBox ⟨⟨1.0, -1.0⟩, ⟨-1.0, 1.0⟩⟩ = .ok ids ∧ 2 ∈ ids := by
  have hcheck : braceSketch.check = .ok () := Sketch.check_eq_ok_of_isOk (by decide +kernel)
  have hbox : Box.Plain ⟨⟨1.0, -1.0⟩, ⟨-1.0, 1.0⟩⟩ :=
    ⟨⟨Point.inRange_of_le (by decide +kernel) (by decide +kernel),
      Point.inRange_of_le (by decide +kernel) (by decide +kernel)⟩, by decide +kernel⟩
  have hplain : Line.Plain ⟨⟨-2.0, -1.0⟩, ⟨2.0, 1.0⟩⟩ :=
    ⟨Point.inRange_of_le (by decide +kernel) (by decide +kernel),
      Point.inRange_of_le (by decide +kernel) (by decide +kernel), by decide +kernel⟩
  refine partlyInBox_crossed (t := 1 / 2) hcheck (a := 0) (b := 1) (by simp [braceSketch])
    (by simp [braceSketch]) (by simp [braceSketch]) hbox hplain ⟨.inl ?_, .inl ?_⟩
    (by norm_num) ?_
  · norm_num [Line.real, Point.real, toReal_one, toReal_two]
  · norm_num [Line.real, Point.real, toReal_one, toReal_two]
  · rw [Box.contains_zero_iff]
    norm_num [Line.real, Box.real, Point.real, Line.pointAt_x, Line.pointAt_y, Box.low, Box.high,
      Scalar.least, Scalar.greatest, toReal_one, toReal_two]

-- A single line that passes through a box and is not selected by it.
structure Missed (box : Box Float) (line : Line Float) (s : Sketch) : Prop where
  drawn : s.elements = [.point 0 line.a, .point 1 line.b, .line 2 0 1]
  accepted : s.check = .ok ()
  sides : ∀ side ∈ box.sides, Scalar.tolerance < side.length
  apart : Scalar.tolerance < line.length
  passes : ∃ t, (0 ≤ t ∧ t ≤ 1) ∧ box.real.contains 0 (line.real.pointAt t) = true
  unselected : (s.partlyInBox box).toOption = some []

-- A box and a line with their middles at the origin.
theorem contains_middle {x y width height : Float} (hwidth : 0.0 ≤ width) (hheight : 0.0 ≤ height)
    (hfinite : width.isFinite = true ∧ height.isFinite = true) :
    (Box.real ⟨⟨-width, -height⟩, ⟨width, height⟩⟩).contains 0
      ((Line.real ⟨⟨-x, y⟩, ⟨x, -y⟩⟩).pointAt (1 / 2)) = true := by
  rw [le_iff_toReal rfl hfinite.1, toReal_zero] at hwidth
  rw [le_iff_toReal rfl hfinite.2, toReal_zero] at hheight
  have hmiddle : (Line.real ⟨⟨-x, y⟩, ⟨x, -y⟩⟩).pointAt (1 / 2) = ⟨0, 0⟩ := by
    ext
    · simp only [Line.real, Point.real, Line.pointAt_x, toReal_neg]
      ring
    · simp only [Line.real, Point.real, Line.pointAt_y, toReal_neg]
      ring
  have hbetween {v : ℝ} (hv : 0 ≤ v) :
      (0 : ℝ) ∈ Set.Icc (Scalar.least (-v) v) (Scalar.greatest (-v) v) := by
    unfold Scalar.least Scalar.greatest
    split_ifs <;> constructor <;> linarith
  rw [hmiddle, Box.contains_zero_iff]
  simp only [Box.real, Point.real, Box.low, Box.high, toReal_neg]
  exact ⟨hbetween hwidth, hbetween hheight⟩

-- A belt that falls by 0.004 over a length of 800, through the middle of a box 1000 long and 0.002
-- high: it is taken for level, and it crosses no upright side. And a line so long that the
-- difference between its ends is beyond all numbers.
theorem partlyInBox_misses :
    Missed ⟨⟨-500.0, -0.001⟩, ⟨500.0, 0.001⟩⟩ ⟨⟨-400.0, 0.002⟩, ⟨400.0, -0.002⟩⟩
        ⟨[.point 0 ⟨-400.0, 0.002⟩, .point 1 ⟨400.0, -0.002⟩, .line 2 0 1], .empty⟩ ∧
      Missed ⟨⟨-1.0, -1.0⟩, ⟨1.0, 1.0⟩⟩ ⟨⟨-1e308, 1.0⟩, ⟨1e308, -1.0⟩⟩
        ⟨[.point 0 ⟨-1e308, 1.0⟩, .point 1 ⟨1e308, -1.0⟩, .line 2 0 1], .empty⟩ := by
  refine ⟨⟨rfl, Sketch.check_eq_ok_of_isOk (by decide +kernel), by decide +kernel,
    by decide +kernel, ⟨1 / 2, by norm_num, ?_⟩, by decide +kernel⟩,
    ⟨rfl, Sketch.check_eq_ok_of_isOk (by decide +kernel), by decide +kernel,
    by decide +kernel, ⟨1 / 2, by norm_num, ?_⟩, by decide +kernel⟩⟩
  · exact contains_middle (by decide +kernel) (by decide +kernel) ⟨rfl, rfl⟩
  · exact contains_middle (by decide +kernel) (by decide +kernel) ⟨rfl, rfl⟩

end PlaneSketch

import PlaneSketch.Proofs.Solve.Reloading

namespace PlaneSketch

namespace OrderedMap

variable {κ ν : Type} [DecidableEq κ] {f : κ → κ}

-- The same values under other keys.
def renameKeys (f : κ → κ) (m : OrderedMap κ ν) : OrderedMap κ ν :=
  ⟨m.entries.map fun entry => (f entry.1, entry.2)⟩

theorem get?_renameKeys (hf : f.Injective) (m : OrderedMap κ ν) (key : κ) :
    (m.renameKeys f).get? (f key) = m.get? key := by
  rw [get?, get?, renameKeys, List.find?_map, Option.map_map]
  simp only [Function.comp_def, hf.eq_iff]

theorem renameKeys_insert (hf : f.Injective) (m : OrderedMap κ ν) (key : κ) (value : ν) :
    (m.insert key value).renameKeys f = (m.renameKeys f).insert (f key) value := by
  have hentries (entries : List (κ × ν)) :
      (insertEntry key value entries).map (fun entry => (f entry.1, entry.2)) =
        insertEntry (f key) value (entries.map fun entry => (f entry.1, entry.2)) := by
    induction entries with
    | nil => rfl
    | cons entry rest ih =>
        by_cases hkey : entry.1 = key
        · simp [insertEntry, hkey]
        · simp [insertEntry, hkey, hf.eq_iff, ih]
  exact congrArg OrderedMap.mk (hentries m.entries)

theorem renameKeys_ofList (hf : f.Injective) (entries : List (κ × ν)) :
    (ofList entries).renameKeys f = ofList (entries.map fun entry => (f entry.1, entry.2)) := by
  have hall (m : OrderedMap κ ν) : (m.insertAll entries).renameKeys f =
      (m.renameKeys f).insertAll (entries.map fun entry => (f entry.1, entry.2)) := by
    induction entries generalizing m with
    | nil => rfl
    | cons entry rest ih =>
        change ((m.insert entry.1 entry.2).insertAll rest).renameKeys f = _
        rw [ih, renameKeys_insert hf]
        rfl
  exact hall empty

end OrderedMap

namespace Sketch

-- The same sketch under other handles.
def rename (f : Handle → Handle) (s : Sketch) : Sketch where
  elements := s.elements.map (Element.rename f)
  labels := s.labels.renameKeys f

variable {f : Handle → Handle} {s : Sketch}

theorem get?_rename (hf : f.Injective) (s : Sketch) (id : Handle) :
    (s.rename f).get? (f id) = (s.get? id).map (Element.rename f) := by
  rw [get?, get?, rename, List.filter_map, List.getLast?_map]
  simp only [Function.comp_def, Element.id_rename, beq_eq_decide, hf.eq_iff]

theorem Linked.rename (hf : f.Injective) (hs : s.Linked) : (s.rename f).Linked where
  distinct := by
    have hids : (s.rename f).elements.map Element.id = (s.elements.map Element.id).map f := by
      simp [Sketch.rename]
    rw [hids]
    exact hs.distinct.map hf
  known := by simpa [Sketch.rename] using hs.known
  references := by
    intro e' he' r' hr'
    obtain ⟨e, he, rfl⟩ := List.mem_map.mp he'
    rw [Element.references_rename, List.mem_map] at hr'
    obtain ⟨r, hr, rfl⟩ := hr'
    obtain ⟨target, htarget, hkind⟩ := hs.references e he r hr
    exact ⟨target.rename f, by rw [get?_rename hf, htarget, Option.map_some], by simpa using hkind⟩

theorem WellFormed.rename (hf : f.Injective) (hs : s.WellFormed) : (s.rename f).WellFormed where
  toLinked := hs.toLinked.rename hf
  finite := by
    intro e' he'
    obtain ⟨e, he, rfl⟩ := List.mem_map.mp he'
    have hnumbers : (e.rename f).numbers = e.numbers := by cases e <;> rfl
    rw [hnumbers]
    exact hs.finite e he

theorem withPositions_rename (hf : f.Injective) (s : Sketch)
    (m : OrderedMap Handle (Point Float)) :
    (s.rename f).withPositions (m.renameKeys f) = (s.withPositions m).rename f := by
  have hmove (e : Element) :
      moveElement (m.renameKeys f) (e.rename f) = (moveElement m e).rename f := by
    cases e with
    | point id position =>
        simp only [Element.rename, moveElement, OrderedMap.get?_renameKeys hf]
    | _ => rfl
  simp only [withPositions, Sketch.rename, List.map_map]
  refine congrArg (Sketch.mk · _) (List.map_congr_left fun e _ => hmove e)

theorem point_mem_rename_iff (hf : f.Injective) {p : Handle} {q : Point Float} :
    .point (f p) q ∈ (s.rename f).elements ↔ .point p q ∈ s.elements := by
  rw [rename, List.mem_map]
  constructor
  · rintro ⟨e, he, hpoint⟩
    cases e with
    | point id position =>
        obtain ⟨hid, rfl⟩ := Element.point.inj hpoint
        exact hf hid ▸ he
    | _ => cases hpoint
  · exact fun hmem => ⟨_, hmem, rfl⟩

end Sketch

namespace Store

variable {α : Type} {f : Handle → Handle} {s : Store α}

-- A store about other points knows the same in the same order.
theorem renamed_rename (f : Handle → Handle) (s : Store α) :
    Renamed f Set.univ s (s.rename f) where
  epsilon := rfl
  about := fun _ _ p _ => Set.mem_univ p
  ofKind := filter_rename s.facts

theorem positions_rename (f : Handle → Handle) (s : Store α) :
    (s.rename f).positions = s.positions.map fun entry => (f entry.1, entry.2) := by
  rw [positions, positions, Store.rename, List.filterMap_map, List.map_filterMap]
  refine List.filterMap_congr fun fact _ => ?_
  cases fact <;> rfl

end Store

namespace Solve

open Store (renamed_rename)

section Propagation

variable {α : Type} [Scalar α] {f : Handle → Handle} {ctx ctx' : Context α}

variable (hf : f.Injective) (hctx : ctx.Renamed f Set.univ ctx')

include hf hctx

-- Not only what is known of each kind, the whole run is the same under other handles.
theorem run_rename (s : Store α) (rule : Rule) :
    rule.run ctx' (s.rename f) = (rule.run ctx s).rename f := by
  have hfold (facts : List (Fact α)) (s : Store α) :
      (facts.map (Fact.rename f)).foldl (fun s fact => s.addAll (rule.conclusions ctx' s fact))
          (s.rename f) =
        (facts.foldl (fun s fact => s.addAll (rule.conclusions ctx s fact)) s).rename f := by
    induction facts generalizing s with
    | nil => rfl
    | cons fact rest ih =>
        have hconclusions := conclusions_rename hf.injOn hctx (renamed_rename f s)
          (fun p _ => Set.mem_univ p : fact.About Set.univ) rule
        have hadd : (s.addAll (rule.conclusions ctx s fact)).rename f = (s.rename f).addAll _ :=
          Store.rename_addAll hf.injOn (fun _ _ p _ => Set.mem_univ p) fun _ _ p _ => Set.mem_univ p
        rw [List.map_cons, List.foldl_cons, List.foldl_cons, hconclusions, ← hadd, ih]
  rw [Rule.run, Rule.run, (renamed_rename f s).ofKind, hfold]

theorem pass_rename (s : Store α) : pass ctx' (s.rename f) = (pass ctx s).rename f := by
  unfold pass
  induction Rule.all generalizing s with
  | nil => rfl
  | cons rule rest ih => rw [List.foldl_cons, List.foldl_cons, run_rename hf hctx, ih]

-- A pass learns nothing in the one run just if it learns nothing in the other.
theorem propagateFrom_rename (left done : Nat) (s : Store α) :
    propagateFrom ctx' left done (s.rename f) =
      { propagateFrom ctx left done s with
        store := (propagateFrom ctx left done s).store.rename f } := by
  induction left generalizing done s with
  | zero => rfl
  | succ left ih =>
      have hiff := pass_eq_self_iff_renamed hf.injOn hctx (renamed_rename f s)
      by_cases hstable : pass ctx s = s
      · rw [propagateFrom_of_stable left done hstable,
          propagateFrom_of_stable left done (hiff.mpr hstable)]
      · rw [propagateFrom_of_learning left done hstable,
          propagateFrom_of_learning left done (mt hiff.mp hstable), pass_rename hf hctx, ih]

end Propagation

-- The same solution under other handles.
def Solution.rename (f : Handle → Handle) (solution : Solution) : Solution where
  resolved := solution.resolved.renameKeys f
  updated := solution.updated.rename f
  passes := solution.passes
  converged := solution.converged
  facts := solution.facts.map (Fact.rename f)

variable {f : Handle → Handle} {s : Sketch}

theorem seeded_rename (hf : StrictMono f) (hs : s.Linked) (epsilon : Float) :
    seeded (s.rename f) epsilon = (seeded s epsilon).rename f := by
  have hstated : (s.rename f).elements.flatMap (stated (s.rename f)) =
      (s.elements.flatMap (stated s)).map (Fact.rename f) := by
    rw [Sketch.rename, List.flatMap_map, List.map_flatMap]
    refine List.flatMap_congr fun e he => ?_
    refine stated_rename hs he (fun target htarget => ?_) fun _ _ p _ q _ => hf.le_iff_le.symm
    exact (Sketch.get?_rename hf.injective s target.id).trans
      (by rw [Sketch.get?_of_mem hs.distinct htarget, Option.map_some])
  have hadd : ((Store.empty epsilon).addAll (s.elements.flatMap (stated s))).rename f =
      ((Store.empty epsilon).rename f).addAll _ :=
    Store.rename_addAll hf.injective.injOn (fun _ _ p _ => Set.mem_univ p)
      fun _ _ p _ => Set.mem_univ p
  rw [seeded, hstated, seeded, hadd]
  rfl

theorem renamed_initialPositions (hf : f.Injective) (hs : s.Linked) (options : Options Float) :
    Context.Renamed f Set.univ ⟨ruler, initialPositions s, options⟩
      ⟨ruler, initialPositions (s.rename f), options⟩ := by
  refine ⟨rfl, rfl, fun p _ => ?_⟩
  ext q
  rw [get?_initialPositions (hs.rename hf).distinct, get?_initialPositions hs.distinct,
    Sketch.point_mem_rename_iff hf]

theorem finish_rename (hf : f.Injective) (s : Sketch) (p : Propagation Float) :
    finish (s.rename f) { p with store := p.store.rename f } = (finish s p).rename f := by
  have hresolved : resolvedPositions (p.store.rename f) =
      (resolvedPositions p.store).renameKeys f := by
    rw [resolvedPositions_eq, resolvedPositions_eq, Store.positions_rename,
      OrderedMap.renameKeys_ofList hf]
  simp only [finish, Solution.rename, hresolved, Sketch.withPositions_rename hf]
  rfl

-- Of its handles solving only uses the order: a sketch under other handles in the same order has
-- the same solution under those handles.
theorem solve_renumbered (hcheck : s.check = .ok ()) (hf : StrictMono f)
    (options : Options Float) :
    ∃ solution, solve ruler s options = .ok solution ∧
      solve ruler (s.rename f) options = .ok (solution.rename f) := by
  have hs : s.WellFormed := Sketch.wellFormed_of_check hcheck
  refine ⟨_, solve_eq_ok hs options, ?_⟩
  rw [solve_eq_ok (hs.rename hf.injective), propagated, seeded_rename hf hs.toLinked, propagate,
    propagateFrom_rename hf.injective (renamed_initialPositions hf.injective hs.toLinked options)]
  exact congrArg Except.ok (finish_rename hf.injective s _)

-- A slide on a rail between two fixed posts. Its handle is below those of the posts, so the rail is
-- drawn through the first position that is known in the order of the handles.
def railSketch : Sketch where
  elements :=
    [.point 8 ⟨10.0, 0.0⟩, .line 20 8 3, .point 3 ⟨0.0, 0.0⟩, .point (-2) ⟨5.0, 1.0⟩,
      .fixed 11 8 ⟨10.0, 0.0⟩, .fixed 12 3 ⟨0.0, 0.0⟩, .pointOnLine 14 (-2) 20,
      .distance 15 3 (-2) 4.0 ⟨0.5, 1.0⟩ false]
  labels := ⟨[(-2, "slide"), (20, "rail")]⟩

-- Five apart, with the handle of the slide at zero.
def spread (h : Handle) : Handle := 5 * h + 10

theorem solve_renumbered_rail :
    railSketch.check = .ok () ∧ StrictMono spread ∧
      ∃ solution, solve .standard railSketch .standard = .ok solution ∧
        solve .standard (railSketch.rename spread) .standard = .ok (solution.rename spread) ∧
        .onLine 0 ⟨0.0, 0.0⟩ ⟨10.0, 0.0⟩ ∈ (solution.rename spread).facts ∧
        .point 0 ⟨4.0, 0.0⟩ ∈ (solution.rename spread).updated.elements ∧
        solution.converged = true := by
  have hcheck : railSketch.check = .ok () := Sketch.check_eq_ok_of_isOk (by decide +kernel)
  have hspread : StrictMono spread := fun h k hlt =>
    Int.add_lt_add_right (Int.mul_lt_mul_of_pos_left hlt (by decide)) 10
  have hfound : (solve .standard railSketch .standard).toOption.map (fun solution =>
      decide (.onLine (-2) ⟨0.0, 0.0⟩ ⟨10.0, 0.0⟩ ∈ solution.facts ∧
        .point (-2) ⟨4.0, 0.0⟩ ∈ solution.updated.elements ∧ solution.converged = true)) =
      some true := by decide +kernel
  obtain ⟨solution, hsolve, hrenumbered⟩ := solve_renumbered hcheck hspread .standard
  rw [hsolve] at hfound
  obtain ⟨hline, hpoint, hconverged⟩ := of_decide_eq_true (Option.some.inj hfound)
  exact ⟨hcheck, hspread, solution, hsolve, hrenumbered, List.mem_map_of_mem hline,
    List.mem_map_of_mem hpoint, hconverged⟩

end Solve

end PlaneSketch

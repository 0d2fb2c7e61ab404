import PlaneSketch.Trace.Literal
import PlaneSketch.Trace.Record

namespace PlaneSketch.Solve

open Trace (Arguments Call Level Record)

-- The names rules have in records.
def Rule.name : Rule → String
  | axisLinesAndCircles => "_derive_axis_lines_and_circles"
  | linesWithCircles => "_intersect_lines_with_circles"
  | circles => "_intersect_circles"
  | lines => "_intersect_lines"
  | offsetLines => "_derive_offset_lines"
  | collinearLines => "_derive_collinear_lines"
  | bisectorLines => "_derive_bisector_lines"
  | equalRadii => "_propagate_equal_radii"

def Rule.ofName? (text : String) : Option Rule := Rule.all.find? fun rule => rule.name = text

namespace Log

def solverLogger : String := "sketch_solver.solver"

def factsLogger : String := "sketch_solver.facts"

def debug (message : String) : Record := ⟨.debug, solverLogger, message⟩

def info (message : String) : Record := ⟨.info, solverLogger, message⟩

-- The facts that one store has beyond an earlier one.
def learned (before after : Store Float) : List Record :=
  (after.facts.drop before.size).map fun fact =>
    ⟨.debug, factsLogger, "Learned fact " ++ Trace.factLiteral fact⟩

-- Seeding element by element, up to the first that cannot be looked up.
def seeding (s : Sketch) (store : Store Float) :
    List Element → Except LookupError (Store Float) × List Record
  | [] => (.ok store, [])
  | e :: rest =>
      match statements s e with
      | .error error => (.error error, [])
      | .ok facts =>
          let next := store.addAll facts
          let (result, records) := seeding s next rest
          (result, learned store next ++ records)

-- One rule after another. A rule is entered with the whole context, which is not shown.
def rules (threshold : Level) (ctx : Context Float) (store : Store Float) :
    List Rule → Store Float × List Record
  | [] => (store, [])
  | rule :: rest =>
      let next := rule.run ctx store
      let call : Call := ⟨solverLogger, rule.name, "", true⟩
      let (final, records) := rules threshold ctx next rest
      (final, call.records threshold (learned store next) Trace.nothing ++ records)

def passes (threshold : Level) (ctx : Context Float) :
    (left done : Nat) → Store Float → Propagation Float × List Record
  | 0, done, store =>
      (⟨store, done, false⟩,
        [info ("Propagation stopped at the pass cap (" ++ toString ctx.options.maxPasses ++
          ") with facts still growing")])
  | left + 1, done, store =>
      let (next, records) := rules threshold ctx store Rule.all
      let report := debug ("Pass " ++ toString (done + 1) ++ " learned " ++
        toString (next.size - store.size) ++ " fact(s)")
      if next.size = store.size then (⟨next, done + 1, true⟩, records ++ [report])
      else
        let (propagation, more) := passes threshold ctx left (done + 1) next
        (propagation, records ++ report :: more)

def seedCall (s : Sketch) (store : Store Float) : Call :=
  .withArguments solverLogger "seed_facts" ⟨[Trace.sketchValue s, Trace.storeValue store], []⟩

def propagateCall (store : Store Float) (initial : OrderedMap Handle (Point Float))
    (options : Options Float) : Call :=
  .withArguments solverLogger "propagate"
    ⟨[Trace.storeValue store, Trace.positionsValue initial, .word (Trace.optionsLiteral options)],
      []⟩

def solveCall (s : Sketch) (options : Options Float) : Call :=
  .withArguments solverLogger "solve"
    ⟨[Trace.sketchValue s, .word (Trace.optionsLiteral options)], []⟩

def summary (solution : Solution) (points : Nat) : Record :=
  info ("Solved sketch: " ++ toString solution.resolved.size ++ "/" ++ toString points ++
    " point(s) resolved, " ++ toString solution.facts.length ++ " fact(s), " ++
    toString solution.passes ++ " pass(es), converged=" ++
    Trace.truthLiteral solution.converged)

-- Solving with the records it makes on the way.
def solve (threshold : Level) (ruler : Ruler Float) (s : Sketch) (options : Options Float) :
    Except LookupError Solution × List Record :=
  let initial := initialPositions s
  let ctx : Context Float := ⟨ruler, initial, options⟩
  let start : Store Float := .empty options.epsilon
  let (seeded, seedRecords) := seeding s start s.elements
  match seeded with
  | .error error =>
      let inside := (seedCall s start).records threshold seedRecords none
      (.error error, (solveCall s options).records threshold inside none)
  | .ok store =>
      let count := debug ("Seeded " ++ toString store.size ++ " fact(s) for " ++
        toString initial.size ++ " point(s)")
      let seedInside := (seedCall s start).records threshold (seedRecords ++ [count])
        (Trace.positionsValue initial)
      let (propagation, passRecords) := passes threshold ctx options.maxPasses.toNat 0 store
      let passInside := (propagateCall store initial options).records threshold passRecords
        (some (.collection .round
          [.integer propagation.passes, Trace.truth propagation.converged]))
      let solution := finish s propagation
      (.ok solution,
        (solveCall s options).records threshold
          (seedInside ++ passInside ++ [summary solution initial.size])
          (some (.word (Trace.solutionLiteral solution))))

-- Records are only made beside solving: what is solved is the same with and without them.

theorem seeding_fst (s : Sketch) (store : Store Float) (elements : List Element) :
    (seeding s store elements).1 =
      elements.foldlM (fun store e => do
        let facts ← statements s e
        .ok (store.addAll facts)) store := by
  induction elements generalizing store with
  | nil => rfl
  | cons e rest ih =>
      rw [List.foldlM_cons, seeding]
      cases statements s e with
      | error error => rfl
      | ok facts => exact ih (store.addAll facts)

theorem rules_fst (threshold : Level) (ctx : Context Float) (store : Store Float)
    (todo : List Rule) :
    (rules threshold ctx store todo).1 = todo.foldl (fun s rule => rule.run ctx s) store := by
  induction todo generalizing store with
  | nil => rfl
  | cons rule rest ih => exact ih (rule.run ctx store)

theorem passes_fst (threshold : Level) (ctx : Context Float) (left done : Nat)
    (store : Store Float) :
    (passes threshold ctx left done store).1 = propagateFrom ctx left done store := by
  induction left generalizing done store with
  | zero => rfl
  | succ left ih =>
      have hpass : (rules threshold ctx store Rule.all).1 = pass ctx store := rules_fst ..
      simp only [passes, propagateFrom, hpass]
      split
      · rfl
      · exact ih (done + 1) (pass ctx store)

theorem solve_fst (threshold : Level) (ruler : Ruler Float) (s : Sketch)
    (options : Options Float) :
    (solve threshold ruler s options).1 = Solve.solve ruler s options := by
  have hseed : (seeding s (.empty options.epsilon) s.elements).1 =
      seed s (.empty options.epsilon) := seeding_fst ..
  unfold solve Solve.solve
  rw [← hseed]
  cases h : (seeding s (.empty options.epsilon) s.elements).1 with
  | error error => simp [h, bind, Except.bind]
  | ok store => simp [h, bind, Except.bind, propagate, passes_fst]

end Log

end PlaneSketch.Solve

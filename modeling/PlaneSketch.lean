import PlaneSketch.Cli.Run
import PlaneSketch.Main
import PlaneSketch.Sketch.Pick
import PlaneSketch.Sketch.Call
import PlaneSketch.Fact.Indexed
import PlaneSketch.Proofs.Binary.Packing
import PlaneSketch.Proofs.Binary.Rounding
import PlaneSketch.Proofs.Binary.Class
import PlaneSketch.Proofs.Binary.Magnitude
import PlaneSketch.Proofs.Binary.Value
import PlaneSketch.Proofs.Binary.Accuracy
import PlaneSketch.Proofs.Geometry.Distance
import PlaneSketch.Proofs.Geometry.Crossing
import PlaneSketch.Proofs.Geometry.Domain
import PlaneSketch.Proofs.Geometry.Exact
import PlaneSketch.Proofs.Geometry.Helper
import PlaneSketch.Proofs.OrderedMap
import PlaneSketch.Proofs.Fact.Growth
import PlaneSketch.Proofs.Fact.Handles
import PlaneSketch.Proofs.Fact.Agreement
import PlaneSketch.Proofs.Fact.Premises
import PlaneSketch.Proofs.Fact.Identity
import PlaneSketch.Proofs.Sketch.WellFormed
import PlaneSketch.Proofs.Sketch.Interleaving
import PlaneSketch.Proofs.Sketch.Moved
import PlaneSketch.Proofs.Solve.Step
import PlaneSketch.Proofs.Solve.FixedPoint
import PlaneSketch.Proofs.Solve.Conclusion
import PlaneSketch.Proofs.Solve.Restriction
import PlaneSketch.Proofs.Solve.Seeding
import PlaneSketch.Proofs.Solve.Independence
import PlaneSketch.Proofs.Solve.Settling
import PlaneSketch.Proofs.Solve.Convergence
import PlaneSketch.Proofs.Solve.Nearest
import PlaneSketch.Proofs.Solve.Replay
import PlaneSketch.Proofs.Solve.Idempotence
import PlaneSketch.Proofs.Solve.Soundness
import PlaneSketch.Proofs.Solve.Truncation
import PlaneSketch.Proofs.Solve.Derivation
import PlaneSketch.Proofs.Solve.Pins
import PlaneSketch.Proofs.Solve.Frame
import PlaneSketch.Proofs.Solve.Distances
import PlaneSketch.Proofs.Solve.Guides
import PlaneSketch.Proofs.Solve.Lockstep
import PlaneSketch.Proofs.Solve.HelperLength
import PlaneSketch.Proofs.Solve.Dragging
import PlaneSketch.Proofs.Solve.Redrawing
import PlaneSketch.Proofs.Sketch.Picking
import PlaneSketch.Proofs.Solve.Domain
import PlaneSketch.Proofs.Solve.Answering
import PlaneSketch.Proofs.Document.Loading
import PlaneSketch.Proofs.Document.Reload
import PlaneSketch.Proofs.Document.RoundTrip
import PlaneSketch.Proofs.Document.Isomorphism
import PlaneSketch.Proofs.Document.Accepted
import PlaneSketch.Proofs.Document.Refusal
import PlaneSketch.Proofs.Fact.Renaming
import PlaneSketch.Proofs.Solve.Renaming
import PlaneSketch.Proofs.Solve.Renumbering
import PlaneSketch.Proofs.Solve.Reloading
import PlaneSketch.Proofs.Binary.Overflow
import PlaneSketch.Proofs.Binary.Identities
import PlaneSketch.Proofs.Builder.Effect
import PlaneSketch.Proofs.Builder.Handles
import PlaneSketch.Proofs.Builder.Refusals
import PlaneSketch.Proofs.Builder.Kinds
import PlaneSketch.Proofs.Fact.Buckets
import PlaneSketch.Proofs.Sketch.Acceptance
import PlaneSketch.Proofs.Solve.PairDistances
import PlaneSketch.Proofs.Solve.FirstStated
import PlaneSketch.Proofs.Geometry.Common
import PlaneSketch.Proofs.Binary.Estimate
import PlaneSketch.Proofs.Geometry.Heading
import PlaneSketch.Proofs.Geometry.Secant
import PlaneSketch.Proofs.Geometry.Lens
import PlaneSketch.Proofs.Binary.Order
import PlaneSketch.Proofs.Geometry.Reach
import PlaneSketch.Proofs.Sketch.Cursor
import PlaneSketch.Proofs.Builder.Reopening
import PlaneSketch.Proofs.Geometry.Foot
import PlaneSketch.Proofs.Geometry.Box
import PlaneSketch.Proofs.Sketch.Boxes
import PlaneSketch.Proofs.Geometry.Clipping
import PlaneSketch.Proofs.Geometry.Landing
import PlaneSketch.Proofs.Geometry.SideCrossing
import PlaneSketch.Proofs.Sketch.Crossed
import PlaneSketch.Proofs.Geometry.Placement
import PlaneSketch.Proofs.Geometry.Bisector
import PlaneSketch.Proofs.FirstLeast

import PlaneSketch.Decimal.Layout
import PlaneSketch.Scalar

namespace PlaneSketch.Solve

structure Options (α : Type) where
  -- At most this many passes are run, whether or not they reach a fixed point.
  maxPasses : Int
  -- Closer than this counts as equal.
  epsilon : α
  -- How far apart the two positions are that describe an upright or a level line.
  axisLength : α

namespace Options

variable {α : Type} [Scalar α]

def standard : Options α := ⟨50, Scalar.tolerance, 100.0⟩

end Options

-- An option that is not positive.
inductive OptionsError (α : Type) where
  | maxPasses (value : Int)
  | epsilon (value : α)
  | axisLength (value : α)

def OptionsError.message : OptionsError Float → String
  | maxPasses value => "max_passes must be positive, got " ++ toString value
  | epsilon value => "epsilon must be positive, got " ++ Decimal.plain value
  | axisLength value => "axis_line_length must be positive, got " ++ Decimal.plain value

variable {α : Type} [Scalar α]

-- Options are refused only for a value known not to be positive, so a NaN passes.
def Options.check (options : Options α) : Except (OptionsError α) (Options α) :=
  if options.maxPasses < 1 then .error (.maxPasses options.maxPasses)
  else if options.epsilon ≤ 0.0 then .error (.epsilon options.epsilon)
  else if options.axisLength ≤ 0.0 then .error (.axisLength options.axisLength)
  else .ok options

end PlaneSketch.Solve

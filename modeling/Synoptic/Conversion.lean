import Synoptic.Context
import Synoptic.Value
import Synoptic.Spline.Fit
import Synoptic.Spline.Evaluation

namespace Synoptic

variable {α : Type} [Number α]

/-- Fits a grid on its own spacing. The default grid is asked for but does not enter. -/
def gridToSpline (g : Grid α) (ctx : Context α) : Except (ValueError α) (Spline α) := do
  let _ ← ctx.defaultGrid
  Spline.fit g .origin ctx.projection

def splineToGrid (s : Spline α) (ctx : Context α) : Except (ValueError α) (Grid α) := do
  let grid ← ctx.defaultGrid
  s.ensureUsable "spline sample"
  .ok (s.toGrid grid ctx.projection)

def onDefaultGrid (g : Grid α) (ctx : Context α) : Except (ValueError α) Bool := do
  let grid ← ctx.defaultGrid
  .ok (g.nx == grid.nx && g.ny == grid.ny && g.cell == grid.cell)

def normalizeGrid (g : Grid α) (ctx : Context α) : Except (ValueError α) (Grid α) := do
  if ← onDefaultGrid g ctx then .ok g
  else
    let s ← gridToSpline g ctx
    splineToGrid s ctx

def convert (target : Kind) (value : Value α) (ctx : Context α) :
    Except (ValueError α) (Value α) :=
  match value, target with
  | .scalar x, .scalar => .ok (.scalar x)
  | .grid g, .grid => .ok (.grid g)
  | .spline s, .spline => .ok (.spline s)
  | .samples s, .samples => .ok (.samples s)
  | .scalar x, .grid => do
    let grid ← ctx.defaultGrid
    .ok (.grid (.filled grid x))
  | .scalar x, .spline => do
    let grid ← ctx.defaultGrid
    .ok (.spline (.constant x grid ctx.projection))
  | .scalar x, .samples => do
    let points ← ctx.evalPoints
    .ok (.samples (.filled points x))
  | .grid g, .spline => .spline <$> gridToSpline g ctx
  | .spline s, .grid => .grid <$> splineToGrid s ctx
  | v, t => .error (.conversion v.kind t)

end Synoptic

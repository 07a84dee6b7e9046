import Synoptic.Spline.Fit
import Synoptic.Spline.Evaluation

namespace Synoptic.Reprojection

variable {α : Type} [Number α]

def isNeeded (stored target : Projection α) : Bool := !stored.sameMap target

/-- The nodes that components are resampled at: those of the target, else those of the source. -/
def targetGrid (x : Spline α) (target : Projection α) : GridSpec α := target.grid.getD x.nodes

def rotated (x y : Spline α) (target : Projection α) (p : Point α) : α × α :=
  let q := target.transfer p x.projection
  let u := x.valueAt q
  let v := y.valueAt q
  let turn := target.northAngle p - x.projection.northAngle q
  let s := Number.sin turn
  let c := Number.cos turn
  (u * c - v * s, u * s + v * c)

def components (x y : Spline α) (target : Projection α) :
    Except (ValueError α) (Spline α × Spline α) := do
  x.ensureUsable "component reprojection"
  y.ensureUsable "component reprojection"
  let grid := targetGrid x target
  let gx := Grid.ofFn grid fun ix iy => (rotated x y target (grid.node ix iy)).1
  let gy := Grid.ofFn grid fun ix iy => (rotated x y target (grid.node ix iy)).2
  let rx ← Spline.fit gx .origin target
  let ry ← Spline.fit gy .origin target
  .ok (rx, ry)

end Synoptic.Reprojection

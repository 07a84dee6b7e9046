import Synoptic.Spline

namespace Synoptic

structure Derivatives (α : Type) where
  value : α
  fx : α
  fy : α
  fxx : α
  fxy : α
  fyy : α
  deriving BEq, DecidableEq

namespace Spline

variable {α : Type} [Number α]

structure Weights (α : Type) where
  w0 : α
  w1 : α
  w2 : α
  w3 : α

def basis (t : α) : Weights α where
  w0 := let s := 1 - t; s * s * s / 6
  w1 := (3 * t * t * t - 6 * t * t + 4) / 6
  w2 := (-3 * t * t * t + 3 * t * t + 3 * t + 1) / 6
  w3 := t * t * t / 6

def basis₁ (t : α) : Weights α where
  w0 := let s := 1 - t; -s * s / 2
  w1 := (3 * t * t - 4 * t) / 2
  w2 := (-3 * t * t + 2 * t + 1) / 2
  w3 := t * t / 2

def basis₂ (t : α) : Weights α where
  w0 := 1 - t
  w1 := 3 * t - 2
  w2 := 1 - 3 * t
  w3 := t

/-- Cell of a coordinate counted in nodes, and the place within it: in `[0, 1]` inside the surface. -/
def locate (u : α) (nodes : Nat) : Nat × α :=
  let last : α := ((nodes - 2 : Nat) : α)
  let i := Number.clamp (Number.floor u) 0 last
  (Number.toIndex i, u - i)

def toNodes (s : Spline α) (p : Point α) : α × α :=
  let angle := Number.toRadians s.orientation
  let sn := Number.sin angle
  let c := Number.cos angle
  let dx := p.x - s.origin.x
  let dy := p.y - s.origin.y
  ((dx * c + dy * sn) / s.cell, (-dx * sn + dy * c) / s.cell)

def coeff (s : Spline α) (i j : Nat) : α := Number.read s.coeffs (j * s.columns + i)

def rowSum (s : Spline α) (i j : Nat) (w : Weights α) : α :=
  s.coeff i j * w.w0 + s.coeff (i + 1) j * w.w1 + s.coeff (i + 2) j * w.w2 +
    s.coeff (i + 3) j * w.w3

def weighted (s : Spline α) (i j : Nat) (wu wv : Weights α) : α :=
  0 + wv.w0 * s.rowSum i j wu + wv.w1 * s.rowSum i (j + 1) wu + wv.w2 * s.rowSum i (j + 2) wu +
    wv.w3 * s.rowSum i (j + 3) wu

def valueAt (s : Spline α) (p : Point α) : α :=
  let (u, v) := s.toNodes p
  let (i, tu) := locate u (s.columns - 2)
  let (j, tv) := locate v (s.rows - 2)
  s.weighted i j (basis tu) (basis tv)

/-- Derivatives are taken along columns and rows and turned back onto the axes of the map. -/
def derivativesAt (s : Spline α) (p : Point α) : Derivatives α :=
  let (u, v) := s.toNodes p
  let (i, tu) := locate u (s.columns - 2)
  let (j, tv) := locate v (s.rows - 2)
  let f := s.weighted i j (basis tu) (basis tv)
  let fu := s.weighted i j (basis₁ tu) (basis tv)
  let fv := s.weighted i j (basis tu) (basis₁ tv)
  let fuu := s.weighted i j (basis₂ tu) (basis tv)
  let fuv := s.weighted i j (basis₁ tu) (basis₁ tv)
  let fvv := s.weighted i j (basis tu) (basis₂ tv)
  let angle := Number.toRadians s.orientation
  let sn := Number.sin angle
  let c := Number.cos angle
  let h := s.cell
  let h2 := h * h
  { value := f
    fx := (c * fu - sn * fv) / h
    fy := (sn * fu + c * fv) / h
    fxx := (c * c * fuu - 2 * c * sn * fuv + sn * sn * fvv) / h2
    fxy := (c * sn * fuu + (c * c - sn * sn) * fuv - c * sn * fvv) / h2
    fyy := (sn * sn * fuu + 2 * c * sn * fuv + c * c * fvv) / h2 }

def toGrid (s : Spline α) (grid : GridSpec α) (projection : Projection α) : Grid α :=
  Grid.ofFn grid fun ix iy => s.valueAt (projection.transfer (grid.node ix iy) s.projection)

/-- Curvature of the line of equal value through a point; zero where the gradient vanishes. -/
def isolineCurvature (d : Derivatives α) : α :=
  let g2 := d.fx * d.fx + d.fy * d.fy
  if g2 ≤ 1 / 4503599627370496 then 0
  else
    (d.fxx * d.fy * d.fy - 2 * d.fxy * d.fx * d.fy + d.fyy * d.fx * d.fx) / Number.pow g2 1.5

end Spline

end Synoptic

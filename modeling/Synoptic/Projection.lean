import Synoptic.Number

/-!
Map projections: positions on a map, latitude and longitude, the direction of north, and the
positions of one map seen on another.

Positions are in map units of `MapFrame.units` metres each. They are measured from the map origin,
the place at `(originLat, originLon)`, and shifted by `(xOffset, yOffset)`.
-/

namespace Synoptic

structure Point (α : Type) where
  x : α
  y : α
  deriving BEq, DecidableEq

inductive ProjectionKind (α : Type)
  | latLon
  | polarStereographic (north : Bool) (trueLat : α)
  | mercator (trueLat : α)
  deriving BEq, DecidableEq

structure MapFrame (α : Type) where
  originLat : α
  originLon : α
  referenceLon : α
  xOffset : α
  yOffset : α
  xExtent : α
  yExtent : α
  units : α
  deriving BEq, DecidableEq

/-- A rectangular array of nodes, `cell` map units apart, the first one at the map position
`(0, 0)`. -/
structure GridSpec (α : Type) where
  nx : Nat
  ny : Nat
  cell : α
  deriving BEq, DecidableEq

structure Projection (α : Type) where
  kind : ProjectionKind α
  frame : MapFrame α
  grid : Option (GridSpec α)
  deriving BEq, DecidableEq

variable {α : Type} [Number α]

def Point.origin : Point α := ⟨0, 0⟩

def MapFrame.standard : MapFrame α := ⟨0, 0, 0, 0, 0, 0, 0, 1000⟩

namespace GridSpec

def Valid (g : GridSpec α) : Prop := 2 ≤ g.nx ∧ 2 ≤ g.ny ∧ 0 < g.cell

instance (g : GridSpec α) : Decidable g.Valid := by unfold Valid; infer_instance

def node (g : GridSpec α) (ix iy : Nat) : Point α := ⟨(ix : α) * g.cell, (iy : α) * g.cell⟩

def size (g : GridSpec α) : Nat := g.nx * g.ny

end GridSpec

def wrapDegrees (angle : α) : α :=
  let a := Number.rem angle 360
  if 180 < a then a - 360 else if a ≤ -180 then a + 360 else a

namespace Projection

open Number

def standard : Projection α := ⟨.latLon, .standard, none⟩

def withGrid (p : Projection α) (grid : GridSpec α) : Projection α := { p with grid := some grid }

def earthRadius : α := 6371220

/-- Equality of kind and frame; the grids may differ. -/
def sameMap (p q : Projection α) : Bool := p.kind == q.kind && p.frame == q.frame

def poleScale (trueLat : α) : α := earthRadius * (1 + sin (toRadians (abs trueLat)))

def plane (p : Projection α) (lat lon : α) : α × α :=
  let dlon := toRadians (wrapDegrees (lon - p.frame.referenceLon))
  let phi := toRadians lat
  match p.kind with
  | .latLon => (earthRadius * dlon, earthRadius * phi)
  | .mercator trueLat =>
    let k := earthRadius * cos (toRadians trueLat)
    let phi := clamp phi (toRadians (-89.9)) (toRadians 89.9)
    (k * dlon, k * log (tan (pi / 4 + phi / 2)))
  | .polarStereographic north trueLat =>
    let scale := poleScale trueLat
    if north then
      let rho := scale * cos phi / (1 + sin phi)
      (rho * sin dlon, -rho * cos dlon)
    else
      let rho := scale * cos phi / (1 - sin phi)
      (rho * sin dlon, rho * cos dlon)

def planeInverse (p : Projection α) (x y : α) : α × α :=
  let (phi, dlon) :=
    match p.kind with
    | .latLon => (y / earthRadius, x / earthRadius)
    | .mercator trueLat =>
      let k := earthRadius * cos (toRadians trueLat)
      (2 * atan (exp (y / k)) - pi / 2, x / k)
    | .polarStereographic north trueLat =>
      let scale := poleScale trueLat
      let rho := hypot x y
      let colat := 2 * atan (rho / scale)
      if north then (pi / 2 - colat, atan2 x (-y)) else (colat - pi / 2, atan2 x y)
  (toDegrees phi, wrapDegrees (toDegrees dlon + p.frame.referenceLon))

def originPlane (p : Projection α) : α × α := p.plane p.frame.originLat p.frame.originLon

def position (p : Projection α) (lat lon : α) : Point α :=
  let (x0, y0) := p.originPlane
  let (x, y) := p.plane lat lon
  ⟨(x - x0) / p.frame.units + p.frame.xOffset, (y - y0) / p.frame.units + p.frame.yOffset⟩

def metres (p : Projection α) (pos : Point α) : α × α :=
  let (x0, y0) := p.originPlane
  ((pos.x - p.frame.xOffset) * p.frame.units + x0, (pos.y - p.frame.yOffset) * p.frame.units + y0)

def latLon (p : Projection α) (pos : Point α) : α × α :=
  let (x, y) := p.metres pos
  p.planeInverse x y

/-- Direction of north at a map position, in radians from the x axis. At the pole itself it is that
of the y axis. -/
def northAngle (p : Projection α) (pos : Point α) : α :=
  match p.kind with
  | .latLon | .mercator _ => pi / 2
  | .polarStereographic north _ =>
    let (x, y) := p.metres pos
    if hypot x y < 1e-6 then pi / 2 else if north then atan2 (-y) (-x) else atan2 y x

def transfer (p : Projection α) (pos : Point α) (q : Projection α) : Point α :=
  if p.sameMap q then pos
  else
    let (lat, lon) := p.latLon pos
    q.position lat lon

end Projection

end Synoptic

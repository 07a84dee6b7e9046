import Synoptic.Spline

namespace Synoptic

namespace Tridiagonal

variable {α : Type} [Number α]

/-- Solves `pivot · x₀ + x₁ = rhs` together with `xᵢ₋₁ + 4 xᵢ + xᵢ₊₁ = rhsᵢ` for the rest: the first
unknown and the others. Each pivot is eliminated from the next equation on the way in. -/
def sweep (pivot rhs : α) : List α → α × List α
  | [] => (rhs / pivot, [])
  | next :: rest =>
    let w := 1 / pivot
    let (x, xs) := sweep (4 - w) (next - w * rhs) rest
    ((rhs - x) / pivot, x :: xs)

/-- The `x` with `xᵢ₋₁ + 4 xᵢ + xᵢ₊₁ = rhsᵢ`, neighbours beyond the ends read as zero. -/
def solve : List α → List α
  | [] => []
  | rhs :: rest =>
    let (x, xs) := sweep 4 rhs rest
    x :: xs

end Tridiagonal

namespace Spline

variable {α : Type} [Number α]

def modifyLast (f : α → α) : List α → List α
  | [] => []
  | [x] => [f x]
  | x :: y :: rest => x :: modifyLast f (y :: rest)

/-- Coefficients through a first value, inner ones and a last value. Without curvature at an end the
coefficient there is the value, and the one beyond it continues the line. -/
def lineCoeffs (first : α) (inner : List α) (last : α) : List α :=
  let rhs := modifyLast (· - last) ((inner.map (6 * ·)).modifyHead (· - first))
  let solved := Tridiagonal.solve rhs
  let second := (solved ++ [last]).head (by simp)
  let beforeLast := (first :: solved).getLast (by simp)
  (2 * first - second) :: first :: solved ++ [last, 2 * last - beforeLast]

def fitLine : List α → List α
  | [] => []
  | first :: rest =>
    if h : rest = [] then []
    else lineCoeffs first rest.dropLast (rest.getLast h)

def gridRow (g : Grid α) (iy : Nat) : List α := (List.range g.nx).map fun ix => g.get ix iy

def rowFits (g : Grid α) : List (Array α) :=
  (List.range g.ny).map fun iy => (fitLine (gridRow g iy)).toArray

def columnFits (g : Grid α) : Array (Array α) :=
  let rows := rowFits g
  Array.ofFn (n := g.nx + 2) fun j =>
    (fitLine (rows.map fun row => Number.read row j.val)).toArray

/-- Grids that a spline can be put through. An undefined distance between nodes is let through. -/
def Fittable (g : Grid α) : Prop :=
  ¬(g.nx < 2 ∨ g.ny < 2 ∨ g.cell ≤ 0 ∨ g.data.size ≠ g.nx * g.ny)

instance (g : Grid α) : Decidable (Fittable g) := by unfold Fittable; infer_instance

def fitCoeffs (g : Grid α) : Array α :=
  let fits := columnFits g
  tabulate (g.nx + 2) (g.ny + 2) fun j k => Number.read (fits.getD j #[]) k

def fit (g : Grid α) (origin : Point α) (projection : Projection α) :
    Except (ValueError α) (Spline α) :=
  if Fittable g then
    .ok
      { columns := g.nx + 2
        rows := g.ny + 2
        coeffs := fitCoeffs g
        origin
        orientation := 0
        cell := g.cell
        projection }
  else .error (.shape "spline fit" (.unfittable g.nx g.ny g.cell))

end Spline

end Synoptic

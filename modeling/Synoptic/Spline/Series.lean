import Synoptic.Number

namespace Synoptic.Series

variable {α : Type} [Number α]

/-- One equation of the system: `before · xᵢ₋₁ + pivot · xᵢ + … = rhs`. -/
structure Equation (α : Type) where
  before : α
  pivot : α
  rhs : α

structure Knot (α : Type) where
  time : α
  value : α
  bend : α

def equations : List (α × α) → List (Equation α)
  | (t0, v0) :: (t1, v1) :: (t2, v2) :: rest =>
    let h0 := t1 - t0
    let h1 := t2 - t1
    ⟨h0, 2 * (h0 + h1), 6 * ((v2 - v1) / h1 - (v1 - v0) / h0)⟩ ::
      equations ((t1, v1) :: (t2, v2) :: rest)
  | _ => []

/-- Solves a symmetric tridiagonal system from a first pivot and right side on: the first unknown
and the others. -/
def sweep (pivot rhs : α) : List (Equation α) → α × List α
  | [] => (rhs / pivot, [])
  | e :: rest =>
    let w := e.before / pivot
    let (x, xs) := sweep (e.pivot - w * e.before) (e.rhs - w * rhs) rest
    ((rhs - e.before * x) / pivot, x :: xs)

def solve : List (Equation α) → List α
  | [] => []
  | e :: rest =>
    let (x, xs) := sweep e.pivot e.rhs rest
    x :: xs

def knots (samples : List (α × α)) : List (Knot α) :=
  List.zipWith (fun (t, v) bend => ⟨t, v, bend⟩) samples (0 :: solve (equations samples) ++ [0])

def pieceSlope (p q : Knot α) (t : α) : α :=
  let h := q.time - p.time
  let a := q.time - t
  let b := t - p.time
  (-p.bend) * a * a / (2 * h) + q.bend * b * b / (2 * h) + (q.value - p.value) / h -
    (q.bend - p.bend) * h / 6

def slopeOn (t : α) : List (Knot α) → α
  | [p, q] => pieceSlope p q t
  | p :: q :: rest => if t < q.time then pieceSlope p q t else slopeOn t (q :: rest)
  | _ => Number.absent

/-- Slope at a time of the natural cubic spline through samples in the order of their times. -/
def slopeAt (times values : List α) (t : α) : α := slopeOn t (knots (times.zip values))

end Synoptic.Series

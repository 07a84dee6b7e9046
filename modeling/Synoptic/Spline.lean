import Synoptic.Grid

namespace Synoptic

/-- Coefficients row by row, one row and column of them beyond the nodes on every side. The first
node lies at `origin`; `orientation` turns the columns anticlockwise, in degrees. -/
structure Spline (α : Type) where
  columns : Nat
  rows : Nat
  coeffs : Array α
  origin : Point α
  orientation : α
  cell : α
  projection : Projection α
  deriving BEq, DecidableEq

namespace Spline

variable {α : Type} [Number α]

def empty : Spline α := ⟨0, 0, #[], .origin, 0, 0, .standard⟩

def Usable (s : Spline α) : Prop :=
  4 ≤ s.columns ∧ 4 ≤ s.rows ∧ 0 < s.cell ∧ s.coeffs.size = s.columns * s.rows

instance (s : Spline α) : Decidable s.Usable := by unfold Usable; infer_instance

def ensureUsable (op : String) (s : Spline α) : Except (ValueError α) Unit :=
  if s.Usable then .ok () else .error (.shape op (.spline s.columns s.rows s.cell))

def sameShape (s t : Spline α) : Bool := s.columns == t.columns && s.rows == t.rows

omit [Number α] in
theorem sameShape_iff {s t : Spline α} :
    s.sameShape t = true ↔ s.columns = t.columns ∧ s.rows = t.rows := by
  rw [sameShape, Bool.and_eq_true, beq_iff_eq, beq_iff_eq]

def mapCoeffs (f : α → α) (s : Spline α) : Spline α := { s with coeffs := s.coeffs.map f }

/-- Combines coefficient by coefficient and keeps the place of the left surface. -/
def zipCoeffs (f : α → α → α) (s t : Spline α) : Spline α :=
  { s with coeffs := Array.zipWith f s.coeffs t.coeffs }

def constant (value : α) (grid : GridSpec α) (projection : Projection α) : Spline α where
  columns := grid.nx + 2
  rows := grid.ny + 2
  coeffs := Array.replicate ((grid.nx + 2) * (grid.ny + 2)) value
  origin := .origin
  orientation := 0
  cell := grid.cell
  projection

def nodes (s : Spline α) : GridSpec α := ⟨s.columns - 2, s.rows - 2, s.cell⟩

end Spline

end Synoptic

import Synoptic.Error
import Synoptic.Projection

namespace Synoptic

variable {α : Type}

/-- `nx * ny` numbers, the one of column `ix` and row `iy` at place `iy * nx + ix`. -/
def tabulate (nx ny : Nat) (f : Nat → Nat → α) : Array α :=
  Array.ofFn (n := nx * ny) fun i => f (i.val % nx) (i.val / nx)

@[simp] theorem size_tabulate (nx ny : Nat) (f : Nat → Nat → α) :
    (tabulate nx ny f).size = nx * ny := by simp [tabulate]

section Index

variable {nx ny ix iy : Nat}

theorem Grid.index_lt (hix : ix < nx) (hiy : iy < ny) : iy * nx + ix < nx * ny := by
  calc
    iy * nx + ix < iy * nx + nx := Nat.add_lt_add_left hix _
    _ = (iy + 1) * nx := (Nat.succ_mul _ _).symm
    _ ≤ ny * nx := Nat.mul_le_mul_right _ hiy
    _ = nx * ny := Nat.mul_comm _ _

theorem Grid.index_mod (hix : ix < nx) : (iy * nx + ix) % nx = ix := by
  rw [Nat.mul_add_mod_self_right, Nat.mod_eq_of_lt hix]

theorem Grid.index_div (hix : ix < nx) : (iy * nx + ix) / nx = iy := by
  rw [Nat.mul_comm, Nat.mul_add_div (Nat.zero_lt_of_lt hix), Nat.div_eq_of_lt hix, Nat.add_zero]

end Index

structure Grid (α : Type) where
  nx : Nat
  ny : Nat
  cell : α
  data : Array α
  deriving BEq, DecidableEq

namespace Grid

variable [Number α]

def empty : Grid α := ⟨0, 0, 0, #[]⟩

def ofData (nx ny : Nat) (cell : α) (data : Array α) : Except (ValueError α) (Grid α) :=
  if data.size = nx * ny then .ok ⟨nx, ny, cell, data⟩
  else .error (.shape "grid" (.gridData data.size nx ny))

def filled (spec : GridSpec α) (value : α) : Grid α :=
  ⟨spec.nx, spec.ny, spec.cell, Array.replicate (spec.nx * spec.ny) value⟩

def ofFn (spec : GridSpec α) (f : Nat → Nat → α) : Grid α :=
  ⟨spec.nx, spec.ny, spec.cell, tabulate spec.nx spec.ny f⟩

def spec (g : Grid α) : GridSpec α := ⟨g.nx, g.ny, g.cell⟩

def get (g : Grid α) (ix iy : Nat) : α := Number.read g.data (iy * g.nx + ix)

def map (f : α → α) (g : Grid α) : Grid α := { g with data := g.data.map f }

end Grid

end Synoptic
